import SecretAccess.Relation
import SecretAccess.Sorted.Laws

/-!
# Laws of relations

A relation is the set of its pairs. Relating a pair adds just this pair, seen
from either side, and the two sides never come to differ. Two relations that
were built this way and hold the same pairs are equal.
-/

namespace SecretAccess.Relation

variable {α β : Type} [Ord α] [Ord β]

/-- The two sides hold the same pairs. -/
def Consistent (r : Relation α β) : Prop :=
  ∀ a b, (r.preimage b).contains a = r.holds a b

@[simp] theorem image_empty (a : α) : (∅ : Relation α β).image a = ∅ := rfl

@[simp] theorem preimage_empty (b : β) : (∅ : Relation α β).preimage b = ∅ := rfl

@[simp] theorem holds_empty (a : α) (b : β) : (∅ : Relation α β).holds a b = false := rfl

theorem consistent_empty : (∅ : Relation α β).Consistent := fun _ _ => rfl

/-- No row is kept for what was never related. -/
def Tight (rows : SortedMap α (SortedSet β)) : Prop :=
  ∀ a row, rows.get? a = some row → ∃ b, row.contains b

/-- What relating pairs, from none on, always leaves behind. -/
structure Proper (r : Relation α β) : Prop where
  consistent : r.Consistent
  forward : Tight r.forward
  backward : Tight r.backward

theorem proper_empty : (∅ : Relation α β).Proper where
  consistent := consistent_empty
  forward _ _ h := nomatch h
  backward _ _ h := nomatch h

variable [Std.TransOrd α] [Std.TransOrd β]

theorem relate_of_holds {r : Relation α β} {a : α} {b : β} (h : r.holds a b) :
    r.relate a b = r := by
  simp [relate, h]

variable [Std.LawfulEqOrd α] [Std.LawfulEqOrd β]

theorem Tight.ext {rows rows' : SortedMap α (SortedSet β)} (h : Tight rows) (h' : Tight rows')
    (he : ∀ a b, ((rows.get? a).getD ∅).contains b = ((rows'.get? a).getD ∅).contains b) :
    rows = rows' := by
  refine SortedMap.ext_get? fun a => ?_
  have ha := SortedSet.ext_contains (he a)
  cases hr : rows.get? a with
  | none =>
    cases hr' : rows'.get? a with
    | none => rfl
    | some row' =>
      obtain ⟨b, hb⟩ := h' a row' hr'
      simp only [hr, hr', Option.getD_none, Option.getD_some] at ha
      simp [← ha] at hb
  | some row =>
    cases hr' : rows'.get? a with
    | none =>
      obtain ⟨b, hb⟩ := h a row hr
      simp only [hr, hr', Option.getD_none, Option.getD_some] at ha
      simp [ha] at hb
    | some row' => simpa [hr, hr'] using ha

/-- Proper relations are known by their pairs. -/
theorem Proper.ext {r r' : Relation α β} (h : r.Proper) (h' : r'.Proper)
    (he : ∀ a b, r.holds a b = r'.holds a b) : r = r' := by
  have hf : r.forward = r'.forward := h.forward.ext h'.forward he
  have hb : r.backward = r'.backward := h.backward.ext h'.backward fun b a => by
    have hc := h.consistent a b
    rw [he, ← h'.consistent a b] at hc
    exact hc
  cases r
  cases r'
  simp_all

variable [DecidableEq α] [DecidableEq β]

theorem holds_relate (r : Relation α β) (a c : α) (b d : β) :
    (r.relate a b).holds c d = (c = a && d = b || r.holds c d) := by
  unfold relate
  split
  case isTrue h =>
    by_cases hc : c = a <;> by_cases hd : d = b <;> simp_all
  case isFalse h =>
    unfold holds image at *
    simp only [SortedMap.get?_insert]
    by_cases hc : c = a
    · subst hc
      simp [SortedSet.contains_add]
    · simp [hc]

theorem contains_preimage_relate (r : Relation α β) (h : r.Consistent) (a c : α) (b d : β) :
    ((r.relate a b).preimage d).contains c = (c = a && d = b || (r.preimage d).contains c) := by
  unfold relate
  split
  case isTrue hr =>
    have := h a b
    by_cases hc : c = a <;> by_cases hd : d = b <;> simp_all
  case isFalse hr =>
    unfold preimage at *
    simp only [SortedMap.get?_insert]
    by_cases hd : d = b
    · subst hd
      simp [SortedSet.contains_add]
    · simp [hd]

theorem Consistent.relate {r : Relation α β} (h : r.Consistent) (a : α) (b : β) :
    (r.relate a b).Consistent := by
  intro c d
  rw [contains_preimage_relate r h, holds_relate, h c d]

theorem Tight.insert {rows : SortedMap α (SortedSet β)} (h : Tight rows) (a : α)
    (row : SortedSet β) (b : β) : Tight (rows.insert a (row.add b)) := by
  intro c row' hc
  rw [SortedMap.get?_insert] at hc
  split at hc
  case isTrue =>
    cases hc
    exact ⟨b, by simp [SortedSet.contains_add]⟩
  case isFalse => exact h c row' hc

theorem Proper.relate {r : Relation α β} (h : r.Proper) (a : α) (b : β) :
    (r.relate a b).Proper := by
  refine ⟨h.consistent.relate a b, ?_, ?_⟩
  all_goals
    unfold Relation.relate
    split
  · exact h.forward
  · exact h.forward.insert a _ b
  · exact h.backward
  · exact h.backward.insert b _ a

end SecretAccess.Relation
