import SecretAccess.Sorted.Set

/-!
# Laws of sorted maps and sets

Look-up is the view of a map: it says what is stored after an operation, and
two maps that answer every look-up alike are the same map. None of this asks
how the map was built.
-/

namespace SecretAccess

namespace SortedMap

variable {κ α : Type} [Ord κ]

@[simp] theorem get?_empty (k : κ) : (∅ : SortedMap κ α).get? k = none := rfl

variable [Std.TransOrd κ]

theorem lookup_upsertEntries_self (k : κ) (f : Option α → α) (l : List (κ × α)) :
    lookup k (upsertEntries k f l) = some (f (lookup k l)) := by
  induction l with
  | nil => simp [upsertEntries, lookup]
  | cons e l ih =>
    rw [upsertEntries, lookup]
    split <;> simp_all [lookup]

theorem lookup_upsertEntries_of_ne {j k : κ} (hjk : compare j k ≠ .eq) (f : Option α → α)
    (l : List (κ × α)) : lookup j (upsertEntries k f l) = lookup j l := by
  induction l with
  | nil =>
    cases h : compare j k with
    | eq => exact absurd h hjk
    | lt | gt => simp [upsertEntries, lookup, h]
  | cons e l ih =>
    obtain ⟨key, a⟩ := e
    rw [upsertEntries]
    split
    case h_1 hk =>
      cases h : compare j k with
      | eq => exact absurd h hjk
      | lt => simp [lookup, h, Std.TransCmp.lt_trans h hk]
      | gt => simp [lookup, h]
    case h_2 hk =>
      have hj : compare j key ≠ .eq := fun h =>
        hjk (Std.TransCmp.eq_trans h (Std.OrientedCmp.eq_symm hk))
      cases h : compare j key with
      | eq => exact absurd h hj
      | lt | gt => simp [lookup, h]
    case h_3 => cases h : compare j key <;> simp [lookup, h, ih]

variable [Std.LawfulEqOrd κ]

theorem get?_upsert [DecidableEq κ] (m : SortedMap κ α) (k j : κ) (f : Option α → α) :
    (m.upsert k f).get? j = if j = k then some (f (m.get? k)) else m.get? j := by
  split
  case isTrue h => exact h ▸ lookup_upsertEntries_self k f m.entries
  case isFalse h =>
    exact lookup_upsertEntries_of_ne (fun he => h (Std.LawfulEqCmp.eq_of_compare he)) f m.entries

theorem get?_insert [DecidableEq κ] (m : SortedMap κ α) (k j : κ) (a : α) :
    (m.insert k a).get? j = if j = k then some a else m.get? j :=
  get?_upsert m k j fun _ => a

theorem lookup_eq_some_iff {k : κ} {a : α} {l : List (κ × α)}
    (hl : l.Pairwise (fun x y => compare x.1 y.1 = .lt)) :
    lookup k l = some a ↔ (k, a) ∈ l := by
  induction l with
  | nil => simp [lookup]
  | cons e l ih =>
    obtain ⟨key, b⟩ := e
    obtain ⟨hkey, hl⟩ := List.pairwise_cons.mp hl
    rw [lookup]
    split
    case h_1 h =>
      have hn : (k, a) ∉ (key, b) :: l := by
        intro hm
        rcases List.mem_cons.mp hm with he | hm
        · obtain rfl : k = key := congrArg Prod.fst he
          simp at h
        · exact absurd (Std.TransCmp.lt_trans h (hkey _ hm)) (by simp)
      simp [hn]
    case h_2 h =>
      obtain rfl : k = key := Std.LawfulEqCmp.eq_of_compare h
      have hn : (k, a) ∉ l := fun hm => absurd (hkey _ hm) (by simp)
      simp [hn, eq_comm]
    case h_3 h =>
      have hne : k ≠ key := by
        rintro rfl
        simp at h
      rw [ih hl]
      simp [hne]

theorem get?_eq_some_iff {m : SortedMap κ α} {k : κ} {a : α} :
    m.get? k = some a ↔ (k, a) ∈ m.entries :=
  lookup_eq_some_iff m.sorted

theorem contains_iff {m : SortedMap κ α} {k : κ} : m.contains k ↔ k ∈ m.keys := by
  simp [contains, keys, Option.isSome_iff_exists, get?_eq_some_iff]

theorem entries_eq_of_mem_iff {l m : List (κ × α)}
    (hl : l.Pairwise (fun x y => compare x.1 y.1 = .lt))
    (hm : m.Pairwise (fun x y => compare x.1 y.1 = .lt)) (h : ∀ e, e ∈ l ↔ e ∈ m) : l = m := by
  induction l generalizing m with
  | nil =>
    cases m with
    | nil => rfl
    | cons e m => exact absurd ((h e).mpr (by simp)) (by simp)
  | cons e l ih =>
    cases m with
    | nil => exact absurd ((h e).mp (by simp)) (by simp)
    | cons e' m =>
      obtain ⟨he, hl⟩ := List.pairwise_cons.mp hl
      obtain ⟨he', hm⟩ := List.pairwise_cons.mp hm
      obtain rfl : e = e' := by
        rcases List.mem_cons.mp ((h e).mp (by simp)) with heq | hem
        · exact heq
        rcases List.mem_cons.mp ((h e').mpr (by simp)) with heq | hel
        · exact heq.symm
        · exact absurd (Std.TransCmp.lt_trans (he' e hem) (he e' hel)) (by simp)
      have hel : e ∉ l := fun h => absurd (he e h) (by simp)
      have hem : e ∉ m := fun h => absurd (he' e h) (by simp)
      refine congrArg (e :: ·) (ih (by assumption) (by assumption) fun x => ?_)
      have hx := h x
      by_cases hxe : x = e
      · simp [hxe, hel, hem]
      · simpa [hxe] using hx

theorem ext_get? {m n : SortedMap κ α} (h : ∀ k, m.get? k = n.get? k) : m = n := by
  obtain ⟨l, hl⟩ := m
  obtain ⟨l', hl'⟩ := n
  suffices he : l = l' by subst he; rfl
  refine entries_eq_of_mem_iff hl hl' fun e => ?_
  have hk : lookup e.1 l = lookup e.1 l' := h e.1
  rw [← lookup_eq_some_iff (k := e.1) (a := e.2) hl, ← lookup_eq_some_iff (k := e.1) (a := e.2) hl',
    hk]

end SortedMap

namespace SortedSet

variable {α : Type} [Ord α]

@[simp] theorem contains_empty (a : α) : (∅ : SortedSet α).contains a = false := rfl

variable [Std.TransOrd α] [Std.LawfulEqOrd α]

theorem mem_toList_iff {s : SortedSet α} {a : α} : a ∈ s.toList ↔ s.contains a :=
  SortedMap.contains_iff.symm

theorem contains_add [DecidableEq α] (s : SortedSet α) (a b : α) :
    (s.add a).contains b = (b = a || s.contains b) := by
  unfold add SortedMap.contains
  rw [SortedMap.get?_insert]
  by_cases h : b = a <;> simp [h]

/-- A set is known by its members. -/
theorem ext_contains {s t : SortedSet α} (h : ∀ a, s.contains a = t.contains a) : s = t :=
  SortedMap.ext_get? fun a => by
    have ha := h a
    unfold SortedMap.contains at ha
    cases hs : s.get? a <;> cases ht : t.get? a <;> simp_all

theorem add_of_contains [DecidableEq α] {s : SortedSet α} {a : α} (h : s.contains a) :
    s.add a = s :=
  ext_contains fun b => by
    rw [contains_add]
    by_cases hb : b = a <;> simp [hb, h]

end SortedSet

end SecretAccess
