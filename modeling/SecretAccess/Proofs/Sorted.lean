import SecretAccess.Sorted.Laws

/-!
# Parts of sorted maps

A map restricted to some of its keys answers for these as before and knows
nothing of the others. Listing the members of a restricted set is filtering
the list of its members, so that filtered lists can be compared as sets.
-/

namespace SecretAccess

/-- Where all keys differ, one element has the key of a given one: itself. -/
theorem filter_key_eq_singleton_of_ne {κ α : Type} [DecidableEq κ] {key : α → κ} {l : List α}
    (hl : l.Pairwise fun a b => key a ≠ key b) {a : α} (ha : a ∈ l) :
    l.filter (fun b => key b = key a) = [a] := by
  induction l with
  | nil => cases ha
  | cons b l ih =>
    obtain ⟨hb, hl⟩ := List.pairwise_cons.mp hl
    rcases List.mem_cons.mp ha with rfl | ha
    · have hn : l.filter (fun b => key b = key a) = [] :=
        List.filter_eq_nil_iff.mpr fun c hc he => hb c hc (of_decide_eq_true he).symm
      simp [hn]
    · simp [hb a ha, ih hl ha]

theorem pairwise_ne_of_pairwise_lt {κ α : Type} [Ord κ] [Std.LawfulEqOrd κ] {key : α → κ}
    {l : List α} (hl : l.Pairwise fun a b => compare (key a) (key b) = .lt) :
    l.Pairwise fun a b => key a ≠ key b :=
  hl.imp fun hlt he => by simp [he] at hlt

/-- In a list that increases by key, all keys differ. -/
theorem filter_key_eq_singleton {κ α : Type} [Ord κ] [Std.LawfulEqOrd κ] [DecidableEq κ]
    {key : α → κ} {l : List α} (hl : l.Pairwise fun a b => compare (key a) (key b) = .lt)
    {a : α} (ha : a ∈ l) : l.filter (fun b => key b = key a) = [a] :=
  filter_key_eq_singleton_of_ne (pairwise_ne_of_pairwise_lt hl) ha

namespace SortedMap

variable {κ α : Type} [Ord κ]

/-- The entries whose keys are kept, in their order. -/
def restrict (m : SortedMap κ α) (keep : κ → Bool) : SortedMap κ α :=
  ⟨m.entries.filter fun e => keep e.1, m.sorted.filter _⟩

theorem keys_restrict (m : SortedMap κ α) (keep : κ → Bool) :
    (m.restrict keep).keys = m.keys.filter keep := by
  simp [keys, restrict, List.filter_map, Function.comp_def]

variable [Std.LawfulEqOrd κ]

/-- A key has one entry at most. -/
theorem length_filter_key_le_one [DecidableEq κ] (m : SortedMap κ α) (k : κ) :
    (m.entries.filter fun e => e.1 = k).length ≤ 1 := by
  have hs := m.sorted.filter fun e => decide (e.1 = k)
  rcases hl : m.entries.filter fun e => decide (e.1 = k) with _ | ⟨e, _ | ⟨e', rest⟩⟩
  · simp [hl]
  · simp [hl]
  · have hk : ∀ x ∈ e :: e' :: rest, x.1 = k := fun x hx => by
      rw [← hl] at hx
      simpa using (List.mem_filter.mp hx).2
    rw [hl] at hs
    have hlt : compare e.1 e'.1 = .lt := List.rel_of_pairwise_cons hs (by simp)
    rw [hk e (by simp), hk e' (by simp)] at hlt
    simp at hlt

variable [Std.TransOrd κ]

theorem get?_restrict (m : SortedMap κ α) (keep : κ → Bool) (k : κ) :
    (m.restrict keep).get? k = if keep k then m.get? k else none := by
  ext a
  rw [get?_eq_some_iff]
  split
  case isTrue h => simp [restrict, h, get?_eq_some_iff]
  case isFalse h => simp [restrict, h]

@[simp] theorem contains_restrict (m : SortedMap κ α) (keep : κ → Bool) (k : κ) :
    (m.restrict keep).contains k = (keep k && m.contains k) := by
  unfold contains
  rw [get?_restrict]
  cases keep k <;> simp

/-- The keys are listed in one order only. -/
theorem keys_eq_of_contains {β : Type} {m : SortedMap κ α} {n : SortedMap κ β}
    (h : ∀ k, m.contains k = n.contains k) : m.keys = n.keys := by
  have hm : m.keys.Pairwise fun j k => compare j k = .lt := List.pairwise_map.mpr m.sorted
  have hn : n.keys.Pairwise fun j k => compare j k = .lt := List.pairwise_map.mpr n.sorted
  have hmem : ∀ k, k ∈ m.keys ↔ k ∈ n.keys := fun k => by
    rw [← contains_iff, ← contains_iff, h]
  have he := entries_eq_of_mem_iff (l := m.keys.map (·, ())) (m := n.keys.map (·, ()))
    (List.pairwise_map.mpr hm) (List.pairwise_map.mpr hn) fun e => by simp [hmem]
  simpa [Function.comp_def] using congrArg (List.map Prod.fst) he

theorem isEmpty_iff {m : SortedMap κ α} : m.isEmpty ↔ ∀ k, m.contains k = false := by
  simp [isEmpty, contains, Option.eq_none_iff_forall_ne_some, get?_eq_some_iff,
    List.eq_nil_iff_forall_not_mem]

end SortedMap

namespace SortedSet

variable {α : Type} [Ord α]

theorem pairwise_toList (s : SortedSet α) : s.toList.Pairwise fun a b => compare a b = .lt :=
  List.pairwise_map.mpr s.sorted

theorem nodup_toList [Std.LawfulEqOrd α] (s : SortedSet α) : s.toList.Nodup :=
  @pairwise_ne_of_pairwise_lt α α _ _ id _ (pairwise_toList s)

theorem toList_restrict (s : SortedSet α) (keep : α → Bool) :
    SortedSet.toList (s.restrict keep) = s.toList.filter keep :=
  SortedMap.keys_restrict s keep

variable [Std.TransOrd α] [Std.LawfulEqOrd α]

@[simp] theorem contains_singleton [DecidableEq α] (a b : α) :
    (singleton a).contains b = decide (b = a) := by
  simp [singleton, contains_add]

theorem eq_restrict {s t : SortedSet α} {keep : α → Bool}
    (h : ∀ a, s.contains a = (keep a && t.contains a)) : s = t.restrict keep :=
  ext_contains fun a => by rw [h a, SortedMap.contains_restrict]

end SortedSet

end SecretAccess
