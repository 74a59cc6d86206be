import SecretAccess.Access
import SecretAccess.Proofs.Sorted

/-!
# Reading records out of a resolution

The records of a principal are found by looking for where they begin and
reading on until another principal comes. Since records stand in order of
principals first, this finds all of them (`accessOf_eq_filter`).
-/

namespace SecretAccess

theorem compare_empty_ne_lt (s : String) : compare s "" ≠ .lt := by
  intro h
  have hs : s < "" := compareOfLessAndEq_eq_lt.mp h
  exact List.not_lt_nil s.toList (String.lt_iff.mp hs)

/-- In a list that goes from less to equal to greater, the equal part lies
between the less part and the first that is not equal. -/
theorem takeWhile_dropWhile_eq_filter {α : Type} {f : α → Ordering} {l : List α}
    (h : l.Pairwise fun a b => (f b = .lt → f a = .lt) ∧ (f b = .eq → f a ≠ .gt)) :
    (l.dropWhile (f · = .lt)).takeWhile (f · = .eq) = l.filter (f · = .eq) := by
  induction l with
  | nil => rfl
  | cons a l ih =>
    obtain ⟨ha, hl⟩ := List.pairwise_cons.mp h
    have ih := ih hl
    cases hf : f a with
    | lt => simpa [hf] using ih
    | eq =>
      -- nothing less follows, so nothing more is dropped
      have hd : l.dropWhile (f · = .lt) = l := by
        cases l with
        | nil => rfl
        | cons b l =>
          have hb : f b ≠ .lt := fun hb => by simp [(ha b (by simp)).1 hb] at hf
          simp [hb]
      rw [hd] at ih
      simpa [hf] using ih
    | gt =>
      -- nothing equal follows
      have hn : l.filter (f · = .eq) = [] := List.filter_eq_nil_iff.mpr fun b hb => by
        simpa using fun hb' => (ha b hb).2 hb' hf
      simp [hf, hn]

/-- Elements with one part in common stand in the order of the other part. -/
theorem pairwise_map_filter {ε κ κ' α : Type} [Ord κ'] [DecidableEq κ] {part : ε → κ}
    {other : ε → κ'} {value : ε → α} {before : ε → ε → Prop} {l : List ε} (hl : l.Pairwise before)
    (h : ∀ e f, part e = part f → before e f → compare (other e) (other f) = .lt) (k : κ) :
    ((l.filter fun e => part e = k).map fun e => (other e, value e)).Pairwise
      fun x y => compare x.1 y.1 = .lt := by
  refine List.pairwise_map.mpr ((hl.filter _).imp_of_mem fun {e f} he hf hlt => h e f ?_ hlt)
  have he : part e = k := of_decide_eq_true (List.mem_filter.mp he).2
  have hf : part f = k := of_decide_eq_true (List.mem_filter.mp hf).2
  rw [he, hf]

namespace AccessKey

theorem compare_eq (j k : AccessKey) :
    compare j k = (compare j.principal k.principal).then (compare j.secret k.secret) := rfl

/-- The empty secret name opens the records of a principal. -/
theorem compare_opening_eq_lt_iff (k : AccessKey) (p : PrincipalId) :
    compare k ⟨p, ""⟩ = .lt ↔ compare k.principal p = .lt := by
  have hs := compare_empty_ne_lt k.secret
  rw [compare_eq]
  cases compare k.principal p <;> simp [hs]

theorem principal_isLE_of_lt {j k : AccessKey} (h : compare j k = .lt) :
    (compare j.principal k.principal).isLE := by
  rw [compare_eq] at h
  cases hc : compare j.principal k.principal <;> simp_all

theorem entry_eq_iff {e : AccessKey × AccessRecord} {p : PrincipalId} {s : SecretName}
    {a : AccessRecord} :
    e = (⟨p, s⟩, a) ↔ e.1.principal = p ∧ e.1.secret = s ∧ e.2 = a := by
  obtain ⟨⟨q, t⟩, b⟩ := e
  simp [and_assoc]

end AccessKey

namespace Resolution

variable {r : Resolution} {p : PrincipalId} {s : SecretName} {a : AccessRecord}

theorem accessOf_eq_filter (r : Resolution) (p : PrincipalId) :
    r.accessOf p =
      (r.entries.filter fun e => e.1.principal = p).map fun e => (e.1.secret, e.2) := by
  have hp : ∀ q : PrincipalId, q = p ↔ compare q p = .eq := fun q =>
    Std.LawfulEqCmp.compare_eq_iff_eq.symm
  have hs : r.entries.Pairwise fun a b =>
      (compare b.1.principal p = .lt → compare a.1.principal p = .lt) ∧
        (compare b.1.principal p = .eq → compare a.1.principal p ≠ .gt) := by
    refine r.sorted.imp fun {a b} h => ⟨fun hb => ?_, fun hb => ?_⟩
    · exact Std.TransCmp.lt_of_isLE_of_lt (AccessKey.principal_isLE_of_lt h) hb
    · rw [← (hp _).mpr hb]
      simpa [Ordering.isLE_iff_ne_gt] using AccessKey.principal_isLE_of_lt h
  simp only [accessOf, AccessKey.compare_opening_eq_lt_iff, hp]
  exact congrArg _ (takeWhile_dropWhile_eq_filter hs)

theorem mem_accessOf_iff : (s, a) ∈ r.accessOf p ↔ (⟨p, s⟩, a) ∈ r.entries := by
  simp only [accessOf_eq_filter, List.mem_map, List.mem_filter, decide_eq_true_eq, Prod.mk.injEq,
    and_assoc, ← AccessKey.entry_eq_iff]
  exact exists_eq_right

theorem mem_accessTo_iff : (p, a) ∈ r.accessTo s ↔ (⟨p, s⟩, a) ∈ r.entries := by
  simp only [accessTo, List.mem_map, List.mem_filter, decide_eq_true_eq, Prod.mk.injEq, and_assoc,
    and_left_comm (a := _ = s), ← AccessKey.entry_eq_iff]
  exact exists_eq_right

/-- The secrets of a principal come in order. -/
theorem pairwise_accessOf (r : Resolution) (p : PrincipalId) :
    (r.accessOf p).Pairwise fun x y => compare x.1 y.1 = .lt := by
  rw [accessOf_eq_filter]
  refine pairwise_map_filter r.sorted (fun e f hp hlt => ?_) p
  rw [AccessKey.compare_eq, hp] at hlt
  simpa using hlt

/-- The principals of a secret come in order, users first. -/
theorem pairwise_accessTo (r : Resolution) (s : SecretName) :
    (r.accessTo s).Pairwise fun x y => compare x.1 y.1 = .lt := by
  refine pairwise_map_filter r.sorted (fun e f hs hlt => ?_) s
  rw [AccessKey.compare_eq, hs] at hlt
  simpa using hlt

/-- Reading the records of one principal, it does not matter which others
were left out. -/
theorem accessOf_restrict (r : Resolution) {keep : PrincipalId → Bool} {p : PrincipalId}
    (hp : keep p) : accessOf (r.restrict fun k => keep k.principal) p = r.accessOf p := by
  rw [accessOf_eq_filter, accessOf_eq_filter, SortedMap.restrict, List.filter_filter]
  refine congrArg _ (List.filter_congr fun e _ => ?_)
  by_cases he : e.1.principal = p
  · simp [he, hp]
  · simp [he]

end Resolution

end SecretAccess
