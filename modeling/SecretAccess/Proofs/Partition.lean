import Mathlib.Algebra.BigOperators.Finprod
import SecretAccess.Proofs.Queries

/-!
# Records by principal and by secret

A resolution is asked for the records of a principal, found where they begin,
or for the records of a secret, picked out of all. Either answer holds all the
records there are for what was asked and no others. So the two always agree,
and the answers for all principals, or for all secrets, share the records out
among them (`queries_partition`).
-/

namespace SecretAccess

/-- Sorted by key into groups, a list loses nothing and gains nothing. -/
theorem finsum_length_filter_key {α κ : Type} [DecidableEq κ] (l : List α) (key : α → κ) :
    ∑ᶠ k, (l.filter fun a => key a = k).length = l.length := by
  have hcount : ∀ k, (l.filter fun a => key a = k).length = (l.map key).count k := by
    intro k
    rw [List.count, List.countP_map, List.countP_eq_length_filter]
    rfl
  have hsupport : Function.support (fun k => (l.map key).count k) ⊆ (l.map key).toFinset := by
    intro k hk
    simpa [List.count_eq_zero] using hk
  simp only [hcount]
  rw [finsum_eq_sum_of_support_subset _ hsupport, List.sum_toFinset_count_eq_length,
    List.length_map]

namespace Resolution

theorem lookup_accessOf (r : Resolution) (p : PrincipalId) (s : SecretName) :
    SortedMap.lookup s (r.accessOf p) = r.get? ⟨p, s⟩ := by
  ext a
  rw [SortedMap.lookup_eq_some_iff (r.pairwise_accessOf p), mem_accessOf_iff,
    SortedMap.get?_eq_some_iff]

theorem lookup_accessTo (r : Resolution) (p : PrincipalId) (s : SecretName) :
    SortedMap.lookup p (r.accessTo s) = r.get? ⟨p, s⟩ := by
  ext a
  rw [SortedMap.lookup_eq_some_iff (r.pairwise_accessTo s), mem_accessTo_iff,
    SortedMap.get?_eq_some_iff]

theorem finsum_length_accessOf (r : Resolution) : ∑ᶠ p, (r.accessOf p).length = r.size := by
  simp only [accessOf_eq_filter, List.length_map]
  exact finsum_length_filter_key r.entries (·.1.principal)

theorem finsum_length_accessTo (r : Resolution) : ∑ᶠ s, (r.accessTo s).length = r.size := by
  simp only [accessTo, List.length_map]
  exact finsum_length_filter_key r.entries (·.1.secret)

/-- The records of a principal are found where they begin, up to the first of
another principal, and these are all of them. Asked for a principal or for a
secret, a resolution answers with a map, and both maps hold the record of the
two, if there is one. Over all principals, and over all secrets, the answers
hold as many records as there are. -/
theorem queries_partition (r : Resolution) :
    (∀ p, r.accessOf p =
      (r.entries.filter fun e => e.1.principal = p).map fun e => (e.1.secret, e.2)) ∧
    (∀ p, (r.accessOf p).Pairwise fun x y => compare x.1 y.1 = .lt) ∧
    (∀ s, (r.accessTo s).Pairwise fun x y => compare x.1 y.1 = .lt) ∧
    (∀ p s a, ((s, a) ∈ r.accessOf p ↔ (⟨p, s⟩, a) ∈ r.entries) ∧
      ((p, a) ∈ r.accessTo s ↔ (⟨p, s⟩, a) ∈ r.entries)) ∧
    (∀ p s, SortedMap.lookup s (r.accessOf p) = r.get? ⟨p, s⟩ ∧
      SortedMap.lookup p (r.accessTo s) = r.get? ⟨p, s⟩) ∧
    ∑ᶠ p, (r.accessOf p).length = r.size ∧ ∑ᶠ s, (r.accessTo s).length = r.size := by
  refine ⟨r.accessOf_eq_filter, r.pairwise_accessOf, r.pairwise_accessTo, ?_, ?_, ?_, ?_⟩
  · exact fun p s a => ⟨mem_accessOf_iff, mem_accessTo_iff⟩
  · exact fun p s => ⟨r.lookup_accessOf p s, r.lookup_accessTo p s⟩
  · exact r.finsum_length_accessOf
  · exact r.finsum_length_accessTo

end Resolution

end SecretAccess
