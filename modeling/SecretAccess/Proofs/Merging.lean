import SecretAccess.Proofs.Resolution
import Mathlib.Data.List.Fold
import Mathlib.Data.List.Perm.Basic

/-!
# Merging contributions

A contribution writes a new record or adds to the one it finds, so the first to
reach a pair does something else than the later ones. Still any two may change
places, and one that was made before changes nothing. What a list of
contributions amounts to is therefore settled by its entries alone, and it is
the one resolution that tells them (`merge_order_free`). That direct grants are
visited before groups, and both by secret, leaves no trace in what is resolved.
-/

namespace SecretAccess

namespace Resolution

/-- The resolution says what the contributions say, and nothing else. -/
structure Tells (r : Resolution) (cs : List Contribution) : Prop where
  recorded : ∀ p s, (∃ a, (⟨p, s⟩, a) ∈ r.entries) ↔ ∃ c ∈ cs, c.key = ⟨p, s⟩
  direct : ∀ p s a, (⟨p, s⟩, a) ∈ r.entries → (a.direct ↔ .direct p s ∈ cs)
  via : ∀ p s a, (⟨p, s⟩, a) ∈ r.entries → ∀ g, g ∈ a.via.toList ↔ .via p s g ∈ cs

variable {r r' : Resolution} {c : Contribution} {cs ds : List Contribution}

-- ---------------------------------------------------------------------------
-- Two contributions
-- ---------------------------------------------------------------------------

/-- Two contributions may change places, whether they reach one pair or two, and
whether or not a record is there. -/
theorem contribute_right_comm (r : Resolution) (c d : Contribution) :
    (r.contribute c).contribute d = (r.contribute d).contribute c := by
  refine ext_answers (fun k => ?_) (fun k => ?_) fun k g => ?_
  · simp only [contains_contribute]
    exact Bool.or_left_comm _ _ _
  · simp only [isDirect_contribute]
    exact Bool.or_left_comm _ _ _
  · simp only [isVia_contribute]
    exact Bool.or_left_comm _ _ _

theorem contribute_contribute_self (r : Resolution) (c : Contribution) :
    (r.contribute c).contribute c = r.contribute c := by
  refine ext_answers (fun k => ?_) (fun k => ?_) fun k g => ?_
  · simp only [contains_contribute, Bool.or_self_left]
  · simp only [isDirect_contribute, Bool.or_self_left]
  · simp only [isVia_contribute, Bool.or_self_left]

instance : RightCommutative contribute := ⟨contribute_right_comm⟩

-- ---------------------------------------------------------------------------
-- Any number of contributions
-- ---------------------------------------------------------------------------

/-- What was contributed before changes nothing, whatever came in between. -/
theorem contribute_foldl_of_mem (r : Resolution) (hc : c ∈ cs) :
    (cs.foldl contribute r).contribute c = cs.foldl contribute r := by
  induction cs generalizing r with
  | nil => cases hc
  | cons d cs ih =>
    rcases List.mem_cons.mp hc with rfl | hc
    · rw [List.foldl_cons_eq_apply_foldl, contribute_contribute_self]
    · exact ih (r.contribute d) hc

theorem foldl_foldl_of_subset (r : Resolution) (h : ds ⊆ cs) :
    ds.foldl contribute (cs.foldl contribute r) = cs.foldl contribute r := by
  induction ds with
  | nil => rfl
  | cons d ds ih =>
    obtain ⟨hd, hds⟩ := List.cons_subset.mp h
    rw [List.foldl_cons, contribute_foldl_of_mem r hd]
    exact ih hds

/-- The same entries amount to the same, whatever is recorded already: either
list changes nothing after the other, and the two may change places. -/
theorem foldl_contribute_congr (r : Resolution) (h : ∀ c, c ∈ cs ↔ c ∈ ds) :
    cs.foldl contribute r = ds.foldl contribute r := by
  have hds : ds ⊆ cs := fun c => (h c).mpr
  have hcs : cs ⊆ ds := fun c => (h c).mp
  calc cs.foldl contribute r
    _ = ds.foldl contribute (cs.foldl contribute r) := (foldl_foldl_of_subset r hds).symm
    _ = (cs ++ ds).foldl contribute r := List.foldl_append.symm
    _ = (ds ++ cs).foldl contribute r := List.perm_append_comm.foldl_eq r
    _ = cs.foldl contribute (ds.foldl contribute r) := List.foldl_append
    _ = ds.foldl contribute r := foldl_foldl_of_subset r hcs

theorem ofContributions_eq_iff :
    ofContributions cs = ofContributions ds ↔ ∀ c, c ∈ cs ↔ c ∈ ds := by
  constructor
  -- whether an entry was there can be read off what it was merged into
  · intro h c
    cases c with
    | direct p s =>
      rw [← isDirect_ofContributions (k := ⟨p, s⟩), ← isDirect_ofContributions (k := ⟨p, s⟩), h]
    | via p s g =>
      rw [← isVia_ofContributions (k := ⟨p, s⟩), ← isVia_ofContributions (k := ⟨p, s⟩), h]
  · exact foldl_contribute_congr ∅

-- ---------------------------------------------------------------------------
-- What a resolution tells
-- ---------------------------------------------------------------------------

theorem tells_ofContributions (cs : List Contribution) : (ofContributions cs).Tells cs where
  recorded p s := by rw [← contains_iff_exists_mem, contains_ofContributions]
  direct p s a ha := by rw [← isDirect_of_mem ha, isDirect_ofContributions]
  via p s a ha g := by
    rw [SortedSet.mem_toList_iff, ← isVia_of_mem ha, isVia_ofContributions]

theorem Tells.mem_of_mem (h : r.Tells cs) (h' : r'.Tells cs) {e : AccessKey × AccessRecord}
    (he : e ∈ r.entries) : e ∈ r'.entries := by
  obtain ⟨⟨p, s⟩, a⟩ := e
  obtain ⟨a', ha'⟩ := (h'.recorded p s).mpr ((h.recorded p s).mp ⟨a, he⟩)
  have hd : a.direct = a'.direct := by
    rw [Bool.eq_iff_iff, h.direct p s a he, h'.direct p s a' ha']
  have hv : ∀ g, a.via.contains g = a'.via.contains g := by
    intro g
    rw [Bool.eq_iff_iff, ← SortedSet.mem_toList_iff, ← SortedSet.mem_toList_iff,
      h.via p s a he, h'.via p s a' ha']
  rwa [AccessRecord.ext_answers hd hv]

theorem Tells.unique (h : r.Tells cs) (h' : r'.Tells cs) : r = r' := by
  refine SortedMap.ext_get? fun k => Option.ext fun a => ?_
  rw [SortedMap.get?_eq_some_iff, SortedMap.get?_eq_some_iff]
  exact ⟨h.mem_of_mem h', h'.mem_of_mem h⟩

theorem eq_ofContributions_iff : r = ofContributions cs ↔ r.Tells cs := by
  constructor
  · rintro rfl
    exact tells_ofContributions cs
  · exact fun h => h.unique (tells_ofContributions cs)

end Resolution

namespace Hierarchy

/-- What the grants and memberships contribute, in no order. -/
def Contributes (h : Hierarchy) : Contribution → Prop
  | .direct p s => s ∈ h.secrets.toList ∧ p ∈ (h.directPrincipals s).toList
  | .via p s g =>
    s ∈ h.secrets.toList ∧ g ∈ (h.grantedGroups s).toList ∧ p ∈ (h.membersOf g).toList

theorem mem_contributions_iff {h : Hierarchy} {c : Contribution} :
    c ∈ h.directContributions ++ h.groupContributions ↔ h.Contributes c := by
  cases c with
  | direct p s =>
    simp only [direct_mem_contributions, Contributes, SortedSet.mem_toList_iff,
      contains_directPrincipals, isSecret]
  | via p s g =>
    simp only [via_mem_contributions, Contributes, SortedSet.mem_toList_iff,
      contains_grantedGroups, contains_membersOf, isSecret]

/-- Secrets, groups and members may be visited in any order, and more than once,
as long as none is left out. -/
theorem ofContributions_eq_resolve_iff {h : Hierarchy} {cs : List Contribution} :
    .ofContributions cs = h.resolve ↔ ∀ c, c ∈ cs ↔ h.Contributes c := by
  rw [resolve, Resolution.ofContributions_eq_iff]
  simp only [mem_contributions_iff]

end Hierarchy

namespace Resolution

/-- A list of contributions amounts to the one resolution that has a record for
each pair the list names, direct if it names the pair directly, and through the
groups it names with the pair. Another list amounts to the same just when it has
the same entries, in whatever order, direct ones and others mixed in any way,
and however often. So it does not matter either in which order a hierarchy is
visited to be resolved. -/
theorem merge_order_free (cs : List Contribution) :
    (∀ r : Resolution, r = ofContributions cs ↔ r.Tells cs) ∧
      (∀ cs', ofContributions cs' = ofContributions cs ↔ ∀ c, c ∈ cs' ↔ c ∈ cs) ∧
      ∀ h : Hierarchy, ofContributions cs = h.resolve ↔ ∀ c, c ∈ cs ↔ h.Contributes c :=
  ⟨fun _ => eq_ofContributions_iff, fun _ => ofContributions_eq_iff,
    fun _ => Hierarchy.ofContributions_eq_resolve_iff⟩

end Resolution

end SecretAccess
