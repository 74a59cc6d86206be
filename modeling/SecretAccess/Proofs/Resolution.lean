import SecretAccess.Access
import SecretAccess.Proofs.History
import SecretAccess.Proofs.Sorted

/-!
# What a resolution holds

A resolution is known by three answers: whether there is a record under a key,
whether it is direct, and which groups it came through. A contribution can turn
each of them to yes and none to no, so a resolution says exactly what its
contributions say, and `resolve_run_exact` says the same of the grants and
memberships of a hierarchy.
-/

namespace SecretAccess

theorem AccessRecord.ext_answers {a b : AccessRecord} (hd : a.direct = b.direct)
    (hv : ∀ g, a.via.contains g = b.via.contains g) : a = b := by
  cases a
  cases b
  simp only [mk.injEq]
  exact ⟨hd, SortedSet.ext_contains hv⟩

theorem AccessRecord.inherited_iff {a : AccessRecord} : a.inherited ↔ ∃ g, a.via.contains g := by
  rw [inherited, Bool.not_eq_true', ← Bool.not_eq_true, SortedMap.isEmpty_iff]
  simp

namespace Contribution

theorem direct_onto (c : Contribution) (a : Option AccessRecord) :
    (c.onto a).direct = (c = .direct c.key.principal c.key.secret || a.any (·.direct)) := by
  cases c <;> cases a <;> simp [onto, key]

theorem contains_via_onto (c : Contribution) (a : Option AccessRecord) (g : GroupName) :
    (c.onto a).via.contains g =
      (c = .via c.key.principal c.key.secret g || a.any (·.via.contains g)) := by
  cases c <;> cases a <;> simp [onto, key, SortedSet.contains_add, eq_comm]

end Contribution

namespace Resolution

/-- Whether there is a record under the key, and it is direct. -/
def isDirect (r : Resolution) (k : AccessKey) : Bool := (r.get? k).any (·.direct)

/-- Whether there is a record under the key, and it came through the group. -/
def isVia (r : Resolution) (k : AccessKey) (g : GroupName) : Bool :=
  (r.get? k).any (·.via.contains g)

theorem contains_iff_exists_mem {r : Resolution} {k : AccessKey} :
    r.contains k ↔ ∃ a, (k, a) ∈ r.entries := by
  simp only [SortedMap.contains, Option.isSome_iff_exists, SortedMap.get?_eq_some_iff]

theorem isDirect_of_mem {r : Resolution} {k : AccessKey} {a : AccessRecord}
    (ha : (k, a) ∈ r.entries) : r.isDirect k = a.direct := by
  rw [isDirect, SortedMap.get?_eq_some_iff.mpr ha, Option.any_some]

theorem isVia_of_mem {r : Resolution} {k : AccessKey} {a : AccessRecord}
    (ha : (k, a) ∈ r.entries) (g : GroupName) : r.isVia k g = a.via.contains g := by
  rw [isVia, SortedMap.get?_eq_some_iff.mpr ha, Option.any_some]

theorem get?_eq_of_answers {r r' : Resolution} {k : AccessKey}
    (hc : r.contains k = r'.contains k) (hd : r.isDirect k = r'.isDirect k)
    (hv : ∀ g, r.isVia k g = r'.isVia k g) : r.get? k = r'.get? k := by
  unfold SortedMap.contains at hc
  unfold isDirect at hd
  unfold isVia at hv
  cases ha : r.get? k with
  | none =>
    cases hb : r'.get? k with
    | none => rfl
    | some b => simp [ha, hb] at hc
  | some a =>
    cases hb : r'.get? k with
    | none => simp [ha, hb] at hc
    | some b =>
      simp only [ha, hb, Option.any_some] at hd hv
      rw [AccessRecord.ext_answers hd hv]

theorem ext_answers {r r' : Resolution} (hc : ∀ k, r.contains k = r'.contains k)
    (hd : ∀ k, r.isDirect k = r'.isDirect k) (hv : ∀ k g, r.isVia k g = r'.isVia k g) :
    r = r' :=
  SortedMap.ext_get? fun k => get?_eq_of_answers (hc k) (hd k) (hv k)

theorem isDirect_restrict (r : Resolution) (keep : AccessKey → Bool) (k : AccessKey) :
    isDirect (r.restrict keep) k = (keep k && r.isDirect k) := by
  unfold isDirect
  rw [SortedMap.get?_restrict]
  cases keep k <;> simp

theorem isVia_restrict (r : Resolution) (keep : AccessKey → Bool) (k : AccessKey)
    (g : GroupName) : isVia (r.restrict keep) k g = (keep k && r.isVia k g) := by
  unfold isVia
  rw [SortedMap.get?_restrict]
  cases keep k <;> simp

-- ---------------------------------------------------------------------------
-- Contributions
-- ---------------------------------------------------------------------------

theorem get?_contribute (r : Resolution) (c : Contribution) (k : AccessKey) :
    (r.contribute c).get? k = if k = c.key then some (c.onto (r.get? c.key)) else r.get? k :=
  SortedMap.get?_upsert r c.key k c.onto

theorem contains_contribute (k : AccessKey) (r : Resolution) (c : Contribution) :
    (r.contribute c).contains k = (c.key = k || r.contains k) := by
  unfold SortedMap.contains
  rw [get?_contribute]
  by_cases hk : k = c.key
  · simp [hk]
  · simp [hk, Ne.symm hk]

theorem isDirect_contribute (k : AccessKey) (r : Resolution) (c : Contribution) :
    (r.contribute c).isDirect k = (c = .direct k.principal k.secret || r.isDirect k) := by
  unfold isDirect
  rw [get?_contribute]
  by_cases hk : k = c.key
  · simp [hk, Contribution.direct_onto]
  · have hne : c ≠ .direct k.principal k.secret := by
      rintro rfl
      exact hk rfl
    simp [hk, hne]

theorem isVia_contribute (k : AccessKey) (g : GroupName) (r : Resolution) (c : Contribution) :
    (r.contribute c).isVia k g = (c = .via k.principal k.secret g || r.isVia k g) := by
  unfold isVia
  rw [get?_contribute]
  by_cases hk : k = c.key
  · simp [hk, Contribution.contains_via_onto]
  · have hne : c ≠ .via k.principal k.secret g := by
      rintro rfl
      exact hk rfl
    simp [hk, hne]

theorem contains_ofContributions {cs : List Contribution} {k : AccessKey} :
    (ofContributions cs).contains k ↔ ∃ c ∈ cs, c.key = k := by
  rw [ofContributions, answer_foldl (fun r : Resolution => r.contains k) _
    (contains_contribute k)]
  simp [SortedMap.contains]

theorem isDirect_ofContributions {cs : List Contribution} {k : AccessKey} :
    (ofContributions cs).isDirect k ↔ .direct k.principal k.secret ∈ cs := by
  rw [ofContributions, answer_foldl (isDirect · k) _ (isDirect_contribute k)]
  simp [isDirect]

theorem isVia_ofContributions {cs : List Contribution} {k : AccessKey} {g : GroupName} :
    (ofContributions cs).isVia k g ↔ .via k.principal k.secret g ∈ cs := by
  rw [ofContributions, answer_foldl (isVia · k g) _ (isVia_contribute k g)]
  simp [isVia]

end Resolution

namespace Hierarchy

-- ---------------------------------------------------------------------------
-- Grants and memberships
-- ---------------------------------------------------------------------------

theorem direct_mem_contributions {h : Hierarchy} {p : PrincipalId} {s : SecretName} :
    .direct p s ∈ h.directContributions ++ h.groupContributions ↔
      h.isSecret s ∧ h.direct.holds s p := by
  simp [directContributions, groupContributions, SortedSet.mem_toList_iff, isSecret]

theorem via_mem_contributions {h : Hierarchy} {p : PrincipalId} {s : SecretName}
    {g : GroupName} :
    .via p s g ∈ h.directContributions ++ h.groupContributions ↔
      h.isSecret s ∧ h.viaGroup.holds s g ∧ h.isMember g p := by
  simp [directContributions, groupContributions, SortedSet.mem_toList_iff, isSecret]

theorem isDirect_resolve_run {steps : List Step} {p : PrincipalId} {s : SecretName} :
    (run steps).resolve.isDirect ⟨p, s⟩ ↔ (run steps).direct.holds s p := by
  rw [resolve, Resolution.isDirect_ofContributions, direct_mem_contributions]
  exact ⟨And.right, fun h => ⟨isSecret_of_direct h, h⟩⟩

theorem isVia_resolve_run {steps : List Step} {p : PrincipalId} {s : SecretName}
    {g : GroupName} :
    (run steps).resolve.isVia ⟨p, s⟩ g ↔
      (run steps).viaGroup.holds s g ∧ (run steps).isMember g p := by
  rw [resolve, Resolution.isVia_ofContributions, via_mem_contributions]
  exact ⟨And.right, fun h => ⟨isSecret_of_viaGroup h.1, h⟩⟩

/-- A record is there exactly when it has something to say. -/
theorem contains_resolve_run {steps : List Step} {p : PrincipalId} {s : SecretName} :
    (run steps).resolve.contains ⟨p, s⟩ ↔
      (run steps).direct.holds s p ∨
        ∃ g, (run steps).viaGroup.holds s g ∧ (run steps).isMember g p := by
  rw [← isDirect_resolve_run]
  simp only [← isVia_resolve_run, resolve, Resolution.contains_ofContributions,
    Resolution.isDirect_ofContributions, Resolution.isVia_ofContributions]
  constructor
  · rintro ⟨c, hc, hk⟩
    cases c <;> cases hk
    · exact .inl hc
    · exact .inr ⟨_, hc⟩
  · rintro (hc | ⟨g, hc⟩)
    · exact ⟨_, hc, rfl⟩
    · exact ⟨_, hc, rfl⟩

theorem mem_entries_resolve_run {steps : List Step} {p : PrincipalId} {s : SecretName}
    {a : AccessRecord} (h : (⟨p, s⟩, a) ∈ (run steps).resolve.entries) :
    (a.direct ↔ (run steps).direct.holds s p) ∧
      ∀ g, a.via.contains g ↔ (run steps).viaGroup.holds s g ∧ (run steps).isMember g p := by
  constructor
  · rw [← isDirect_resolve_run, Resolution.isDirect_of_mem h]
  · intro g
    rw [← isVia_resolve_run, Resolution.isVia_of_mem h]

theorem exists_mem_entries_resolve_run {steps : List Step} {p : PrincipalId} {s : SecretName} :
    (∃ a, (⟨p, s⟩, a) ∈ (run steps).resolve.entries) ↔
      (run steps).direct.holds s p ∨
        ∃ g, (run steps).viaGroup.holds s g ∧ (run steps).isMember g p := by
  rw [← contains_resolve_run, Resolution.contains_iff_exists_mem]

theorem isEmpty_grantsOn_iff {h : Hierarchy} {s : SecretName} :
    (h.grantsOn s).isEmpty ↔
      (∀ p, h.direct.holds s p = false) ∧ ∀ g, h.viaGroup.holds s g = false := by
  simp [Grants.isEmpty, grantsOn, SortedMap.isEmpty_iff]

/-- Two runs that grant alike resolve alike. -/
theorem resolve_run_congr {steps steps' : List Step}
    (hd : ∀ s p, (run steps).direct.holds s p ↔ (run steps').direct.holds s p)
    (hv : ∀ s g p, (run steps).viaGroup.holds s g ∧ (run steps).isMember g p ↔
      (run steps').viaGroup.holds s g ∧ (run steps').isMember g p) :
    (run steps).resolve = (run steps').resolve := by
  refine Resolution.ext_answers ?_ ?_ ?_
  · intro ⟨p, s⟩
    rw [Bool.eq_iff_iff, contains_resolve_run, contains_resolve_run, hd]
    simp only [hv]
  · intro ⟨p, s⟩
    rw [Bool.eq_iff_iff, isDirect_resolve_run, isDirect_resolve_run, hd]
  · intro ⟨p, s⟩ g
    rw [Bool.eq_iff_iff, isVia_resolve_run, isVia_resolve_run, hv]

/-- Every record says something: that the grant is direct, or which groups it
came through. -/
theorem direct_or_inherited_of_mem {steps : List Step} {k : AccessKey} {a : AccessRecord}
    (h : (k, a) ∈ (run steps).resolve.entries) : a.direct ∨ a.inherited := by
  obtain ⟨p, s⟩ := k
  obtain ⟨hd, hv⟩ := mem_entries_resolve_run h
  rw [AccessRecord.inherited_iff, hd]
  simp only [hv]
  exact exists_mem_entries_resolve_run.mp ⟨a, h⟩

theorem accessTo_resolve_run_of_isEmpty {steps : List Step} {s : SecretName}
    (h : ((run steps).grantsOn s).isEmpty) : (run steps).resolve.accessTo s = [] := by
  obtain ⟨hd, hv⟩ := isEmpty_grantsOn_iff.mp h
  rw [Resolution.accessTo, List.map_eq_nil_iff, List.filter_eq_nil_iff]
  rintro ⟨⟨p, t⟩, a⟩ ha ht
  obtain rfl : t = s := by simpa using ht
  rcases exists_mem_entries_resolve_run.mp ⟨a, ha⟩ with hp | ⟨g, hg, -⟩
  · simp [hd] at hp
  · simp [hv] at hg

theorem resolve_run_grantViaGroup_of_isEmpty {steps : List Step} {g : GroupName} (s : SecretName)
    (h : ((run steps).membersOf g).isEmpty) :
    (run (steps ++ [.grantViaGroup s g])).resolve = (run steps).resolve := by
  have hm : ∀ p, (run steps).isMember g p = false := SortedMap.isEmpty_iff.mp h
  refine resolve_run_congr (fun t p => by simp [holds_direct_run]) fun t g' p => ?_
  simp only [run_concat, holds_viaGroup_apply, isMember_apply, reduceCtorEq, decide_false,
    Bool.false_or, Bool.or_eq_true, decide_eq_true_eq, Step.grantViaGroup.injEq]
  constructor
  -- the new pair needs a member of `g`, and there is none
  · rintro ⟨⟨-, rfl⟩ | ht, hp⟩
    · simp [hm] at hp
    · exact ⟨ht, hp⟩
  · exact fun ⟨ht, hp⟩ => ⟨.inr ht, hp⟩

/-- There is one record for a principal and a secret if a grant reaches it, and
none otherwise. It says how the principal was reached and always says something.
A secret without grants has no record, and granting a secret to a group without
members changes none. -/
theorem resolve_run_exact (steps : List Step) (p : PrincipalId) (s : SecretName) :
    ((∃ a, (⟨p, s⟩, a) ∈ (run steps).resolve.entries) ↔
        p ∈ ((run steps).directPrincipals s).toList ∨
          ∃ g ∈ ((run steps).grantedGroups s).toList, p ∈ ((run steps).membersOf g).toList) ∧
      (∀ a, (⟨p, s⟩, a) ∈ (run steps).resolve.entries →
        (a.direct ↔ p ∈ ((run steps).directPrincipals s).toList) ∧
        (∀ g, g ∈ a.via.toList ↔
          g ∈ ((run steps).grantedGroups s).toList ∧ p ∈ ((run steps).membersOf g).toList) ∧
        (a.direct ∨ a.inherited)) ∧
      ((run steps).resolve.entries.filter fun e => e.1 = ⟨p, s⟩).length ≤ 1 ∧
      (((run steps).grantsOn s).isEmpty → (run steps).resolve.accessTo s = []) ∧
      ∀ g, ((run steps).membersOf g).isEmpty →
        (run (steps ++ [.grantViaGroup s g])).resolve = (run steps).resolve := by
  simp only [SortedSet.mem_toList_iff, contains_directPrincipals, contains_grantedGroups,
    contains_membersOf]
  refine ⟨exists_mem_entries_resolve_run, ?_, ?_, ?_, ?_⟩
  · intro a ha
    obtain ⟨hd, hv⟩ := mem_entries_resolve_run ha
    exact ⟨hd, hv, direct_or_inherited_of_mem ha⟩
  · exact SortedMap.length_filter_key_le_one _ _
  · exact accessTo_resolve_run_of_isEmpty
  · exact fun g hg => resolve_run_grantViaGroup_of_isEmpty s hg

end Hierarchy

end SecretAccess
