import SecretAccess.Proofs.History
import Mathlib.Data.Set.Basic

/-!
# The indices refine plain relations

Membership and grants are stored twice, by either end, and the second copy is
written only when the first reports something new. Read from outside there is
no trace of this: every look-up, in either direction, is a question about the
plain set of pairs that the steps name (`run_refines_plain_relations`).
-/

namespace SecretAccess

/-- Names and pairs of names, each kept once and in no order. -/
structure PlainRelations where
  groups : Set GroupName
  members : Set (GroupName × PrincipalId)
  secrets : Set SecretName
  direct : Set (SecretName × PrincipalId)
  viaGroup : Set (SecretName × GroupName)

def PlainRelations.ofSteps (steps : List Step) : PlainRelations where
  groups := {g | .declareGroup g ∈ steps ∨ ∃ p, .addMember g p ∈ steps}
  members := {m | .addMember m.1 m.2 ∈ steps}
  secrets := {s | .declareSecret s ∈ steps ∨ (∃ p, .grantDirect s p ∈ steps) ∨
    ∃ g, .grantViaGroup s g ∈ steps}
  direct := {d | .grantDirect d.1 d.2 ∈ steps}
  viaGroup := {v | .grantViaGroup v.1 v.2 ∈ steps}

namespace Hierarchy

/-- Each look-up of a hierarchy, and the set it reads. The grants of a secret
are there only once the secret is declared. -/
structure Refines (h : Hierarchy) (r : PlainRelations) : Prop where
  groups : ∀ g, g ∈ h.groups.toList ↔ g ∈ r.groups
  isKnownGroup : ∀ g, h.isKnownGroup g ↔ g ∈ r.groups
  membersOf : ∀ g p, p ∈ (h.membersOf g).toList ↔ (g, p) ∈ r.members
  isMember : ∀ g p, h.isMember g p ↔ (g, p) ∈ r.members
  groupsOf : ∀ p g, g ∈ (h.groupsOf p).toList ↔ (g, p) ∈ r.members
  secrets : ∀ s, s ∈ h.secrets.toList ↔ s ∈ r.secrets
  isSecret : ∀ s, h.isSecret s ↔ s ∈ r.secrets
  directPrincipals : ∀ s p, p ∈ (h.directPrincipals s).toList ↔ (s, p) ∈ r.direct
  grantsPrincipal : ∀ s p, (∃ g ∈ h.grants? s, g.principals.contains p) ↔ (s, p) ∈ r.direct
  grantedGroups : ∀ s g, g ∈ (h.grantedGroups s).toList ↔ (s, g) ∈ r.viaGroup
  grantsGroup : ∀ s g, (∃ gs ∈ h.grants? s, gs.groups.contains g) ↔ (s, g) ∈ r.viaGroup
  secretsOf : ∀ g s, s ∈ (h.secretsOf g).toList ↔ (s, g) ∈ r.viaGroup

/-- The later hierarchy holds all that the earlier one does. -/
structure Within (h k : Hierarchy) : Prop where
  known : ∀ p, h.isKnown p → k.isKnown p
  groups : ∀ g, h.isKnownGroup g → k.isKnownGroup g
  members : ∀ g p, (h.membersOf g).contains p → (k.membersOf g).contains p
  groupsOf : ∀ p g, (h.groupsOf p).contains g → (k.groupsOf p).contains g
  secrets : ∀ s, h.isSecret s → k.isSecret s
  direct : ∀ s p, (h.directPrincipals s).contains p → (k.directPrincipals s).contains p
  granted : ∀ s g, (h.grantedGroups s).contains g → (k.grantedGroups s).contains g
  secretsOf : ∀ g s, (h.secretsOf g).contains s → (k.secretsOf g).contains s

theorem isKnownGroup_run_iff (steps : List Step) (g : GroupName) :
    (run steps).isKnownGroup g ↔ g ∈ (PlainRelations.ofSteps steps).groups := by
  rw [isKnownGroup_run, List.any_eq_true]
  constructor
  · rintro ⟨x, hx, hd⟩
    cases x with
    | declareGroup name =>
      obtain rfl : name = g := by simpa [Step.declaresGroup] using hd
      exact .inl hx
    | addMember name p =>
      obtain rfl : name = g := by simpa [Step.declaresGroup] using hd
      exact .inr ⟨p, hx⟩
    | register | declareSecret | grantDirect | grantViaGroup =>
      exact absurd hd (by simp [Step.declaresGroup])
  · rintro (hx | ⟨p, hx⟩)
    · exact ⟨_, hx, by simp [Step.declaresGroup]⟩
    · exact ⟨_, hx, by simp [Step.declaresGroup]⟩

theorem isSecret_run_iff (steps : List Step) (s : SecretName) :
    (run steps).isSecret s ↔ s ∈ (PlainRelations.ofSteps steps).secrets := by
  rw [isSecret_run, List.any_eq_true]
  constructor
  · rintro ⟨x, hx, hd⟩
    cases x with
    | declareSecret name =>
      obtain rfl : name = s := by simpa [Step.declaresSecret] using hd
      exact .inl hx
    | grantDirect name p =>
      obtain rfl : name = s := by simpa [Step.declaresSecret] using hd
      exact .inr (.inl ⟨p, hx⟩)
    | grantViaGroup name g =>
      obtain rfl : name = s := by simpa [Step.declaresSecret] using hd
      exact .inr (.inr ⟨g, hx⟩)
    | register | declareGroup | addMember => exact absurd hd (by simp [Step.declaresSecret])
  · rintro (hx | ⟨p, hx⟩ | ⟨g, hx⟩)
    all_goals exact ⟨_, hx, by simp [Step.declaresSecret]⟩

theorem refines_run (steps : List Step) : (run steps).Refines (.ofSteps steps) where
  groups g := SortedSet.mem_toList_iff.trans (isKnownGroup_run_iff steps g)
  isKnownGroup := isKnownGroup_run_iff steps
  membersOf _ _ := SortedSet.mem_toList_iff.trans isMember_run
  isMember _ _ := isMember_run
  groupsOf p g := by
    rw [SortedSet.mem_toList_iff, (coherent_run steps).contains_groupsOf]
    exact isMember_run
  secrets s := SortedSet.mem_toList_iff.trans (isSecret_run_iff steps s)
  isSecret := isSecret_run_iff steps
  directPrincipals _ _ := SortedSet.mem_toList_iff.trans holds_direct_run
  grantsPrincipal s p := by
    have hs : (run steps).direct.holds s p → (run steps).isSecret s := isSecret_of_direct
    have hd : (run steps).direct.holds s p ↔ (s, p) ∈ (PlainRelations.ofSteps steps).direct :=
      holds_direct_run
    -- an undeclared secret has no grants to look into, and was granted to no one
    unfold grants?
    split <;> simp_all [grantsOn]
  grantedGroups _ _ := SortedSet.mem_toList_iff.trans holds_viaGroup_run
  grantsGroup s g := by
    have hs : (run steps).viaGroup.holds s g → (run steps).isSecret s := isSecret_of_viaGroup
    have hv : (run steps).viaGroup.holds s g ↔ (s, g) ∈ (PlainRelations.ofSteps steps).viaGroup :=
      holds_viaGroup_run
    unfold grants?
    split <;> simp_all [grantsOn]
  secretsOf g s := by
    rw [SortedSet.mem_toList_iff, (coherent_run steps).contains_secretsOf]
    exact holds_viaGroup_run

theorem Coherent.within_apply {h : Hierarchy} (hc : h.Coherent) (x : Step) :
    h.Within (h.apply x) where
  known p hp := by simp [isKnown_apply, hp]
  groups g hg := by simp [isKnownGroup_apply, hg]
  members g p hm := by simp_all [isMember_apply]
  groupsOf p g hg := by
    rw [hc.contains_groupsOf] at hg
    rw [(hc.apply x).contains_groupsOf, isMember_apply]
    simp [hg]
  secrets s hs := by simp [isSecret_apply, hs]
  direct s p hd := by simp_all [holds_direct_apply]
  granted s g hg := by simp_all [holds_viaGroup_apply]
  secretsOf g s hs := by
    rw [hc.contains_secretsOf] at hs
    rw [(hc.apply x).contains_secretsOf, holds_viaGroup_apply]
    simp [hs]

theorem declareGroup_of_isKnownGroup {h : Hierarchy} {g : GroupName} (hg : h.isKnownGroup g) :
    h.declareGroup g = h := by
  simp only [declareGroup, SortedSet.add_of_contains hg]

theorem declareSecret_of_isSecret {h : Hierarchy} {s : SecretName} (hs : h.isSecret s) :
    h.declareSecret s = h := by
  simp only [declareSecret, SortedSet.add_of_contains hs]

/-- After every step all look-ups read the plain sets, so both directions of a
relation agree. No step takes anything away, and declaring what is declared
changes nothing. -/
theorem run_refines_plain_relations (steps : List Step) :
    (run steps).Refines (.ofSteps steps) ∧
      (∀ g p, g ∈ ((run steps).groupsOf p).toList ↔ p ∈ ((run steps).membersOf g).toList) ∧
      (∀ s g, s ∈ ((run steps).secretsOf g).toList ↔ g ∈ ((run steps).grantedGroups s).toList) ∧
      (∀ x, (run steps).Within (run (steps ++ [x]))) ∧
      (∀ g, (run steps).isKnownGroup g → run (steps ++ [.declareGroup g]) = run steps) ∧
      ∀ s, (run steps).isSecret s → run (steps ++ [.declareSecret s]) = run steps := by
  have hr := refines_run steps
  refine ⟨hr, ?_, ?_, ?_, ?_, ?_⟩
  · exact fun g p => (hr.groupsOf p g).trans (hr.membersOf g p).symm
  · exact fun s g => (hr.secretsOf g s).trans (hr.grantedGroups s g).symm
  · intro x
    rw [run_concat]
    exact (coherent_run steps).within_apply x
  · intro g hg
    rw [run_concat]
    exact declareGroup_of_isKnownGroup hg
  · intro s hs
    rw [run_concat]
    exact declareSecret_of_isSecret hs

end Hierarchy

end SecretAccess
