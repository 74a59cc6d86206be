import SecretAccess.Proofs.Resolution

/-!
# The visible part of a hierarchy

Steps may name principals that no step registers and groups that no step
declares. Such names dangle. Taking them out of the steps, and keeping the
declarations that came with them, leads to the visible part of the hierarchy:
the same declarations, and of the relations and the resolved records those
that name nothing dangling (`visiblePart_run_clean`).
-/

namespace SecretAccess

namespace Step

/-- What is left of a step when the names that dangle in `steps` are taken out. -/
def cleaned (steps : List Step) : Step → Step
  | .addMember g p => if steps.any (registers p) then .addMember g p else .declareGroup g
  | .grantDirect s p => if steps.any (registers p) then .grantDirect s p else .declareSecret s
  | .grantViaGroup s g =>
    if steps.any (declaresGroup g) then .grantViaGroup s g else .declareSecret s
  | x => x

def clean (steps : List Step) : List Step := steps.map (cleaned steps)

-- ---------------------------------------------------------------------------
-- Declarations stay
-- ---------------------------------------------------------------------------

theorem keysFor?_cleaned (steps : List Step) (p : PrincipalId) (x : Step) :
    (x.cleaned steps).keysFor? p = x.keysFor? p := by
  cases x <;> simp only [cleaned] <;> split <;> rfl

theorem declaresGroup_cleaned (steps : List Step) (g : GroupName) (x : Step) :
    (x.cleaned steps).declaresGroup g = x.declaresGroup g := by
  cases x <;> simp only [cleaned] <;> split <;> rfl

theorem declaresSecret_cleaned (steps : List Step) (s : SecretName) (x : Step) :
    (x.cleaned steps).declaresSecret s = x.declaresSecret s := by
  cases x <;> simp only [cleaned] <;> split <;> rfl

theorem lastKeys?_clean (steps : List Step) (p : PrincipalId) :
    lastKeys? (clean steps) p = lastKeys? steps p := by
  simp only [lastKeys?, clean, List.filterMap_map, Function.comp_def, keysFor?_cleaned]

-- ---------------------------------------------------------------------------
-- Pairs stay when both of their names are declared
-- ---------------------------------------------------------------------------

theorem cleaned_eq_addMember_iff {steps : List Step} {x : Step} {g : GroupName}
    {p : PrincipalId} :
    x.cleaned steps = .addMember g p ↔ steps.any (registers p) ∧ x = .addMember g p := by
  cases x with
  | addMember => grind [cleaned]
  | grantDirect | grantViaGroup => simp only [cleaned]; split <;> simp
  | register | declareGroup | declareSecret => simp [cleaned]

theorem cleaned_eq_grantDirect_iff {steps : List Step} {x : Step} {s : SecretName}
    {p : PrincipalId} :
    x.cleaned steps = .grantDirect s p ↔ steps.any (registers p) ∧ x = .grantDirect s p := by
  cases x with
  | grantDirect => grind [cleaned]
  | addMember | grantViaGroup => simp only [cleaned]; split <;> simp
  | register | declareGroup | declareSecret => simp [cleaned]

theorem cleaned_eq_grantViaGroup_iff {steps : List Step} {x : Step} {s : SecretName}
    {g : GroupName} :
    x.cleaned steps = .grantViaGroup s g ↔
      steps.any (declaresGroup g) ∧ x = .grantViaGroup s g := by
  cases x with
  | grantViaGroup => grind [cleaned]
  | addMember | grantDirect => simp only [cleaned]; split <;> simp
  | register | declareGroup | declareSecret => simp [cleaned]

end Step

namespace Hierarchy

-- ---------------------------------------------------------------------------
-- The run of the cleaned steps
-- ---------------------------------------------------------------------------

theorem isMember_run_clean (steps : List Step) (g : GroupName) (p : PrincipalId) :
    (run (Step.clean steps)).isMember g p =
      ((run steps).isKnown p && (run steps).isMember g p) := by
  rw [Bool.eq_iff_iff, Bool.and_eq_true, isMember_run, isMember_run, isKnown_run]
  simp [Step.clean, Step.cleaned_eq_addMember_iff, and_comm]

theorem holds_direct_run_clean (steps : List Step) (s : SecretName) (p : PrincipalId) :
    (run (Step.clean steps)).direct.holds s p =
      ((run steps).isKnown p && (run steps).direct.holds s p) := by
  rw [Bool.eq_iff_iff, Bool.and_eq_true, holds_direct_run, holds_direct_run, isKnown_run]
  simp [Step.clean, Step.cleaned_eq_grantDirect_iff, and_comm]

theorem holds_viaGroup_run_clean (steps : List Step) (s : SecretName) (g : GroupName) :
    (run (Step.clean steps)).viaGroup.holds s g =
      ((run steps).isKnownGroup g && (run steps).viaGroup.holds s g) := by
  rw [Bool.eq_iff_iff, Bool.and_eq_true, holds_viaGroup_run, holds_viaGroup_run,
    isKnownGroup_run]
  simp [Step.clean, Step.cleaned_eq_grantViaGroup_iff, and_comm]

/-- A grant through a group only ever reaches a member of a declared group, so
that a record is lost for its principal alone. -/
theorem reaches_run_clean {steps : List Step} {s : SecretName} {g : GroupName}
    {p : PrincipalId} :
    (run (Step.clean steps)).viaGroup.holds s g ∧ (run (Step.clean steps)).isMember g p ↔
      (run steps).isKnown p ∧ (run steps).viaGroup.holds s g ∧ (run steps).isMember g p := by
  rw [holds_viaGroup_run_clean, isMember_run_clean, Bool.and_eq_true, Bool.and_eq_true]
  constructor
  · rintro ⟨⟨-, hs⟩, hp, hm⟩
    exact ⟨hp, hs, hm⟩
  · rintro ⟨hp, hs, hm⟩
    exact ⟨⟨isKnownGroup_of_isMember hm, hs⟩, hp, hm⟩

theorem resolve_run_clean (steps : List Step) :
    (run (Step.clean steps)).resolve =
      (run steps).resolve.restrict fun k => (run steps).isKnown k.principal := by
  refine Resolution.ext_answers ?_ ?_ ?_
  · intro ⟨p, s⟩
    rw [SortedMap.contains_restrict, Bool.eq_iff_iff, Bool.and_eq_true, contains_resolve_run,
      contains_resolve_run, holds_direct_run_clean, Bool.and_eq_true]
    simp only [reaches_run_clean, exists_and_left, and_or_left]
  · intro ⟨p, s⟩
    rw [Resolution.isDirect_restrict, Bool.eq_iff_iff, Bool.and_eq_true, isDirect_resolve_run,
      isDirect_resolve_run, holds_direct_run_clean, Bool.and_eq_true]
  · intro ⟨p, s⟩ g
    rw [Resolution.isVia_restrict, Bool.eq_iff_iff, Bool.and_eq_true, isVia_resolve_run,
      isVia_resolve_run, reaches_run_clean]

-- ---------------------------------------------------------------------------
-- The visible part
-- ---------------------------------------------------------------------------

/-- `v` is what remains of `h` when nothing dangling is looked at. -/
structure VisiblePart (v h : Hierarchy) : Prop where
  catalog : v.catalog = h.catalog
  groups : v.groups = h.groups
  secrets : v.secrets = h.secrets
  membersOf : ∀ g, v.membersOf g = (h.membersOf g).restrict h.isKnown
  groupsOf : ∀ p, h.isKnown p → v.groupsOf p = h.groupsOf p
  directPrincipals : ∀ s, v.directPrincipals s = (h.directPrincipals s).restrict h.isKnown
  grantedGroups : ∀ s, v.grantedGroups s = (h.grantedGroups s).restrict h.isKnownGroup
  secretsOf : ∀ g, h.isKnownGroup g → v.secretsOf g = h.secretsOf g
  resolve : v.resolve = h.resolve.restrict fun k => h.isKnown k.principal

theorem visiblePart_run_clean (steps : List Step) :
    (run (Step.clean steps)).VisiblePart (run steps) where
  catalog := catalog_run_congr (Step.lastKeys?_clean steps)
  groups := groups_run_congr fun g => by
    simp only [Step.clean, List.any_map, Function.comp_def, Step.declaresGroup_cleaned]
  secrets := secrets_run_congr fun s => by
    simp only [Step.clean, List.any_map, Function.comp_def, Step.declaresSecret_cleaned]
  membersOf g := SortedSet.eq_restrict fun p => isMember_run_clean steps g p
  groupsOf p hp := SortedSet.ext_contains fun g => by
    rw [(coherent_run _).contains_groupsOf, (coherent_run _).contains_groupsOf,
      isMember_run_clean, hp, Bool.true_and]
  directPrincipals s := SortedSet.eq_restrict fun p => holds_direct_run_clean steps s p
  grantedGroups s := SortedSet.eq_restrict fun g => holds_viaGroup_run_clean steps s g
  secretsOf g hg := SortedSet.ext_contains fun s => by
    rw [(coherent_run _).contains_secretsOf, (coherent_run _).contains_secretsOf,
      holds_viaGroup_run_clean, hg, Bool.true_and]
  resolve := resolve_run_clean steps

end Hierarchy

end SecretAccess
