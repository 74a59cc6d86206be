import SecretAccess.Hierarchy
import SecretAccess.Relation.Laws
import Mathlib.Data.List.Induction

/-!
# A hierarchy as the account of its steps

What a hierarchy answers is settled by the steps it was built from: a name is
declared when some step declares it, a pair is related when some step relates
it, and a principal has the keys it was last registered with. For each answer
there is a lemma on one step; the lemma on a whole run follows from it.
-/

namespace SecretAccess

/-- An answer that a step can only turn to yes asks whether some step does so. -/
theorem answer_foldl {σ α : Type} {step : σ → α → σ} (answer : σ → Bool) (settles : α → Bool)
    (hstep : ∀ s x, answer (step s x) = (settles x || answer s)) (s : σ) (l : List α) :
    answer (l.foldl step s) = (answer s || l.any settles) := by
  induction l generalizing s with
  | nil => simp
  | cons x l ih =>
    rw [List.foldl_cons, ih, hstep, List.any_cons]
    cases answer s <;> cases settles x <;> rfl

namespace Step

/-- The keys that a step registers a principal with, if it does. -/
def keysFor? (p : PrincipalId) : Step → Option (List String)
  | .register q keys => if q = p then some keys else none
  | _ => none

def registers (p : PrincipalId) : Step → Bool
  | .register q _ => q = p
  | _ => false

/-- A group is declared by name or by naming a member, never by a grant. -/
def declaresGroup (g : GroupName) : Step → Bool
  | .declareGroup name | .addMember name _ => name = g
  | _ => false

def declaresSecret (s : SecretName) : Step → Bool
  | .declareSecret name | .grantDirect name _ | .grantViaGroup name _ => name = s
  | _ => false

/-- The keys a principal was last registered with, if it ever was. -/
def lastKeys? (steps : List Step) (p : PrincipalId) : Option (List String) :=
  (steps.filterMap (keysFor? p)).getLast?

theorem isSome_keysFor? (p : PrincipalId) (x : Step) :
    (x.keysFor? p).isSome = x.registers p := by
  cases x with
  | register q keys => by_cases hq : q = p <;> simp [keysFor?, registers, hq]
  | _ => rfl

end Step

namespace Hierarchy

-- ---------------------------------------------------------------------------
-- One step
-- ---------------------------------------------------------------------------

theorem get?_catalog_apply (h : Hierarchy) (x : Step) (p : PrincipalId) :
    (h.apply x).catalog.get? p =
      ((x.keysFor? p).map (Principal.mk p)).or (h.catalog.get? p) := by
  cases x with
  | register q keys =>
    simp only [apply, register, Catalog.register, Step.keysFor?, SortedMap.get?_insert]
    by_cases hp : p = q
    · simp [hp]
    · simp [hp, Ne.symm hp]
  | _ => rfl

theorem isKnown_apply (p : PrincipalId) (h : Hierarchy) (x : Step) :
    (h.apply x).isKnown p = (x.registers p || h.isKnown p) := by
  unfold isKnown SortedMap.contains
  rw [get?_catalog_apply, ← Step.isSome_keysFor?]
  cases x.keysFor? p <;> simp

theorem isKnownGroup_apply (g : GroupName) (h : Hierarchy) (x : Step) :
    (h.apply x).isKnownGroup g = (x.declaresGroup g || h.isKnownGroup g) := by
  cases x with
  | declareGroup | addMember =>
    simp [apply, addMember, declareGroup, isKnownGroup, Step.declaresGroup,
      SortedSet.contains_add, eq_comm]
  | _ => rfl

theorem isSecret_apply (s : SecretName) (h : Hierarchy) (x : Step) :
    (h.apply x).isSecret s = (x.declaresSecret s || h.isSecret s) := by
  cases x with
  | declareSecret | grantDirect | grantViaGroup =>
    simp [apply, grantDirect, grantViaGroup, declareSecret, isSecret, Step.declaresSecret,
      SortedSet.contains_add, eq_comm]
  | _ => rfl

theorem isMember_apply (g : GroupName) (p : PrincipalId) (h : Hierarchy) (x : Step) :
    (h.apply x).isMember g p = (x = .addMember g p || h.isMember g p) := by
  cases x with
  | addMember g' p' => simp [apply, addMember, isMember, Relation.holds_relate, eq_comm]
  | _ => simp [apply, register, declareGroup, declareSecret, grantDirect, grantViaGroup, isMember]

theorem holds_direct_apply (s : SecretName) (p : PrincipalId) (h : Hierarchy) (x : Step) :
    (h.apply x).direct.holds s p = (x = .grantDirect s p || h.direct.holds s p) := by
  cases x with
  | grantDirect s' p' => simp [apply, grantDirect, Relation.holds_relate, eq_comm]
  | _ => simp [apply, register, declareGroup, addMember, declareSecret, grantViaGroup]

theorem holds_viaGroup_apply (s : SecretName) (g : GroupName) (h : Hierarchy) (x : Step) :
    (h.apply x).viaGroup.holds s g = (x = .grantViaGroup s g || h.viaGroup.holds s g) := by
  cases x with
  | grantViaGroup s' g' => simp [apply, grantViaGroup, Relation.holds_relate, eq_comm]
  | _ => simp [apply, register, declareGroup, addMember, declareSecret, grantDirect]

/-- The relations of a hierarchy hold the same pairs on either side. -/
structure Coherent (h : Hierarchy) : Prop where
  membership : h.membership.Proper
  direct : h.direct.Proper
  viaGroup : h.viaGroup.Proper

theorem coherent_empty : (∅ : Hierarchy).Coherent :=
  ⟨Relation.proper_empty, Relation.proper_empty, Relation.proper_empty⟩

theorem Coherent.apply {h : Hierarchy} (hc : h.Coherent) (x : Step) : (h.apply x).Coherent := by
  obtain ⟨hm, hd, hv⟩ := hc
  cases x with
  | addMember g p => exact ⟨hm.relate g p, hd, hv⟩
  | grantDirect s p => exact ⟨hm, hd.relate s p, hv⟩
  | grantViaGroup s g => exact ⟨hm, hd, hv.relate s g⟩
  | register | declareGroup | declareSecret => exact ⟨hm, hd, hv⟩

@[simp] theorem contains_membersOf (h : Hierarchy) (g : GroupName) (p : PrincipalId) :
    (h.membersOf g).contains p = h.isMember g p := rfl

@[simp] theorem contains_directPrincipals (h : Hierarchy) (s : SecretName) (p : PrincipalId) :
    (h.directPrincipals s).contains p = h.direct.holds s p := rfl

@[simp] theorem contains_grantedGroups (h : Hierarchy) (s : SecretName) (g : GroupName) :
    (h.grantedGroups s).contains g = h.viaGroup.holds s g := rfl

theorem Coherent.contains_groupsOf {h : Hierarchy} (hc : h.Coherent) (p : PrincipalId)
    (g : GroupName) : (h.groupsOf p).contains g = h.isMember g p :=
  hc.membership.consistent g p

theorem Coherent.contains_secretsOf {h : Hierarchy} (hc : h.Coherent) (g : GroupName)
    (s : SecretName) : (h.secretsOf g).contains s = h.viaGroup.holds s g :=
  hc.viaGroup.consistent s g

-- ---------------------------------------------------------------------------
-- A run
-- ---------------------------------------------------------------------------

theorem run_concat (steps : List Step) (x : Step) : run (steps ++ [x]) = (run steps).apply x := by
  simp [run]

theorem answer_run (answer : Hierarchy → Bool) (settles : Step → Bool)
    (hempty : answer ∅ = false) (hstep : ∀ h x, answer (h.apply x) = (settles x || answer h))
    (steps : List Step) : answer (run steps) = steps.any settles := by
  rw [run, answer_foldl answer settles hstep, hempty, Bool.false_or]

theorem coherent_run (steps : List Step) : (run steps).Coherent := by
  induction steps using List.reverseRecOn with
  | nil => exact coherent_empty
  | append_singleton steps x ih => exact run_concat steps x ▸ ih.apply x

theorem get?_catalog_run (steps : List Step) (p : PrincipalId) :
    (run steps).catalog.get? p = (Step.lastKeys? steps p).map (Principal.mk p) := by
  induction steps using List.reverseRecOn with
  | nil => rfl
  | append_singleton steps x ih =>
    rw [run_concat, get?_catalog_apply, ih]
    cases hx : x.keysFor? p <;> simp [Step.lastKeys?, List.filterMap_append, hx]

theorem isKnown_run (steps : List Step) (p : PrincipalId) :
    (run steps).isKnown p = steps.any (·.registers p) :=
  answer_run (isKnown · p) _ rfl (isKnown_apply p) steps

theorem catalog_run_congr {steps steps' : List Step}
    (h : ∀ p, Step.lastKeys? steps p = Step.lastKeys? steps' p) :
    (run steps).catalog = (run steps').catalog :=
  SortedMap.ext_get? fun p => by rw [get?_catalog_run, get?_catalog_run, h]

/-- A principal is kept under its own id. -/
theorem isKnown_of_mem_values {steps : List Step} {p : Principal}
    (h : p ∈ (run steps).catalog.values) : (run steps).isKnown p.id := by
  obtain ⟨⟨q, a⟩, he, rfl⟩ := List.mem_map.mp h
  have ha := SortedMap.get?_eq_some_iff.mpr he
  have hk := ha
  rw [get?_catalog_run, Option.map_eq_some_iff] at hk
  obtain ⟨keys, -, rfl⟩ := hk
  simp [isKnown, SortedMap.contains, ha]

theorem isKnownGroup_run (steps : List Step) (g : GroupName) :
    (run steps).isKnownGroup g = steps.any (·.declaresGroup g) :=
  answer_run (isKnownGroup · g) _ rfl (isKnownGroup_apply g) steps

theorem groups_run_congr {steps steps' : List Step}
    (h : ∀ g, steps.any (·.declaresGroup g) = steps'.any (·.declaresGroup g)) :
    (run steps).groups = (run steps').groups := by
  refine SortedSet.ext_contains fun g => ?_
  have hg : (run steps).isKnownGroup g = (run steps').isKnownGroup g := by
    rw [isKnownGroup_run, isKnownGroup_run, h]
  exact hg

theorem isSecret_run (steps : List Step) (s : SecretName) :
    (run steps).isSecret s = steps.any (·.declaresSecret s) :=
  answer_run (isSecret · s) _ rfl (isSecret_apply s) steps

theorem secrets_run_congr {steps steps' : List Step}
    (h : ∀ s, steps.any (·.declaresSecret s) = steps'.any (·.declaresSecret s)) :
    (run steps).secrets = (run steps').secrets := by
  refine SortedSet.ext_contains fun s => ?_
  have hs : (run steps).isSecret s = (run steps').isSecret s := by
    rw [isSecret_run, isSecret_run, h]
  exact hs

theorem isMember_run {steps : List Step} {g : GroupName} {p : PrincipalId} :
    (run steps).isMember g p ↔ .addMember g p ∈ steps := by
  rw [answer_run (isMember · g p) _ rfl (isMember_apply g p)]
  simp

theorem holds_direct_run {steps : List Step} {s : SecretName} {p : PrincipalId} :
    (run steps).direct.holds s p ↔ .grantDirect s p ∈ steps := by
  rw [answer_run (·.direct.holds s p) _ rfl (holds_direct_apply s p)]
  simp

theorem holds_viaGroup_run {steps : List Step} {s : SecretName} {g : GroupName} :
    (run steps).viaGroup.holds s g ↔ .grantViaGroup s g ∈ steps := by
  rw [answer_run (·.viaGroup.holds s g) _ rfl (holds_viaGroup_apply s g)]
  simp

/-- Granting declares the secret, so a grant is never out of sight. -/
theorem isSecret_of_direct {steps : List Step} {s : SecretName} {p : PrincipalId}
    (h : (run steps).direct.holds s p) : (run steps).isSecret s := by
  rw [isSecret_run, List.any_eq_true]
  exact ⟨_, holds_direct_run.mp h, by simp [Step.declaresSecret]⟩

theorem isSecret_of_viaGroup {steps : List Step} {s : SecretName} {g : GroupName}
    (h : (run steps).viaGroup.holds s g) : (run steps).isSecret s := by
  rw [isSecret_run, List.any_eq_true]
  exact ⟨_, holds_viaGroup_run.mp h, by simp [Step.declaresSecret]⟩

/-- Only a declared group has members, but any group may be granted a secret. -/
theorem isKnownGroup_of_isMember {steps : List Step} {g : GroupName} {p : PrincipalId}
    (h : (run steps).isMember g p) : (run steps).isKnownGroup g := by
  rw [isKnownGroup_run, List.any_eq_true]
  exact ⟨_, isMember_run.mp h, by simp [Step.declaresGroup]⟩

end Hierarchy

end SecretAccess
