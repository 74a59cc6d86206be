import SecretAccess.Proofs.Appearance
import SecretAccess.Proofs.Resolution

/-!
# The order of the steps

Steps that declare, add members or grant say the same wherever they stand and
however often they are repeated. Only of the steps that register a principal
does the last one count. Runs that agree in this end in the same hierarchy
(`run_order_irrelevant`): neither the relations, which are written a row at a
time, nor the records, which are merged, keep a trace of the order.
-/

namespace SecretAccess

namespace Step

def isRegister : Step → Bool
  | .register .. => true
  | _ => false

/-- The same steps up to order and repetition, and of registrations the same
last keys. -/
structure SameHistory (steps steps' : List Step) : Prop where
  grown : ∀ x : Step, x.isRegister = false → (x ∈ steps ↔ x ∈ steps')
  keys : ∀ p, lastKeys? steps p = lastKeys? steps' p

variable {steps steps' : List Step}

theorem SameHistory.symm (h : SameHistory steps steps') : SameHistory steps' steps where
  grown x hx := (h.grown x hx).symm
  keys p := (h.keys p).symm

theorem SameHistory.any_of_any (h : SameHistory steps steps') {asks : Step → Bool}
    (hr : ∀ p keys, asks (.register p keys) = false) (ha : steps.any asks) :
    steps'.any asks := by
  obtain ⟨x, hx, hax⟩ := List.any_eq_true.mp ha
  -- a registration answers no, so the step is one that both lists hold
  have hn : x.isRegister = false := by
    cases x with
    | register p keys => simp [hr] at hax
    | _ => rfl
  exact List.any_eq_true.mpr ⟨x, (h.grown x hn).mp hx, hax⟩

theorem SameHistory.any_eq (h : SameHistory steps steps') {asks : Step → Bool}
    (hr : ∀ p keys, asks (.register p keys) = false) : steps.any asks = steps'.any asks :=
  Bool.eq_iff_iff.mpr ⟨h.any_of_any hr, h.symm.any_of_any hr⟩

end Step

namespace Hierarchy

open Step (SameHistory)

variable {steps steps' : List Step}

theorem membership_run_eq (h : SameHistory steps steps') :
    (run steps).membership = (run steps').membership := by
  refine (coherent_run steps).membership.ext (coherent_run steps').membership fun g p => ?_
  exact Bool.eq_iff_iff.mpr (isMember_run.trans ((h.grown _ rfl).trans isMember_run.symm))

theorem direct_run_eq (h : SameHistory steps steps') :
    (run steps).direct = (run steps').direct := by
  refine (coherent_run steps).direct.ext (coherent_run steps').direct fun s p => ?_
  rw [Bool.eq_iff_iff, holds_direct_run, holds_direct_run]
  exact h.grown _ rfl

theorem viaGroup_run_eq (h : SameHistory steps steps') :
    (run steps).viaGroup = (run steps').viaGroup := by
  refine (coherent_run steps).viaGroup.ext (coherent_run steps').viaGroup fun s g => ?_
  rw [Bool.eq_iff_iff, holds_viaGroup_run, holds_viaGroup_run]
  exact h.grown _ rfl

theorem LookAlike.of_eq {h k : Hierarchy} (he : h = k) : h.LookAlike k := by
  subst he
  exact .of_views rfl rfl rfl rfl

theorem run_order_irrelevant (h : SameHistory steps steps') :
    run steps = run steps' ∧ (run steps).resolve = (run steps').resolve ∧
      (run steps).LookAlike (run steps') := by
  -- a field at a time: sets by their members, relations by their pairs
  have he : run steps = run steps' := by
    rw [Hierarchy.mk.injEq]
    exact ⟨catalog_run_congr h.keys, groups_run_congr fun _ => h.any_eq fun _ _ => rfl,
      membership_run_eq h, secrets_run_congr fun _ => h.any_eq fun _ _ => rfl,
      direct_run_eq h, viaGroup_run_eq h⟩
  exact ⟨he, congrArg resolve he, .of_eq he⟩

/-- Everything is declared before it is granted. -/
def declaredFirst : List Step :=
  [.register ⟨.user, "ana"⟩ ["old"], .declareGroup "ops", .addMember "ops" ⟨.user, "ana"⟩,
    .declareSecret "db", .grantViaGroup "db" "ops", .register ⟨.user, "ana"⟩ ["new"]]

/-- A secret is granted to a group that is declared later, and twice. -/
def grantedFirst : List Step :=
  [.grantViaGroup "db" "ops", .declareSecret "db", .register ⟨.user, "ana"⟩ ["new"],
    .addMember "ops" ⟨.user, "ana"⟩, .declareGroup "ops", .grantViaGroup "db" "ops"]

theorem run_declaredFirst_eq_grantedFirst :
    SameHistory declaredFirst grantedFirst ∧ run declaredFirst = run grantedFirst ∧
      (run declaredFirst).resolve = (run grantedFirst).resolve ∧
      (run declaredFirst).LookAlike (run grantedFirst) := by
  have h : SameHistory declaredFirst grantedFirst := by
    constructor
    · intro x hx
      cases x <;> simp_all [declaredFirst, grantedFirst, Step.isRegister]
    · intro p
      by_cases hp : (⟨.user, "ana"⟩ : PrincipalId) = p
      · subst hp
        decide
      · simp [declaredFirst, grantedFirst, Step.lastKeys?, Step.keysFor?, List.filterMap_cons, hp]
  exact ⟨h, run_order_irrelevant h⟩

end Hierarchy

end SecretAccess
