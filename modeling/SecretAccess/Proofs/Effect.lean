import SecretAccess.Proofs.Refinement
import SecretAccess.Proofs.Resolution

/-!
# What one step does to resolved access

The resolution is computed anew from all grants and memberships, yet a step
changes only the records that its own pair reaches: a direct grant one record,
a grant to a group one for each member, a new member one for each secret of
the group. All other records stay as they are, and nothing is ever taken away
(`resolve_step_exact`).
-/

namespace SecretAccess

namespace Resolution

/-- The groups that access came through, none where there is no record. -/
def groupsAt (r : Resolution) (k : AccessKey) : SortedSet GroupName :=
  (r.get? k).elim ∅ (·.via)

/-- The later resolution has all records of the earlier one, and each says
there at least what it said before. -/
def Grows (r r' : Resolution) : Prop :=
  ∀ k a, r.get? k = some a →
    ∃ a', r'.get? k = some a' ∧ (a.direct → a'.direct) ∧ ∀ g ∈ a.via.toList, g ∈ a'.via.toList

theorem contains_groupsAt (r : Resolution) (k : AccessKey) (g : GroupName) :
    (r.groupsAt k).contains g = r.isVia k g := by
  unfold groupsAt isVia
  cases r.get? k <;> rfl

theorem get?_eq_some_of_answers {r : Resolution} {k : AccessKey} {a : AccessRecord}
    (hc : r.contains k) (hd : r.isDirect k = a.direct)
    (hv : ∀ g, r.isVia k g = a.via.contains g) : r.get? k = some a := by
  obtain ⟨b, hb⟩ := Option.isSome_iff_exists.mp hc
  simp only [isDirect, isVia, hb, Option.any_some] at hd hv
  rw [hb, AccessRecord.ext_answers hd hv]

theorem Grows.refl (r : Resolution) : r.Grows r := fun _ a ha => ⟨a, ha, id, fun _ => id⟩

theorem Grows.trans {r r' r'' : Resolution} (h : r.Grows r') (h' : r'.Grows r'') :
    r.Grows r'' := by
  intro k a ha
  obtain ⟨b, hb, hdb, hvb⟩ := h k a ha
  obtain ⟨c, hc, hdc, hvc⟩ := h' k b hb
  exact ⟨c, hc, hdc ∘ hdb, fun g hg => hvc g (hvb g hg)⟩

theorem Grows.of_answers {r r' : Resolution} (hc : ∀ k, r.contains k → r'.contains k)
    (hd : ∀ k, r.isDirect k → r'.isDirect k) (hv : ∀ k g, r.isVia k g → r'.isVia k g) :
    r.Grows r' := by
  intro k a ha
  obtain ⟨b, hb⟩ := Option.isSome_iff_exists.mp (hc k (by simp [SortedMap.contains, ha]))
  have hdk := hd k
  have hvk := hv k
  simp only [isDirect, isVia, ha, hb, Option.any_some] at hdk hvk
  refine ⟨b, hb, hdk, fun g hg => ?_⟩
  exact SortedSet.mem_toList_iff.mpr (hvk g (SortedSet.mem_toList_iff.mp hg))

end Resolution

/-- The steps that relate two names. -/
def Step.isRelating : Step → Bool
  | .addMember .. | .grantDirect .. | .grantViaGroup .. => true
  | .register .. | .declareGroup _ | .declareSecret _ => false

namespace Hierarchy

/-- The hierarchy already holds the pair that the step relates. -/
def Relates (h : Hierarchy) : Step → Prop
  | .addMember g p => p ∈ (h.membersOf g).toList
  | .grantDirect s p => p ∈ (h.directPrincipals s).toList
  | .grantViaGroup s g => g ∈ (h.grantedGroups s).toList
  | .register .. | .declareGroup _ | .declareSecret _ => False

/-- The records `r'` after a step, in terms of the records `r` before it. -/
def StepEffect (h : Hierarchy) (r r' : Resolution) : Step → Prop
  | .grantDirect s p => ∀ k, r'.get? k =
      if k = ⟨p, s⟩ then some ⟨true, r.groupsAt k⟩ else r.get? k
  | .grantViaGroup s g => ∀ k, r'.get? k =
      if k.secret = s ∧ k.principal ∈ (h.membersOf g).toList then
        some ⟨r.isDirect k, (r.groupsAt k).add g⟩
      else r.get? k
  | .addMember g p => ∀ k, r'.get? k =
      if k.principal = p ∧ g ∈ (h.grantedGroups k.secret).toList then
        some ⟨r.isDirect k, (r.groupsAt k).add g⟩
      else r.get? k
  | .register .. | .declareGroup _ | .declareSecret _ => r' = r

variable {steps : List Step}

-- ---------------------------------------------------------------------------
-- Answers after a step
-- ---------------------------------------------------------------------------

theorem contains_resolve_run_iff_answers {k : AccessKey} :
    (run steps).resolve.contains k ↔
      (run steps).resolve.isDirect k ∨ ∃ g, (run steps).resolve.isVia k g := by
  simp only [isDirect_resolve_run (p := k.principal), isVia_resolve_run (p := k.principal)]
  exact contains_resolve_run

theorem isDirect_resolve_concat {x : Step} {k : AccessKey} :
    (run (steps ++ [x])).resolve.isDirect k ↔
      x = .grantDirect k.secret k.principal ∨ (run steps).resolve.isDirect k := by
  rw [isDirect_resolve_run (p := k.principal), isDirect_resolve_run (p := k.principal),
    run_concat, holds_direct_apply]
  simp

theorem isVia_resolve_concat {x : Step} {k : AccessKey} {g : GroupName} :
    (run (steps ++ [x])).resolve.isVia k g ↔
      x = .grantViaGroup k.secret g ∧ (run steps).isMember g k.principal ∨
        x = .addMember g k.principal ∧ (run steps).viaGroup.holds k.secret g ∨
        (run steps).resolve.isVia k g := by
  rw [isVia_resolve_run (p := k.principal), isVia_resolve_run (p := k.principal), run_concat,
    holds_viaGroup_apply, isMember_apply]
  simp only [Bool.or_eq_true, decide_eq_true_eq]
  constructor
  · rintro ⟨rfl | hs, hx | hm⟩
    · cases hx
    · exact .inl ⟨rfl, hm⟩
    · exact .inr (.inl ⟨hx, hs⟩)
    · exact .inr (.inr ⟨hs, hm⟩)
  · rintro (⟨hx, hm⟩ | ⟨hx, hs⟩ | ⟨hs, hm⟩)
    · exact ⟨.inl hx, .inr hm⟩
    · exact ⟨.inr hs, .inl hx⟩
    · exact ⟨.inr hs, .inr hm⟩

theorem get?_resolve_run_congr {steps' : List Step} {k : AccessKey}
    (hd : (run steps').resolve.isDirect k ↔ (run steps).resolve.isDirect k)
    (hv : ∀ g, (run steps').resolve.isVia k g ↔ (run steps).resolve.isVia k g) :
    (run steps').resolve.get? k = (run steps).resolve.get? k := by
  refine Resolution.get?_eq_of_answers (Bool.eq_iff_iff.mpr ?_) (Bool.eq_iff_iff.mpr hd)
    fun g => Bool.eq_iff_iff.mpr (hv g)
  rw [contains_resolve_run_iff_answers, contains_resolve_run_iff_answers, hd]
  simp only [hv]

-- ---------------------------------------------------------------------------
-- One lemma for each kind of step
-- ---------------------------------------------------------------------------

theorem get?_resolve_grantDirect (s : SecretName) (p : PrincipalId) (k : AccessKey) :
    (run (steps ++ [.grantDirect s p])).resolve.get? k =
      if k = ⟨p, s⟩ then some ⟨true, (run steps).resolve.groupsAt k⟩
      else (run steps).resolve.get? k := by
  have hv : ∀ g, (run (steps ++ [.grantDirect s p])).resolve.isVia k g ↔
      (run steps).resolve.isVia k g := fun g => by simp [isVia_resolve_concat]
  split
  case isTrue hk =>
    have hd : (run (steps ++ [.grantDirect s p])).resolve.isDirect k :=
      isDirect_resolve_concat.mpr (.inl (by rw [hk]))
    refine Resolution.get?_eq_some_of_answers ?_ hd fun g => ?_
    · exact contains_resolve_run_iff_answers.mpr (.inl hd)
    · rw [Resolution.contains_groupsAt, Bool.eq_iff_iff, hv]
  case isFalse hk =>
    refine get?_resolve_run_congr ?_ hv
    rw [isDirect_resolve_concat]
    refine or_iff_right fun hx => hk ?_
    cases hx
    rfl

/-- A step that lets one group reach some of the keys. -/
theorem get?_resolve_concat_of_reaches {x : Step} {k : AccessKey} {g : GroupName}
    {reached : Prop} [Decidable reached] (hd : x ≠ .grantDirect k.secret k.principal)
    (hv : ∀ f, (run (steps ++ [x])).resolve.isVia k f ↔
      f = g ∧ reached ∨ (run steps).resolve.isVia k f) :
    (run (steps ++ [x])).resolve.get? k =
      if reached then some ⟨(run steps).resolve.isDirect k, ((run steps).resolve.groupsAt k).add g⟩
      else (run steps).resolve.get? k := by
  have hd' : (run (steps ++ [x])).resolve.isDirect k ↔ (run steps).resolve.isDirect k := by
    rw [isDirect_resolve_concat]
    exact or_iff_right hd
  split
  case isTrue hr =>
    refine Resolution.get?_eq_some_of_answers ?_ (Bool.eq_iff_iff.mpr hd') fun f => ?_
    · exact contains_resolve_run_iff_answers.mpr (.inr ⟨g, (hv g).mpr (.inl ⟨rfl, hr⟩)⟩)
    · rw [SortedSet.contains_add, Resolution.contains_groupsAt, Bool.eq_iff_iff, hv]
      simp [hr]
  case isFalse hr =>
    refine get?_resolve_run_congr hd' fun f => ?_
    rw [hv]
    exact or_iff_right fun h => hr h.2

theorem get?_resolve_grantViaGroup (s : SecretName) (g : GroupName) (k : AccessKey) :
    (run (steps ++ [.grantViaGroup s g])).resolve.get? k =
      if k.secret = s ∧ k.principal ∈ ((run steps).membersOf g).toList then
        some ⟨(run steps).resolve.isDirect k, ((run steps).resolve.groupsAt k).add g⟩
      else (run steps).resolve.get? k := by
  refine get?_resolve_concat_of_reaches (by simp) fun f => ?_
  rw [isVia_resolve_concat, SortedSet.mem_toList_iff, contains_membersOf]
  simp only [Step.grantViaGroup.injEq, reduceCtorEq, false_and, false_or]
  constructor
  · rintro (⟨⟨rfl, rfl⟩, hm⟩ | hv)
    · exact .inl ⟨rfl, rfl, hm⟩
    · exact .inr hv
  · rintro (⟨rfl, rfl, hm⟩ | hv)
    · exact .inl ⟨⟨rfl, rfl⟩, hm⟩
    · exact .inr hv

theorem get?_resolve_addMember (g : GroupName) (p : PrincipalId) (k : AccessKey) :
    (run (steps ++ [.addMember g p])).resolve.get? k =
      if k.principal = p ∧ g ∈ ((run steps).grantedGroups k.secret).toList then
        some ⟨(run steps).resolve.isDirect k, ((run steps).resolve.groupsAt k).add g⟩
      else (run steps).resolve.get? k := by
  refine get?_resolve_concat_of_reaches (by simp) fun f => ?_
  rw [isVia_resolve_concat, SortedSet.mem_toList_iff, contains_grantedGroups]
  simp only [Step.addMember.injEq, reduceCtorEq, false_and, false_or]
  constructor
  · rintro (⟨⟨rfl, rfl⟩, hs⟩ | hv)
    · exact .inl ⟨rfl, rfl, hs⟩
    · exact .inr hv
  · rintro (⟨rfl, rfl, hs⟩ | hv)
    · exact .inl ⟨⟨rfl, rfl⟩, hs⟩
    · exact .inr hv

theorem resolve_concat_of_not_isRelating {x : Step} (hx : x.isRelating = false) :
    (run (steps ++ [x])).resolve = (run steps).resolve := by
  refine SortedMap.ext_get? fun k => get?_resolve_run_congr ?_ fun g => ?_
  · rw [isDirect_resolve_concat]
    cases x <;> simp_all [Step.isRelating]
  · rw [isVia_resolve_concat]
    cases x <;> simp_all [Step.isRelating]

theorem stepEffect_concat (x : Step) :
    (run steps).StepEffect (run steps).resolve (run (steps ++ [x])).resolve x := by
  cases x with
  | grantDirect s p => exact get?_resolve_grantDirect s p
  | grantViaGroup s g => exact get?_resolve_grantViaGroup s g
  | addMember g p => exact get?_resolve_addMember g p
  | register | declareGroup | declareSecret => exact resolve_concat_of_not_isRelating rfl

-- ---------------------------------------------------------------------------
-- Nothing is taken away
-- ---------------------------------------------------------------------------

theorem resolve_grows_concat (x : Step) :
    (run steps).resolve.Grows (run (steps ++ [x])).resolve := by
  have hd : ∀ k, (run steps).resolve.isDirect k → (run (steps ++ [x])).resolve.isDirect k :=
    fun k h => isDirect_resolve_concat.mpr (.inr h)
  have hv : ∀ k g, (run steps).resolve.isVia k g → (run (steps ++ [x])).resolve.isVia k g :=
    fun k g h => isVia_resolve_concat.mpr (.inr (.inr h))
  refine .of_answers (fun k hc => ?_) hd hv
  rcases contains_resolve_run_iff_answers.mp hc with h | ⟨g, h⟩
  · exact contains_resolve_run_iff_answers.mpr (.inl (hd k h))
  · exact contains_resolve_run_iff_answers.mpr (.inr ⟨g, hv k g h⟩)

theorem resolve_grows_append (more : List Step) :
    (run steps).resolve.Grows (run (steps ++ more)).resolve := by
  induction more using List.reverseRecOn with
  | nil => simpa using Resolution.Grows.refl _
  | append_singleton more x ih =>
    rw [← List.append_assoc]
    exact ih.trans (resolve_grows_concat x)

-- ---------------------------------------------------------------------------
-- Pairs that are there
-- ---------------------------------------------------------------------------

theorem adds_eq_false_iff {h : Hierarchy} {x : Step} (hx : x.isRelating) :
    h.adds x = false ↔ h.Relates x := by
  cases x with
  | addMember | grantDirect | grantViaGroup =>
    simp [adds, Relates, SortedSet.mem_toList_iff, isMember]
  | register | declareGroup | declareSecret => cases hx

theorem relates_run_iff {x : Step} : (run steps).Relates x ↔ x.isRelating ∧ x ∈ steps := by
  cases x with
  | addMember g p =>
    simpa [Relates, Step.isRelating, SortedSet.mem_toList_iff] using isMember_run
  | grantDirect s p =>
    simpa [Relates, Step.isRelating, SortedSet.mem_toList_iff] using holds_direct_run
  | grantViaGroup s g =>
    simpa [Relates, Step.isRelating, SortedSet.mem_toList_iff] using holds_viaGroup_run
  | register | declareGroup | declareSecret => simp [Relates, Step.isRelating]

theorem apply_eq_self_of_relates {x : Step} (hx : (run steps).Relates x) :
    (run steps).apply x = run steps := by
  cases x with
  | addMember g p =>
    have hm : (run steps).isMember g p := SortedSet.mem_toList_iff.mp hx
    rw [apply, addMember, Relation.relate_of_holds hm,
      declareGroup_of_isKnownGroup (isKnownGroup_of_isMember hm)]
  | grantDirect s p =>
    have hd : (run steps).direct.holds s p := SortedSet.mem_toList_iff.mp hx
    rw [apply, grantDirect, Relation.relate_of_holds hd,
      declareSecret_of_isSecret (isSecret_of_direct hd)]
  | grantViaGroup s g =>
    have hv : (run steps).viaGroup.holds s g := SortedSet.mem_toList_iff.mp hx
    rw [apply, grantViaGroup, Relation.relate_of_holds hv,
      declareSecret_of_isSecret (isSecret_of_viaGroup hv)]
  | register | declareGroup | declareSecret => exact hx.elim

/-- A step changes just the records that its pair reaches, and all that was
resolved before stays, after one step and after any number of them. A step
adds nothing exactly when its pair is there, which is when an earlier step
named it, and then the hierarchy is the same as before. -/
theorem resolve_step_exact (steps : List Step) (x : Step) :
    (run steps).StepEffect (run steps).resolve ((run steps).apply x).resolve x ∧
      (run steps).resolve.Grows ((run steps).apply x).resolve ∧
      (∀ more, (run steps).resolve.Grows (run (steps ++ more)).resolve) ∧
      (x.isRelating → ((run steps).adds x = false ↔ (run steps).Relates x)) ∧
      ((run steps).Relates x ↔ x.isRelating ∧ x ∈ steps) ∧
      ((run steps).Relates x → (run steps).apply x = run steps) := by
  refine ⟨?_, ?_, resolve_grows_append, adds_eq_false_iff, relates_run_iff,
    apply_eq_self_of_relates⟩
  · rw [← run_concat]
    exact stepEffect_concat x
  · rw [← run_concat]
    exact resolve_grows_concat x

end Hierarchy

end SecretAccess
