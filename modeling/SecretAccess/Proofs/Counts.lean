import Mathlib.Algebra.BigOperators.Group.List.Basic
import Mathlib.Algebra.Ring.Nat
import SecretAccess.Proofs.GraphShape
import SecretAccess.Proofs.KeyMaterial

/-!
# Counts

Each number of the summary can be counted again in the other views, where it
comes from other lists: the secrets of the groups instead of the groups of the
secrets, edges instead of names, the access of each principal instead of the
records of all. Counting the pairs of a relation from either side gives the
same number (`sum_length_filter_comm`), and so the counts agree
(`counts_agree`).
-/

namespace SecretAccess

-- ---------------------------------------------------------------------------
-- Pairs, counted from either side
-- ---------------------------------------------------------------------------

theorem length_filter_eq_sum {α : Type} (p : α → Bool) (l : List α) :
    (l.filter p).length = (l.map fun a => if p a then 1 else 0).sum := by
  induction l with
  | nil => rfl
  | cons a l ih => cases hp : p a <;> simp [hp, ih, Nat.add_comm]

/-- The pairs of a relation, counted by row and by column. -/
theorem sum_length_filter_comm {α β : Type} (related : α → β → Bool) (l : List α) (m : List β) :
    (l.map fun a => (m.filter (related a)).length).sum =
      (m.map fun b => (l.filter (related · b)).length).sum := by
  induction l with
  | nil => simp
  | cons a l ih =>
    have hcons : ∀ b, ((a :: l).filter (related · b)).length =
        (if related a b then 1 else 0) + (l.filter (related · b)).length := by
      intro b
      cases hab : related a b <;> simp [hab, Nat.add_comm]
    simp only [hcons, List.sum_map_add, ← length_filter_eq_sum, List.map_cons, List.sum_cons, ih]

theorem length_filter_or {α : Type} {p q : α → Bool} (h : ∀ a, ¬(p a ∧ q a)) (l : List α) :
    (l.filter p).length + (l.filter q).length = (l.filter fun a => p a || q a).length := by
  induction l with
  | nil => rfl
  | cons a l ih =>
    have ha := h a
    cases hp : p a <;> cases hq : q a <;> simp_all <;> omega

/-- What two maps have in common is listed alike by both. -/
theorem SortedMap.keys_filter_contains_comm {κ α β : Type} [Ord κ] [Std.TransOrd κ]
    [Std.LawfulEqOrd κ] (m : SortedMap κ α) (n : SortedMap κ β) :
    m.keys.filter n.contains = n.keys.filter m.contains := by
  rw [← keys_restrict, ← keys_restrict]
  exact keys_eq_of_contains fun k => by simp [Bool.and_comm]

theorem SortedSet.length_toList {α : Type} [Ord α] (s : SortedSet α) :
    s.toList.length = SortedMap.size s :=
  List.length_map _

theorem grantCount_eq_sum (size : GrantRow → Nat) (rows : List GrantRow) :
    Hierarchy.grantCount size rows = (rows.map size).sum := by
  induction rows with
  | nil => rfl
  | cons r rows ih => rw [List.map_cons, List.sum_cons, ← ih]; rfl

def Graph.memberEdges (g : Graph) : List Edge := g.edges.filter (·.kind = .member)

def Graph.accessEdgesFrom (g : Graph) (source : NodeKind) : List Edge :=
  g.edges.filter fun e => e.kind = .access && e.source = source

/-- The numbers of a summary, counted again in the other views. -/
structure Summary.CountedAlike (s : Summary) (v : HierarchyView) (m : MatrixView) (k : KeyListing)
    (g : Graph) : Prop where
  users : s.users = v.users.length ∧ s.users = (g.nodesOf .user).length
  machines : s.machines = v.machines.length ∧ s.machines = (g.nodesOf .machine).length
  groups : s.groups = v.groups.length ∧ s.groups = (g.nodesOf .group).length
  secrets : s.secrets = v.secrets.length ∧ s.secrets = (g.nodesOf .secret).length
  keyEntries : k.entries.length = s.users + s.machines
  userGrants : s.userGrants = (m.rows.map (·.users.length)).sum ∧
    s.userGrants = (g.accessEdgesFrom .user).length
  machineGrants : s.machineGrants = (m.rows.map (·.machines.length)).sum ∧
    s.machineGrants = (g.accessEdgesFrom .machine).length
  groupGrants : s.groupGrants = (m.rows.map (·.groups.length)).sum ∧
    s.groupGrants = (g.accessEdgesFrom .group).length ∧
    s.groupGrants = (v.groups.map (·.secrets.length)).sum
  memberships : g.memberEdges.length = (v.principals.map (·.groups.length)).sum ∧
    g.memberEdges.length = (v.groups.map fun e => e.users.length + e.machines.length).sum
  accessRecords : s.accessRecords = (v.principals.map (·.secrets.length)).sum

namespace Hierarchy

variable {steps : List Step}

-- ---------------------------------------------------------------------------
-- Principals
-- ---------------------------------------------------------------------------

theorem principals_view_run (steps : List Step) :
    (run steps).view.principals =
      (run steps).catalog.values.map ((run steps).principalView (run steps).resolve) := by
  rw [values_catalog_run, List.map_append]
  rfl

theorem length_nodesOf_ofPrincipal (h : Hierarchy) (kind : PrincipalKind) :
    (h.graph.nodesOf (.ofPrincipal kind)).length = h.catalog.count kind := by
  rw [nodesOf_ofPrincipal, List.length_map, Catalog.count]

/-- A sum over the principals of a view is one over the registered ids. -/
theorem sum_principals_view (size : PrincipalView → Nat) (sizeOf : PrincipalId → Nat)
    (h : ∀ p, size ((run steps).principalView (run steps).resolve p) = sizeOf p.id) :
    ((run steps).view.principals.map size).sum = ((run steps).catalog.keys.map sizeOf).sum := by
  rw [principals_view_run, List.map_map, ← map_id_catalog_values, List.map_map]
  exact congrArg _ (List.map_congr_left fun p _ => h p)

-- ---------------------------------------------------------------------------
-- Edges
-- ---------------------------------------------------------------------------

theorem memberEdges_graph (h : Hierarchy) :
    h.graph.memberEdges = h.groups.toList.flatMap h.memberEdges := by
  have hm : ∀ e ∈ h.groups.toList.flatMap h.memberEdges, decide (e.kind = .member) := fun e he =>
    decide_eq_true (kind_of_mem_memberEdges he)
  have ha : ∀ e ∈ h.secrets.toList.flatMap h.accessEdges, ¬decide (e.kind = .member) :=
    fun e he => by simp [kind_of_mem_accessEdges he]
  rw [Graph.memberEdges, graph, List.filter_append, List.filter_eq_self.mpr hm,
    List.filter_eq_nil_iff.mpr ha, List.append_nil]

theorem accessEdgesFrom_graph (h : Hierarchy) (source : NodeKind) :
    h.graph.accessEdgesFrom source =
      h.secrets.toList.flatMap fun s => (h.accessEdges s).filter (·.source = source) := by
  have hm : ∀ e ∈ h.groups.toList.flatMap h.memberEdges,
      ¬(decide (e.kind = .access) && decide (e.source = source)) := fun e he => by
    simp [kind_of_mem_memberEdges he]
  have ha : (h.secrets.toList.flatMap h.accessEdges).filter
      (fun e => decide (e.kind = .access) && decide (e.source = source)) =
        (h.secrets.toList.flatMap h.accessEdges).filter (·.source = source) :=
    List.filter_congr fun e he => by simp [kind_of_mem_accessEdges he]
  rw [Graph.accessEdgesFrom, graph, List.filter_append, List.filter_eq_nil_iff.mpr hm,
    List.nil_append, ha, List.filter_flatMap]

theorem length_knownNames (h : Hierarchy) (ps : List PrincipalId) (kind : PrincipalKind) :
    (h.knownNames ps kind).length = (ps.filter fun p => p.kind = kind && h.isKnown p).length := by
  rw [knownNames, List.length_map]

/-- The grants that are drawn as edges, and the names that rows show for them. -/
theorem length_accessEdgesFrom_ofPrincipal (h : Hierarchy) (kind : PrincipalKind) :
    (h.graph.accessEdgesFrom (.ofPrincipal kind)).length =
      (h.grantRows.map fun r => (r.granteesOf kind).length).sum := by
  have hg : .group ≠ NodeKind.ofPrincipal kind := (NodeKind.ofPrincipal_ne_group kind).symm
  have hs : ∀ s, ((h.accessEdges s).filter (·.source = .ofPrincipal kind)).length =
      ((h.grantRow s).granteesOf kind).length := by
    intro s
    have hr : (h.grantRow s).granteesOf kind = h.knownNames (h.directPrincipals s).toList kind := by
      cases kind <;> rfl
    simp [hr, accessEdges, length_knownNames, List.filter_map, Function.comp_def,
      NodeKind.ofPrincipal_inj, hg, List.filter_filter]
  simp only [accessEdgesFrom_graph, List.length_flatMap, hs, grantRows, List.map_map,
    Function.comp_def]

theorem length_accessEdgesFrom_group (h : Hierarchy) :
    (h.graph.accessEdgesFrom .group).length = (h.grantRows.map (·.groups.length)).sum := by
  have hs : ∀ s, ((h.accessEdges s).filter (·.source = .group)).length =
      (h.grantRow s).groups.length := by
    intro s
    simp [accessEdges, grantRow, List.filter_map, Function.comp_def,
      NodeKind.ofPrincipal_ne_group]
  simp only [accessEdgesFrom_graph, List.length_flatMap, hs, grantRows, List.map_map,
    Function.comp_def]

-- ---------------------------------------------------------------------------
-- Grants and memberships
-- ---------------------------------------------------------------------------

theorem toList_secretsOf_run (steps : List Step) (g : GroupName) :
    ((run steps).secretsOf g).toList =
      (run steps).secrets.toList.filter fun s => (run steps).viaGroup.holds s g := by
  rw [← SortedSet.toList_restrict]
  refine congrArg _ (SortedSet.eq_restrict fun s => ?_)
  rw [(coherent_run steps).contains_secretsOf, Bool.eq_iff_iff, Bool.and_eq_true]
  exact ⟨fun hs => ⟨hs, isSecret_of_viaGroup hs⟩, And.left⟩

/-- Grants to declared groups, counted by secret and by group. -/
theorem sum_groups_grantRows (steps : List Step) :
    ((run steps).grantRows.map (·.groups.length)).sum =
      ((run steps).view.groups.map (·.secrets.length)).sum := by
  have hs : ∀ s, ((run steps).grantRow s).groups =
      (run steps).groups.toList.filter fun g => (run steps).viaGroup.holds s g := fun s =>
    SortedMap.keys_filter_contains_comm ((run steps).grantedGroups s) (run steps).groups
  calc
    ((run steps).grantRows.map (·.groups.length)).sum
      = ((run steps).secrets.toList.map fun s =>
          ((run steps).groups.toList.filter ((run steps).viaGroup.holds s)).length).sum := by
        rw [grantRows, List.map_map]
        exact congrArg _ (List.map_congr_left fun s _ => congrArg List.length (hs s))
    _ = ((run steps).groups.toList.map fun g =>
          ((run steps).secrets.toList.filter ((run steps).viaGroup.holds · g)).length).sum :=
        sum_length_filter_comm _ _ _
    _ = ((run steps).view.groups.map (·.secrets.length)).sum := by
        rw [view, List.map_map]
        exact congrArg _ (List.map_congr_left fun g _ =>
          congrArg List.length (toList_secretsOf_run steps g).symm)

/-- The members of a group that are shown, users and machines together. -/
theorem length_memberEdges (h : Hierarchy) (g : GroupName) :
    (h.memberEdges g).length = (h.groupView g).users.length + (h.groupView g).machines.length := by
  have hkinds : ∀ p : PrincipalId,
      (decide (p.kind = .user) && h.isKnown p || decide (p.kind = .machine) && h.isKnown p) =
        h.isKnown p := by
    intro p
    cases p.kind <;> simp
  simp only [groupView, memberEdges, List.length_map, length_knownNames]
  rw [length_filter_or (by simp +contextual)]
  simp only [hkinds]

/-- Memberships of registered principals, counted by group and by principal. -/
theorem sum_length_memberEdges (steps : List Step) :
    ((run steps).groups.toList.map fun g => ((run steps).memberEdges g).length).sum =
      ((run steps).view.principals.map (·.groups.length)).sum := by
  have hg : ∀ g, ((run steps).memberEdges g).length =
      ((run steps).catalog.keys.filter ((run steps).isMember g)).length := fun g => by
    rw [memberEdges, List.length_map]
    exact congrArg _ (SortedMap.keys_filter_contains_comm ((run steps).membersOf g)
      (run steps).catalog)
  rw [sum_principals_view _ fun p =>
    ((run steps).groups.toList.filter ((run steps).isMember · p)).length]
  · simp only [hg]
    exact sum_length_filter_comm _ _ _
  · exact fun p => congrArg List.length (toList_groupsOf_run steps p.id)

-- ---------------------------------------------------------------------------
-- Records
-- ---------------------------------------------------------------------------

theorem length_filter_keys_eq {κ α : Type} [Ord κ] [Std.TransOrd κ] [Std.LawfulEqOrd κ]
    [DecidableEq κ] (m : SortedMap κ α) (k : κ) :
    (m.keys.filter (k = ·)).length = if m.contains k then 1 else 0 := by
  have hn : m.keys.Nodup :=
    List.pairwise_map.mpr (@pairwise_ne_of_pairwise_lt _ _ _ _ Prod.fst _ m.sorted)
  have hc : (m.keys.filter (k = ·)).length = m.keys.count k := by
    rw [List.count, List.countP_eq_length_filter]
    exact congrArg _ (List.filter_congr fun j _ => by
      rw [Bool.eq_iff_iff, beq_iff_eq, decide_eq_true_eq, eq_comm])
  rw [hc, hn.count]
  exact if_congr SortedMap.contains_iff.symm rfl rfl

/-- Records of registered principals, counted at once and principal by principal. -/
theorem length_records_known (steps : List Step) :
    ((run steps).resolve.entries.filter fun e => (run steps).isKnown e.1.principal).length =
      ((run steps).view.principals.map (·.secrets.length)).sum := by
  rw [sum_principals_view _ fun p =>
    ((run steps).resolve.entries.filter fun e => e.1.principal = p).length]
  · rw [sum_length_filter_comm fun p (e : AccessKey × AccessRecord) => decide (e.1.principal = p),
      length_filter_eq_sum]
    exact congrArg _ (List.map_congr_left fun e _ => (length_filter_keys_eq _ _).symm)
  · intro p
    rw [principalView, List.length_map, Resolution.accessOf_eq_filter, List.length_map]

theorem countedAlike_run (steps : List Step) :
    (run steps).summary.CountedAlike (run steps).view (run steps).matrix (run steps).keyListing
      (run steps).graph where
  users := ⟨(List.length_map _).symm, (length_nodesOf_ofPrincipal _ .user).symm⟩
  machines := ⟨(List.length_map _).symm, (length_nodesOf_ofPrincipal _ .machine).symm⟩
  groups := by simp [summary, view, nodesOf_group, SortedSet.length_toList]
  secrets := by simp [summary, view, grantRows, nodesOf_secret, SortedSet.length_toList]
  keyEntries := by
    rw [keyListing, List.length_map, values_catalog_run, List.length_append]
    rfl
  userGrants := ⟨grantCount_eq_sum _ _,
    (grantCount_eq_sum _ _).trans (length_accessEdgesFrom_ofPrincipal _ .user).symm⟩
  machineGrants := ⟨grantCount_eq_sum _ _,
    (grantCount_eq_sum _ _).trans (length_accessEdgesFrom_ofPrincipal _ .machine).symm⟩
  groupGrants := ⟨grantCount_eq_sum _ _,
    (grantCount_eq_sum _ _).trans (length_accessEdgesFrom_group _).symm,
    (grantCount_eq_sum _ _).trans (sum_groups_grantRows steps)⟩
  memberships := by
    rw [memberEdges_graph, List.length_flatMap]
    refine ⟨sum_length_memberEdges steps, ?_⟩
    simp [view, length_memberEdges, Function.comp_def]
  accessRecords := length_records_known steps

/-- Each number of the summary is the number of entries in each view that shows
what is counted. Not more records are counted than there are, and all of them
just when every principal with a record is registered. -/
theorem counts_agree (steps : List Step) :
    (run steps).summary.CountedAlike (run steps).view (run steps).matrix (run steps).keyListing
        (run steps).graph ∧
      (run steps).summary.accessRecords ≤ (run steps).resolve.size ∧
      ((run steps).summary.accessRecords = (run steps).resolve.size ↔
        ∀ e ∈ (run steps).resolve.entries, (run steps).isKnown e.1.principal) :=
  ⟨countedAlike_run steps, List.length_filter_le _ _, List.length_filter_eq_length_iff⟩

end Hierarchy

end SecretAccess
