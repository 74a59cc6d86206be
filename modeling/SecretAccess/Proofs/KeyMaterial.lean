import SecretAccess.Proofs.Appearance
import SecretAccess.Proofs.CrossReference
import SecretAccess.Proofs.Reachability

/-!
# Key material

The keys of a principal are shown and nothing else is made of them. Two runs
that differ in the keys that principals are registered with resolve access
alike, and show the same but for keys; a principal that ends up with the same
keys in both has the same entries (`alikeButKeys_run`, `sameEntries_run`).
-/

namespace SecretAccess

open Display (Theme)

namespace Step

/-- The step without the keys that it brings. -/
def eraseKeys : Step → Step
  | .register p _ => .register p []
  | x => x

end Step

namespace HierarchyView

def eraseKeys (v : HierarchyView) : HierarchyView :=
  { v with
    users := v.users.map fun p => { p with publicKeys := [] }
    machines := v.machines.map fun p => { p with publicKeys := [] } }

end HierarchyView

namespace Graph

def erasePreviews (g : Graph) : Graph :=
  { g with nodes := g.nodes.map fun n => { n with keyPreview := none } }

end Graph

namespace Hierarchy

/-- Whatever is not a key is the same in the two hierarchies and wherever they
are shown. -/
structure AlikeButKeys (h k : Hierarchy) : Prop where
  resolve : h.resolve = k.resolve
  matrix : h.matrix = k.matrix
  summary : h.summary = k.summary
  matrixText : ∀ t, Display.Matrix.render t h.matrix = Display.Matrix.render t k.matrix
  view : h.view.eraseKeys = k.view.eraseKeys
  graph : h.graph.erasePreviews = k.graph.erasePreviews
  listed : h.keyListing.entries.map (·.id) = k.keyListing.entries.map (·.id)

/-- One principal is shown alike, keys and all. -/
structure SameEntries (h k : Hierarchy) (p : PrincipalId) : Prop where
  view : h.view.principals.filter (·.id = p) = k.view.principals.filter (·.id = p)
  keys : h.keyListing.entries.filter (·.id = p) = k.keyListing.entries.filter (·.id = p)
  node : h.graph.nodes.filter (·.id = p.nodeId) = k.graph.nodes.filter (·.id = p.nodeId)

/-- The hierarchies have the same principals and differ in nothing but these. -/
structure SameButKeys (h k : Hierarchy) : Prop where
  rest : k = { h with catalog := k.catalog }
  known : k.isKnown = h.isKnown

variable {h k : Hierarchy} {steps steps' : List Step}

-- ---------------------------------------------------------------------------
-- Runs that bring different keys
-- ---------------------------------------------------------------------------

theorem SameButKeys.refl (h : Hierarchy) : h.SameButKeys h := ⟨rfl, rfl⟩

theorem isKnown_apply_congr (hk : k.isKnown = h.isKnown) {x y : Step}
    (hxy : x.eraseKeys = y.eraseKeys) : (k.apply y).isKnown = (h.apply x).isKnown := by
  have hr : ∀ p, x.registers p = y.registers p := by
    intro p
    cases x <;> cases y <;> simp_all [Step.eraseKeys, Step.registers]
  funext p
  rw [isKnown_apply, isKnown_apply, hk, hr]

/-- What a step does besides registering does not ask for the catalog. -/
theorem SameButKeys.apply (hs : h.SameButKeys k) {x y : Step}
    (hxy : x.eraseKeys = y.eraseKeys) : (h.apply x).SameButKeys (k.apply y) := by
  refine ⟨?_, isKnown_apply_congr hs.known hxy⟩
  rw [hs.rest]
  cases x with
  | register p keys =>
    cases y with
    | register q keys' => rfl
    | _ => simp [Step.eraseKeys] at hxy
  | _ =>
    cases y with
    | register q keys => simp [Step.eraseKeys] at hxy
    | _ => cases hxy <;> rfl

theorem SameButKeys.foldl (hs : h.SameButKeys k)
    (heq : steps.map Step.eraseKeys = steps'.map Step.eraseKeys) :
    (steps.foldl Hierarchy.apply h).SameButKeys (steps'.foldl Hierarchy.apply k) := by
  induction steps generalizing steps' h k with
  | nil =>
    obtain rfl : steps' = [] := List.map_eq_nil_iff.mp heq.symm
    exact hs
  | cons x steps ih =>
    cases steps' with
    | nil => cases heq
    | cons y steps' =>
      obtain ⟨hxy, heq⟩ := List.cons.inj heq
      rw [List.foldl_cons, List.foldl_cons]
      exact ih (hs.apply hxy) heq

theorem sameButKeys_run (heq : steps.map Step.eraseKeys = steps'.map Step.eraseKeys) :
    (run steps).SameButKeys (run steps') :=
  (SameButKeys.refl ∅).foldl heq

-- ---------------------------------------------------------------------------
-- What does not ask for keys
-- ---------------------------------------------------------------------------

namespace SameButKeys

theorem resolve (hs : h.SameButKeys k) : h.resolve = k.resolve := by
  rw [hs.rest]
  rfl

theorem knownNames (hs : h.SameButKeys k) : h.knownNames = k.knownNames := by
  funext ps kind
  rw [Hierarchy.knownNames, Hierarchy.knownNames, hs.known]

theorem groupView (hs : h.SameButKeys k) : h.groupView = k.groupView := by
  funext g
  rw [Hierarchy.groupView, Hierarchy.groupView, hs.knownNames, hs.rest]
  rfl

theorem grantRows (hs : h.SameButKeys k) : h.grantRows = k.grantRows := by
  have hr : h.grantRow = k.grantRow := by
    funext s
    rw [Hierarchy.grantRow, Hierarchy.grantRow, hs.knownNames, hs.rest]
    rfl
  rw [Hierarchy.grantRows, Hierarchy.grantRows, hr, hs.rest]

theorem matrix (hs : h.SameButKeys k) : h.matrix = k.matrix :=
  congrArg MatrixView.mk hs.grantRows

theorem edges (hs : h.SameButKeys k) : h.graph.edges = k.graph.edges := by
  have hm : h.memberEdges = k.memberEdges := by
    funext g
    rw [Hierarchy.memberEdges, Hierarchy.memberEdges, hs.known, hs.rest]
    rfl
  have ha : h.accessEdges = k.accessEdges := by
    funext s
    rw [Hierarchy.accessEdges, Hierarchy.accessEdges, hs.known, hs.rest]
    rfl
  simp only [graph, hm, ha]
  rw [hs.rest]

end SameButKeys

-- ---------------------------------------------------------------------------
-- Lists of principals
-- ---------------------------------------------------------------------------

/-- Principals are kept under their own ids. -/
theorem map_id_catalog_values (steps : List Step) :
    (run steps).catalog.values.map (·.id) = (run steps).catalog.keys := by
  rw [SortedMap.values, SortedMap.keys, List.map_map]
  exact List.map_congr_left fun e he => id_of_mem_catalog he

/-- The key listing names the registered principals. -/
theorem mem_listed_iff {p : PrincipalId} :
    p ∈ (run steps).keyListing.entries.map (·.id) ↔ (run steps).isKnown p := by
  have hl : (run steps).keyListing.entries.map (·.id) = (run steps).catalog.keys := by
    simp [keyListing, ← map_id_catalog_values, Function.comp_def]
  rw [hl, isKnown, SortedMap.contains_iff]

theorem SameButKeys.ids (hs : (run steps).SameButKeys (run steps')) :
    (run steps).catalog.values.map (·.id) = (run steps').catalog.values.map (·.id) := by
  rw [map_id_catalog_values, map_id_catalog_values]
  exact SortedMap.keys_eq_of_contains fun p => (congrFun hs.known p).symm

theorem map_ofKind {β : Type} {c : Catalog} {kind : PrincipalKind} (f : PrincipalId → β) :
    (c.ofKind kind).map (fun p => f p.id) =
      ((c.values.map (·.id)).filter (·.kind = kind)).map f := by
  simp [Catalog.ofKind, List.filter_map, Function.comp_def]

/-- Where the principals are the same, so is all that is made of their ids. -/
theorem map_ofKind_congr {β : Type} {c c' : Catalog}
    (hc : c.values.map (·.id) = c'.values.map (·.id)) (kind : PrincipalKind)
    (f : PrincipalId → β) :
    (c.ofKind kind).map (fun p => f p.id) = (c'.ofKind kind).map (fun p => f p.id) := by
  rw [map_ofKind, map_ofKind, hc]

theorem count_congr {c c' : Catalog} (hc : c.values.map (·.id) = c'.values.map (·.id))
    (kind : PrincipalKind) : c.count kind = c'.count kind := by
  simpa [Catalog.count] using congrArg List.length (map_ofKind_congr hc kind id)

theorem summary_congr (hs : h.SameButKeys k)
    (hc : h.catalog.values.map (·.id) = k.catalog.values.map (·.id)) : h.summary = k.summary := by
  rw [summary, summary, count_congr hc, count_congr hc, hs.grantRows, hs.resolve, hs.known]
  rw [hs.rest]

theorem SameButKeys.principalView (hs : h.SameButKeys k) :
    h.principalView h.resolve = k.principalView k.resolve := by
  rw [hs.resolve, hs.rest]
  rfl

theorem eraseKeys_view_congr (hs : h.SameButKeys k)
    (hc : h.catalog.values.map (·.id) = k.catalog.values.map (·.id)) :
    h.view.eraseKeys = k.view.eraseKeys := by
  -- a principal without its keys is shown as one that was registered with none
  have hp : ∀ kind, ((h.catalog.ofKind kind).map fun p => h.principalView h.resolve ⟨p.id, []⟩) =
      (k.catalog.ofKind kind).map fun p => k.principalView k.resolve ⟨p.id, []⟩ := by
    intro kind
    rw [hs.principalView]
    exact map_ofKind_congr hc kind fun p => k.principalView k.resolve ⟨p, []⟩
  have hg : h.groups = k.groups := by rw [hs.rest]
  simp only [HierarchyView.eraseKeys, view, List.map_map, HierarchyView.mk.injEq]
  exact ⟨hp .user, hp .machine, by rw [hg, hs.groupView], hs.grantRows⟩

theorem erasePreviews_graph_congr (hs : h.SameButKeys k)
    (hc : h.catalog.values.map (·.id) = k.catalog.values.map (·.id)) :
    h.graph.erasePreviews = k.graph.erasePreviews := by
  have hp : (h.catalog.values.map fun p => principalNode ⟨p.id, []⟩) =
      k.catalog.values.map fun p => principalNode ⟨p.id, []⟩ := by
    simpa [Function.comp_def] using congrArg (List.map fun p => principalNode ⟨p, []⟩) hc
  have hg : h.groups = k.groups := by rw [hs.rest]
  have hsec : h.secrets = k.secrets := by rw [hs.rest]
  simp only [Graph.erasePreviews, hs.edges, Graph.mk.injEq, and_true]
  simp only [graph, List.map_append, List.map_map, hg, hsec]
  exact congrArg (· ++ _ ++ _) hp

theorem alikeButKeys_run (heq : steps.map Step.eraseKeys = steps'.map Step.eraseKeys) :
    (run steps).AlikeButKeys (run steps') := by
  have hs := sameButKeys_run heq
  have hc := hs.ids
  constructor
  case resolve => exact hs.resolve
  case matrix => exact hs.matrix
  case summary => exact summary_congr hs hc
  case matrixText => exact fun t => by rw [hs.matrix]
  case view => exact eraseKeys_view_congr hs hc
  case graph => exact erasePreviews_graph_congr hs hc
  case listed => simpa [keyListing, Function.comp_def] using hc

-- ---------------------------------------------------------------------------
-- The entries of one principal
-- ---------------------------------------------------------------------------

/-- A principal is listed once if it is registered, and else not at all. -/
theorem filter_catalog_values (steps : List Step) (p : PrincipalId) :
    (run steps).catalog.values.filter (·.id = p) = ((run steps).catalog.get? p).toList := by
  cases hq : (run steps).catalog.get? p with
  | none =>
    refine List.filter_eq_nil_iff.mpr fun q hm hid => ?_
    have hk := isKnown_of_mem_values hm
    rw [of_decide_eq_true hid, isKnown, SortedMap.contains, hq] at hk
    cases hk
  | some q =>
    have hm := SortedMap.get?_eq_some_iff.mp hq
    obtain rfl := id_of_mem_catalog hm
    exact filter_key_eq_singleton (pairwise_catalog_values steps)
      (List.mem_map.mpr ⟨_, hm, rfl⟩)

theorem filter_principals_view (h : Hierarchy) (p : PrincipalId) :
    h.view.principals.filter (·.id = p) =
      (h.catalog.values.filter (·.id = p)).map (h.principalView h.resolve) := by
  have hk : ∀ kind, ((h.catalog.ofKind kind).map (h.principalView h.resolve)).filter (·.id = p) =
      if kind = p.kind then (h.catalog.values.filter (·.id = p)).map (h.principalView h.resolve)
      else [] := by
    intro kind
    simp only [Catalog.ofKind, List.filter_map, List.filter_filter, Function.comp_def,
      principalView]
    split
    case isTrue hk =>
      refine congrArg _ (List.filter_congr fun q _ => ?_)
      by_cases hq : q.id = p <;> simp [hq, hk]
    case isFalse hk =>
      rw [List.map_eq_nil_iff, List.filter_eq_nil_iff]
      rintro q - hq
      obtain ⟨hid, hkind⟩ := Bool.and_eq_true_iff.mp hq
      exact hk (of_decide_eq_true hid ▸ (of_decide_eq_true hkind).symm)
  rw [HierarchyView.principals, view, List.filter_append, hk, hk]
  cases hp : p.kind <;> simp

theorem filter_entries_keyListing (h : Hierarchy) (p : PrincipalId) :
    h.keyListing.entries.filter (·.id = p) =
      (h.catalog.values.filter (·.id = p)).map fun q => ⟨q.id, q.publicKeys⟩ := by
  simp [keyListing, List.filter_map, Function.comp_def]

/-- The nodes of groups and secrets have other ids. -/
theorem filter_nodes_graph (h : Hierarchy) (p : PrincipalId) :
    h.graph.nodes.filter (·.id = p.nodeId) =
      (h.catalog.values.filter (·.id = p)).map principalNode := by
  have hg : (h.groups.toList.map groupNode).filter (·.id = p.nodeId) = [] := by
    simp [List.filter_map, groupNode, PrincipalId.nodeId, NodeKind.nodeId_inj,
      (NodeKind.ofPrincipal_ne_group _).symm]
  have hs : (h.secrets.toList.map secretNode).filter (·.id = p.nodeId) = [] := by
    simp [List.filter_map, secretNode, PrincipalId.nodeId, NodeKind.nodeId_inj,
      (NodeKind.ofPrincipal_ne_secret _).symm]
  simp only [graph, List.filter_append, hg, hs, List.append_nil]
  simp [List.filter_map, Function.comp_def, principalNode, PrincipalId.nodeId_inj]

/-- A principal with the same last keys in both runs is shown alike in both. -/
theorem sameEntries_run (heq : steps.map Step.eraseKeys = steps'.map Step.eraseKeys)
    {p : PrincipalId} (hp : Step.lastKeys? steps p = Step.lastKeys? steps' p) :
    (run steps).SameEntries (run steps') p := by
  have hv : (run steps).catalog.values.filter (·.id = p) =
      (run steps').catalog.values.filter (·.id = p) := by
    rw [filter_catalog_values, filter_catalog_values, get?_catalog_run, get?_catalog_run, hp]
  constructor
  case view =>
    rw [filter_principals_view, filter_principals_view, hv, (sameButKeys_run heq).principalView]
  case keys => rw [filter_entries_keyListing, filter_entries_keyListing, hv]
  case node => rw [filter_nodes_graph, filter_nodes_graph, hv]

end Hierarchy

end SecretAccess
