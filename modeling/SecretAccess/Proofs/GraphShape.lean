import SecretAccess.Proofs.CrossReference
import SecretAccess.Proofs.Reachability
import Mathlib.Data.List.Nodup

/-!
# The shape of the access graph

There is one node for each declared entity, in the order of kinds and names,
and its id is not the id of any other node, whatever names the entities share.
Edges lead from node to node. Each of them is there once, and stands for one
membership or one grant between entities that are declared
(`graph_well_formed_exact`).
-/

namespace SecretAccess

/-- Where only those that are `p` come before one that is `p`, they all come
before the others. -/
theorem filter_append_filter_of_pairwise {α : Type} {p : α → Bool} {l : List α}
    (h : l.Pairwise fun a b => p b → p a) : l.filter p ++ l.filter (!p ·) = l := by
  induction l with
  | nil => rfl
  | cons a l ih =>
    obtain ⟨ha, hl⟩ := List.pairwise_cons.mp h
    cases hp : p a with
    | true => simp [hp, ih hl]
    | false =>
      have hnone : ∀ b ∈ l, p b = false := fun b hb => by
        simpa [hp] using ha b hb
      have hnil : l.filter p = [] := List.filter_eq_nil_iff.mpr fun b hb => by simp [hnone b hb]
      have hall : l.filter (!p ·) = l := List.filter_eq_self.mpr fun b hb => by simp [hnone b hb]
      simp [hp, hnil, hall]

theorem PrincipalId.isUser_of_compare_lt {p q : PrincipalId} (h : compare p q = .lt)
    (hq : q.kind = .user) : p.kind = .user := by
  cases hp : p.kind with
  | user => rfl
  | machine =>
    have hkinds : compare p.kind q.kind = .gt := by
      rw [hp, hq]
      rfl
    have hgt : compare p q = .gt := congrArg (·.then (compare p.name q.name)) hkinds
    rw [hgt] at h
    cases h

namespace NodeKind

def rank : NodeKind → Nat
  | .user => 0
  | .machine => 1
  | .group => 2
  | .secret => 3

theorem rank_ofPrincipal (k : PrincipalKind) : (ofPrincipal k).rank = k.rank := by
  cases k <;> rfl

theorem rank_ofPrincipal_lt (k : PrincipalKind) : (ofPrincipal k).rank < group.rank := by
  cases k <;> decide

end NodeKind

/-- Kinds come in their order, and within a kind nodes come by name. -/
def Node.Before (m n : Node) : Prop :=
  m.kind.rank < n.kind.rank ∨ m.kind = n.kind ∧ m.name < n.name

theorem Node.Before.ne {m n : Node} (h : m.Before n) : (m.kind, m.name) ≠ (n.kind, n.name) := by
  intro he
  obtain ⟨hk, hn⟩ := Prod.mk.inj he
  rcases h with h | ⟨-, h⟩
  · rw [hk] at h
    exact Nat.lt_irrefl _ h
  · rw [hn] at h
    exact String.lt_irrefl _ h

/-- Principals in order have their nodes in order. -/
theorem PrincipalId.rank_lt_or_name_lt {p q : PrincipalId} (h : compare p q = .lt) :
    p.kind.rank < q.kind.rank ∨ p.kind = q.kind ∧ p.name < q.name := by
  have hl : (compare p.kind.rank q.kind.rank).then (compare p.name q.name) = .lt := h
  rcases Ordering.then_eq_lt.mp hl with hk | ⟨hk, hn⟩
  · exact .inl (Nat.compare_eq_lt.mp hk)
  · exact .inr ⟨PrincipalKind.rank_injective (Nat.compare_eq_eq.mp hk),
      compareOfLessAndEq_eq_lt.mp hn⟩

/-- What any graph promises that is drawn of declared entities. -/
structure Graph.WellFormed (g : Graph) : Prop where
  nodesInOrder : g.nodes.Pairwise Node.Before
  distinctIds : (g.nodes.map (·.id)).Nodup
  distinctEdges : g.edges.Nodup
  start : ∀ e ∈ g.edges, ∃ n ∈ g.nodes, n.id = e.start ∧ n.kind = e.source
  target : ∀ e ∈ g.edges, ∃ n ∈ g.nodes, n.id = e.target
  membersFirst : g.edges.Pairwise fun e f => f.kind = .member → e.kind = .member

def memberEdge (p : PrincipalId) (g : GroupName) : Edge :=
  ⟨p.nodeId, NodeKind.group.nodeId g, .member, .ofPrincipal p.kind⟩

def directEdge (p : PrincipalId) (s : SecretName) : Edge :=
  ⟨p.nodeId, NodeKind.secret.nodeId s, .access, .ofPrincipal p.kind⟩

def viaGroupEdge (g : GroupName) (s : SecretName) : Edge :=
  ⟨NodeKind.group.nodeId g, NodeKind.secret.nodeId s, .access, .group⟩

namespace Hierarchy

variable {h : Hierarchy} {steps : List Step}

/-- The names of each kind that have a node. -/
def Declares (h : Hierarchy) : NodeKind → String → Prop
  | .user, n => h.isKnown ⟨.user, n⟩
  | .machine, n => h.isKnown ⟨.machine, n⟩
  | .group, g => h.isKnownGroup g
  | .secret, s => h.isSecret s

theorem declares_ofPrincipal {p : PrincipalId} :
    h.Declares (.ofPrincipal p.kind) p.name ↔ h.isKnown p := by
  obtain ⟨kind, n⟩ := p
  cases kind <;> rfl

-- ---------------------------------------------------------------------------
-- Nodes
-- ---------------------------------------------------------------------------

theorem id_of_mem_nodes {n : Node} (hn : n ∈ h.graph.nodes) : n.id = n.kind.nodeId n.name := by
  rcases mem_nodes_graph.mp hn with ⟨p, -, rfl⟩ | ⟨g, -, rfl⟩ | ⟨s, -, rfl⟩
  all_goals rfl

/-- The nodes of names in order, all of one kind. -/
theorem pairwise_map_before (node : String → Node) (kind : NodeKind)
    (hnode : ∀ n, (node n).kind = kind ∧ (node n).name = n) (names : SortedSet String) :
    (names.toList.map node).Pairwise Node.Before := by
  refine List.pairwise_map.mpr ((SortedSet.pairwise_toList names).imp fun {m n} hlt => .inr ?_)
  rw [(hnode m).1, (hnode n).1, (hnode m).2, (hnode n).2]
  exact ⟨rfl, compareOfLessAndEq_eq_lt.mp hlt⟩

theorem pairwise_nodes_graph (steps : List Step) :
    (run steps).graph.nodes.Pairwise Node.Before := by
  have hp : ((run steps).catalog.values.map principalNode).Pairwise Node.Before := by
    refine List.pairwise_map.mpr ((pairwise_catalog_values steps).imp fun {p q} hlt => ?_)
    rw [Node.Before, principalNode, principalNode, NodeKind.rank_ofPrincipal,
      NodeKind.rank_ofPrincipal, NodeKind.ofPrincipal_inj]
    exact PrincipalId.rank_lt_or_name_lt hlt
  have hg : ((run steps).groups.toList.map groupNode).Pairwise Node.Before :=
    pairwise_map_before groupNode .group (fun _ => ⟨rfl, rfl⟩) _
  have hs : ((run steps).secrets.toList.map secretNode).Pairwise Node.Before :=
    pairwise_map_before secretNode .secret (fun _ => ⟨rfl, rfl⟩) _
  refine List.pairwise_append.mpr ⟨List.pairwise_append.mpr ⟨hp, hg, ?_⟩, hs, ?_⟩
  · intro m hm n hn
    obtain ⟨p, -, rfl⟩ := List.mem_map.mp hm
    obtain ⟨g, -, rfl⟩ := List.mem_map.mp hn
    exact .inl (NodeKind.rank_ofPrincipal_lt p.id.kind)
  · intro m hm n hn
    obtain ⟨s, -, rfl⟩ := List.mem_map.mp hn
    have hlt : NodeKind.group.rank < NodeKind.secret.rank := by decide
    rcases List.mem_append.mp hm with hm | hm
    · obtain ⟨p, -, rfl⟩ := List.mem_map.mp hm
      exact .inl (Nat.lt_trans (NodeKind.rank_ofPrincipal_lt p.id.kind) hlt)
    · obtain ⟨g, -, rfl⟩ := List.mem_map.mp hm
      exact .inl hlt

theorem nodup_ids_graph (steps : List Step) : ((run steps).graph.nodes.map (·.id)).Nodup := by
  refine List.pairwise_map.mpr
    ((pairwise_nodes_graph steps).imp_of_mem fun {m n} hm hn hb hid => ?_)
  rw [id_of_mem_nodes hm, id_of_mem_nodes hn, NodeKind.nodeId_inj] at hid
  exact hb.ne (Prod.ext hid.1 hid.2)

theorem exists_node_iff {kind : NodeKind} {n : String} :
    (∃ m ∈ (run steps).graph.nodes, m.kind = kind ∧ m.name = n) ↔
      (run steps).Declares kind n := by
  constructor
  · rintro ⟨m, hm, rfl, rfl⟩
    rcases mem_nodes_graph.mp hm with ⟨p, hp, rfl⟩ | ⟨g, hg, rfl⟩ | ⟨s, hs, rfl⟩
    · exact declares_ofPrincipal.mpr (isKnown_of_mem_values hp)
    · exact hg
    · exact hs
  · intro hd
    have hp : ∀ kind, (run steps).isKnown ⟨kind, n⟩ →
        ∃ m ∈ (run steps).graph.nodes, m.kind = .ofPrincipal kind ∧ m.name = n := by
      intro kind hk
      obtain ⟨q, hq, hid⟩ := exists_mem_values_of_isKnown hk
      exact ⟨principalNode q, mem_nodes_graph.mpr (.inl ⟨q, hq, rfl⟩), by simp [principalNode, hid]⟩
    cases kind with
    | user => exact hp .user hd
    | machine => exact hp .machine hd
    | group => exact ⟨groupNode n, mem_nodes_graph.mpr (.inr (.inl ⟨n, hd, rfl⟩)), rfl, rfl⟩
    | secret => exact ⟨secretNode n, mem_nodes_graph.mpr (.inr (.inr ⟨n, hd, rfl⟩)), rfl, rfl⟩

/-- A declared entity has one node, and what is not declared has none. -/
theorem oneEntry_node_iff {kind : NodeKind} {n : String} :
    OneEntry (run steps).graph.nodes (fun m => (m.kind, m.name)) (kind, n) ↔
      (run steps).Declares kind n := by
  rw [← exists_node_iff]
  constructor
  · intro h
    obtain ⟨m, hm, he⟩ := h.exists_mem
    exact ⟨m, hm, Prod.mk.inj he⟩
  · rintro ⟨m, hm, rfl, rfl⟩
    exact ⟨m, filter_key_eq_singleton_of_ne ((pairwise_nodes_graph steps).imp (·.ne)) hm⟩

-- ---------------------------------------------------------------------------
-- Nodes by kind
-- ---------------------------------------------------------------------------

theorem nodesOf_ofPrincipal (kind : PrincipalKind) :
    h.graph.nodesOf (.ofPrincipal kind) = (h.catalog.ofKind kind).map principalNode := by
  have hg : .group ≠ NodeKind.ofPrincipal kind := (NodeKind.ofPrincipal_ne_group kind).symm
  have hs : .secret ≠ NodeKind.ofPrincipal kind := (NodeKind.ofPrincipal_ne_secret kind).symm
  simp [Graph.nodesOf, graph, List.filter_map, Function.comp_def, principalNode, groupNode,
    secretNode, NodeKind.ofPrincipal_inj, Catalog.ofKind, hg, hs]

theorem nodesOf_group : h.graph.nodesOf .group = h.groups.toList.map groupNode := by
  simp [Graph.nodesOf, graph, List.filter_map, Function.comp_def, principalNode, groupNode,
    secretNode, NodeKind.ofPrincipal_ne_group]

theorem nodesOf_secret : h.graph.nodesOf .secret = h.secrets.toList.map secretNode := by
  simp [Graph.nodesOf, graph, List.filter_map, Function.comp_def, principalNode, groupNode,
    secretNode, NodeKind.ofPrincipal_ne_secret]

theorem values_catalog_run (steps : List Step) :
    (run steps).catalog.values =
      (run steps).catalog.ofKind .user ++ (run steps).catalog.ofKind .machine := by
  have hp : (run steps).catalog.values.Pairwise fun a b =>
      decide (b.id.kind = .user) → decide (a.id.kind = .user) := by
    refine (pairwise_catalog_values steps).imp fun {a b} hlt hb => ?_
    exact decide_eq_true (PrincipalId.isUser_of_compare_lt hlt (of_decide_eq_true hb))
  have hk : ∀ p : Principal, (!decide (p.id.kind = .user)) = decide (p.id.kind = .machine) := by
    intro p
    cases p.id.kind <;> rfl
  have hf := filter_append_filter_of_pairwise hp
  simp only [hk] at hf
  exact hf.symm

/-- The nodes of a graph stand in the order of their kinds. -/
theorem nodes_graph_run (steps : List Step) :
    (run steps).graph.nodes = NodeKind.all.flatMap (run steps).graph.nodesOf := by
  have hu : (run steps).graph.nodesOf .user = _ := nodesOf_ofPrincipal .user
  have hm : (run steps).graph.nodesOf .machine = _ := nodesOf_ofPrincipal .machine
  rw [NodeKind.all, List.flatMap_cons, List.flatMap_cons, List.flatMap_cons, List.flatMap_singleton,
    hu, hm, nodesOf_group, nodesOf_secret, graph, values_catalog_run, List.map_append]
  simp only [List.append_assoc]

-- ---------------------------------------------------------------------------
-- Edges
-- ---------------------------------------------------------------------------

theorem exists_node_of_declares {kind : NodeKind} {n : String}
    (hd : (run steps).Declares kind n) :
    ∃ m ∈ (run steps).graph.nodes, m.id = kind.nodeId n ∧ m.kind = kind := by
  obtain ⟨m, hm, rfl, rfl⟩ := exists_node_iff.mpr hd
  exact ⟨m, hm, id_of_mem_nodes hm, rfl⟩

theorem memberEdge_mem_graph {p : PrincipalId} {g : GroupName} :
    memberEdge p g ∈ (run steps).graph.edges ↔
      (run steps).isKnown p ∧ (run steps).isMember g p := by
  constructor
  · intro he
    generalize hx : memberEdge p g = e at he
    cases mem_edges_graph.mp he with
    | member _ hm hp =>
      obtain ⟨hs, ht, -, -⟩ := Edge.mk.inj hx
      obtain rfl := PrincipalId.nodeId_inj.mp hs
      obtain ⟨-, rfl⟩ := NodeKind.nodeId_inj.mp ht
      exact ⟨hp, hm⟩
    | direct | viaGroup => simp [memberEdge] at hx
  · rintro ⟨hp, hm⟩
    exact mem_edges_graph.mpr (.member (isKnownGroup_of_isMember hm) hm hp)

theorem directEdge_mem_graph {p : PrincipalId} {s : SecretName} :
    directEdge p s ∈ (run steps).graph.edges ↔
      (run steps).isKnown p ∧ (run steps).direct.holds s p := by
  constructor
  · intro he
    generalize hx : directEdge p s = e at he
    cases mem_edges_graph.mp he with
    | member => simp [directEdge] at hx
    | direct _ hd hp =>
      obtain ⟨hs, ht, -, -⟩ := Edge.mk.inj hx
      obtain rfl := PrincipalId.nodeId_inj.mp hs
      obtain ⟨-, rfl⟩ := NodeKind.nodeId_inj.mp ht
      exact ⟨hp, hd⟩
    | viaGroup => exact absurd (Edge.mk.inj hx).2.2.2 (NodeKind.ofPrincipal_ne_group _)
  · rintro ⟨hp, hd⟩
    exact mem_edges_graph.mpr (.direct (isSecret_of_direct hd) hd hp)

theorem viaGroupEdge_mem_graph {g : GroupName} {s : SecretName} :
    viaGroupEdge g s ∈ (run steps).graph.edges ↔
      (run steps).isKnownGroup g ∧ (run steps).viaGroup.holds s g := by
  constructor
  · intro he
    generalize hx : viaGroupEdge g s = e at he
    cases mem_edges_graph.mp he with
    | member => simp [viaGroupEdge] at hx
    | direct => exact absurd (Edge.mk.inj hx).2.2.2.symm (NodeKind.ofPrincipal_ne_group _)
    | viaGroup _ hv hg =>
      obtain ⟨hs, ht, -, -⟩ := Edge.mk.inj hx
      obtain ⟨-, rfl⟩ := NodeKind.nodeId_inj.mp hs
      obtain ⟨-, rfl⟩ := NodeKind.nodeId_inj.mp ht
      exact ⟨hg, hv⟩
  · rintro ⟨hg, hv⟩
    exact mem_edges_graph.mpr (.viaGroup (isSecret_of_viaGroup hv) hv hg)

/-- Every edge stands for a membership or a grant. -/
theorem edge_cases {e : Edge} (he : e ∈ h.graph.edges) :
    (∃ p g, memberEdge p g = e) ∨ (∃ p s, directEdge p s = e) ∨ ∃ g s, viaGroupEdge g s = e := by
  cases mem_edges_graph.mp he with
  | member => exact .inl ⟨_, _, rfl⟩
  | direct => exact .inr (.inl ⟨_, _, rfl⟩)
  | viaGroup => exact .inr (.inr ⟨_, _, rfl⟩)

theorem start_of_mem_edges {e : Edge} (he : e ∈ (run steps).graph.edges) :
    ∃ n ∈ (run steps).graph.nodes, n.id = e.start ∧ n.kind = e.source := by
  cases mem_edges_graph.mp he with
  | member _ _ hp | direct _ _ hp => exact exists_node_of_declares (declares_ofPrincipal.mpr hp)
  | viaGroup _ _ hg => exact @exists_node_of_declares steps .group _ hg

theorem target_of_mem_edges {e : Edge} (he : e ∈ (run steps).graph.edges) :
    ∃ n ∈ (run steps).graph.nodes, n.id = e.target := by
  have hn : ∀ {kind n}, (run steps).Declares kind n →
      ∃ m ∈ (run steps).graph.nodes, m.id = kind.nodeId n := fun hd =>
    (exists_node_of_declares hd).imp fun _ hm => ⟨hm.1, hm.2.1⟩
  cases mem_edges_graph.mp he with
  | member hg => exact @hn .group _ hg
  | direct hs | viaGroup hs => exact @hn .secret _ hs

-- ---------------------------------------------------------------------------
-- Each edge once
-- ---------------------------------------------------------------------------

theorem mem_memberEdges {g : GroupName} {e : Edge} :
    e ∈ h.memberEdges g ↔ ∃ p, (h.isMember g p ∧ h.isKnown p) ∧ memberEdge p g = e := by
  simp [memberEdges, memberEdge, SortedSet.mem_toList_iff]

theorem mem_accessEdges {s : SecretName} {e : Edge} :
    e ∈ h.accessEdges s ↔
      (∃ p, (h.direct.holds s p ∧ h.isKnown p) ∧ directEdge p s = e) ∨
        ∃ g, (h.viaGroup.holds s g ∧ h.isKnownGroup g) ∧ viaGroupEdge g s = e := by
  simp [accessEdges, directEdge, viaGroupEdge, SortedSet.mem_toList_iff]

theorem nodup_memberEdges (g : GroupName) : (h.memberEdges g).Nodup := by
  refine List.Nodup.map (fun p q he => ?_) ((SortedSet.nodup_toList _).filter _)
  exact PrincipalId.nodeId_inj.mp (Edge.mk.inj he).1

theorem nodup_accessEdges (s : SecretName) : (h.accessEdges s).Nodup := by
  refine List.nodup_append'.mpr ⟨?_, ?_, ?_⟩
  · refine List.Nodup.map (fun p q he => ?_) ((SortedSet.nodup_toList _).filter _)
    exact PrincipalId.nodeId_inj.mp (Edge.mk.inj he).1
  · refine List.Nodup.map (fun f g he => ?_) ((SortedSet.nodup_toList _).filter _)
    exact (NodeKind.nodeId_inj.mp (Edge.mk.inj he).1).2
  · intro e he he'
    obtain ⟨p, -, rfl⟩ := List.mem_map.mp he
    obtain ⟨g, -, hx⟩ := List.mem_map.mp he'
    exact absurd (Edge.mk.inj hx).2.2.2.symm (NodeKind.ofPrincipal_ne_group _)

/-- The edges drawn for different groups, or for different secrets, end at
different nodes. -/
theorem nodup_flatMap_of_target {names : SortedSet String} (kind : NodeKind)
    {edges : String → List Edge} (hn : ∀ n, (edges n).Nodup)
    (ht : ∀ n, ∀ e ∈ edges n, e.target = kind.nodeId n) : (names.toList.flatMap edges).Nodup := by
  refine List.nodup_flatMap.mpr ⟨fun n _ => hn n, ?_⟩
  refine (SortedSet.nodup_toList names).imp fun {m n} hne e hm hn => hne ?_
  exact (NodeKind.nodeId_inj.mp ((ht m e hm).symm.trans (ht n e hn))).2

theorem kind_of_mem_memberEdges {e : Edge} (he : e ∈ h.groups.toList.flatMap h.memberEdges) :
    e.kind = .member := by
  obtain ⟨g, -, he⟩ := List.mem_flatMap.mp he
  obtain ⟨p, -, rfl⟩ := mem_memberEdges.mp he
  rfl

theorem kind_of_mem_accessEdges {e : Edge} (he : e ∈ h.secrets.toList.flatMap h.accessEdges) :
    e.kind = .access := by
  obtain ⟨s, -, he⟩ := List.mem_flatMap.mp he
  rcases mem_accessEdges.mp he with ⟨p, -, rfl⟩ | ⟨g, -, rfl⟩
  all_goals rfl

theorem nodup_edges_graph (h : Hierarchy) : h.graph.edges.Nodup := by
  refine List.nodup_append'.mpr ⟨?_, ?_, ?_⟩
  · refine nodup_flatMap_of_target .group nodup_memberEdges fun g e he => ?_
    obtain ⟨p, -, rfl⟩ := mem_memberEdges.mp he
    rfl
  · refine nodup_flatMap_of_target .secret nodup_accessEdges fun s e he => ?_
    rcases mem_accessEdges.mp he with ⟨p, -, rfl⟩ | ⟨g, -, rfl⟩
    all_goals rfl
  · intro e hm ha
    have hk := kind_of_mem_memberEdges hm
    rw [kind_of_mem_accessEdges ha] at hk
    cases hk

theorem pairwise_kind_edges_graph (h : Hierarchy) :
    h.graph.edges.Pairwise fun e f => f.kind = .member → e.kind = .member := by
  refine List.pairwise_append.mpr ⟨?_, ?_, fun e he _ _ _ => kind_of_mem_memberEdges he⟩
  · exact List.pairwise_of_forall_mem_list fun e he _ _ _ => kind_of_mem_memberEdges he
  · refine List.pairwise_of_forall_mem_list fun e _ f hf hk => ?_
    rw [kind_of_mem_accessEdges hf] at hk
    cases hk

theorem wellFormed_graph (steps : List Step) : (run steps).graph.WellFormed where
  nodesInOrder := pairwise_nodes_graph steps
  distinctIds := nodup_ids_graph steps
  distinctEdges := nodup_edges_graph _
  start _ := start_of_mem_edges
  target _ := target_of_mem_edges
  membersFirst := pairwise_kind_edges_graph _

/-- The graph of a hierarchy is well formed. It has one node for each
registered principal, declared group and declared secret, and no other, each
with an id of its own. A principal is joined to the groups it is a member of
and to the secrets it is granted directly, a declared group to the secrets it
is granted, and there are no other edges. -/
theorem graph_well_formed_exact (steps : List Step) :
    (run steps).graph.WellFormed ∧
      (∀ kind n, OneEntry (run steps).graph.nodes (fun m => (m.kind, m.name)) (kind, n) ↔
        (run steps).Declares kind n) ∧
      (∀ m ∈ (run steps).graph.nodes, m.id = m.kind.nodeId m.name) ∧
      (∀ p g, memberEdge p g ∈ (run steps).graph.edges ↔
        (run steps).isKnown p ∧ p ∈ ((run steps).membersOf g).toList) ∧
      (∀ p s, directEdge p s ∈ (run steps).graph.edges ↔
        (run steps).isKnown p ∧ p ∈ ((run steps).directPrincipals s).toList) ∧
      (∀ g s, viaGroupEdge g s ∈ (run steps).graph.edges ↔
        (run steps).isKnownGroup g ∧ g ∈ ((run steps).grantedGroups s).toList) ∧
      ∀ e ∈ (run steps).graph.edges, (∃ p g, memberEdge p g = e) ∨
        (∃ p s, directEdge p s = e) ∨ ∃ g s, viaGroupEdge g s = e := by
  simp only [SortedSet.mem_toList_iff, contains_membersOf, contains_directPrincipals,
    contains_grantedGroups]
  exact ⟨wellFormed_graph steps, fun _ _ => oneEntry_node_iff, fun _ => id_of_mem_nodes,
    fun _ _ => memberEdge_mem_graph, fun _ _ => directEdge_mem_graph,
    fun _ _ => viaGroupEdge_mem_graph, fun _ => edge_cases⟩

end Hierarchy

end SecretAccess
