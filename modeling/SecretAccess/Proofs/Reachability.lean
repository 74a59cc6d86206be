import SecretAccess.Graph
import SecretAccess.Proofs.Resolution

/-!
# Paths in the access graph

The graph is drawn from memberships and grants alone, without a look at the
resolution. Its paths are short: they lead from a principal to a secret, at
once or through one group. So what a registered principal can reach in the
graph is what was resolved for it (`reachable_iff_resolved`). Ids keep names of
different kinds apart (`nodeId_inj`); without this two paths could be glued
together at a shared name.
-/

namespace SecretAccess

namespace NodeKind

/-- No kind's name goes on as another one does. -/
theorem nodeId_inj {k l : NodeKind} {n m : String} : k.nodeId n = l.nodeId m ↔ k = l ∧ n = m := by
  constructor
  · intro h
    have ht : k.name.toList ++ ('_' :: n.toList) = l.name.toList ++ ('_' :: m.toList) := by
      simpa [nodeId, String.toList_append] using congrArg String.toList h
    -- the first letters differ, or the kinds are the same
    cases k <;> cases l <;> simp_all [name, String.toList_inj]
  · rintro ⟨rfl, rfl⟩
    rfl

theorem ofPrincipal_inj {k l : PrincipalKind} : ofPrincipal k = ofPrincipal l ↔ k = l := by
  cases k <;> cases l <;> simp [ofPrincipal]

theorem ofPrincipal_ne_group (k : PrincipalKind) : ofPrincipal k ≠ .group := by
  cases k <;> simp [ofPrincipal]

theorem ofPrincipal_ne_secret (k : PrincipalKind) : ofPrincipal k ≠ .secret := by
  cases k <;> simp [ofPrincipal]

end NodeKind

theorem PrincipalId.nodeId_inj {p q : PrincipalId} : p.nodeId = q.nodeId ↔ p = q := by
  rw [nodeId, nodeId, NodeKind.nodeId_inj, NodeKind.ofPrincipal_inj, PrincipalId.mk.injEq]

namespace Graph

def HasEdge (g : Graph) (a b : String) : Prop := ∃ e ∈ g.edges, e.start = a ∧ e.target = b

/-- The edges, one after the other, lead from `a` to `b`. -/
def Path (g : Graph) : String → List Edge → String → Prop
  | a, [], b => a = b
  | a, e :: es, b => e ∈ g.edges ∧ e.start = a ∧ g.Path e.target es b

end Graph

namespace Hierarchy

/-- The edges of a graph, by what they stand for. -/
inductive Draws (h : Hierarchy) : Edge → Prop
  | member {g p} : h.isKnownGroup g → h.isMember g p → h.isKnown p →
    h.Draws ⟨p.nodeId, NodeKind.group.nodeId g, .member, .ofPrincipal p.kind⟩
  | direct {s p} : h.isSecret s → h.direct.holds s p → h.isKnown p →
    h.Draws ⟨p.nodeId, NodeKind.secret.nodeId s, .access, .ofPrincipal p.kind⟩
  | viaGroup {s g} : h.isSecret s → h.viaGroup.holds s g → h.isKnownGroup g →
    h.Draws ⟨NodeKind.group.nodeId g, NodeKind.secret.nodeId s, .access, .group⟩

variable {h : Hierarchy} {steps : List Step}

theorem mem_edges_graph {e : Edge} : e ∈ h.graph.edges ↔ h.Draws e := by
  simp only [graph, memberEdges, accessEdges, List.mem_append, List.mem_flatMap, List.mem_map,
    List.mem_filter, SortedSet.mem_toList_iff, contains_membersOf, contains_directPrincipals,
    contains_grantedGroups]
  constructor
  · rintro (⟨g, hg, p, ⟨hm, hp⟩, rfl⟩ | ⟨s, hs, ⟨p, ⟨hd, hp⟩, rfl⟩ | ⟨g, ⟨hv, hg⟩, rfl⟩⟩)
    · exact .member hg hm hp
    · exact .direct hs hd hp
    · exact .viaGroup hs hv hg
  · rintro (@⟨g, p, hg, hm, hp⟩ | @⟨s, p, hs, hd, hp⟩ | @⟨s, g, hs, hv, hg⟩)
    · exact .inl ⟨g, hg, p, ⟨hm, hp⟩, rfl⟩
    · exact .inr ⟨s, hs, .inl ⟨p, ⟨hd, hp⟩, rfl⟩⟩
    · exact .inr ⟨s, hs, .inr ⟨g, ⟨hv, hg⟩, rfl⟩⟩

theorem mem_nodes_graph {n : Node} :
    n ∈ h.graph.nodes ↔ (∃ p ∈ h.catalog.values, principalNode p = n) ∨
      (∃ g, h.isKnownGroup g ∧ groupNode g = n) ∨ ∃ s, h.isSecret s ∧ secretNode s = n := by
  simp only [graph, List.mem_append, List.mem_map, SortedSet.mem_toList_iff, or_assoc]
  rfl

-- ---------------------------------------------------------------------------
-- Single edges
-- ---------------------------------------------------------------------------

theorem hasEdge_member_iff {p : PrincipalId} {g : GroupName} :
    h.graph.HasEdge p.nodeId (NodeKind.group.nodeId g) ↔
      h.isKnownGroup g ∧ h.isMember g p ∧ h.isKnown p := by
  constructor
  · rintro ⟨e, he, hs, ht⟩
    cases mem_edges_graph.mp he with
    | member hg hm hp =>
      obtain rfl := PrincipalId.nodeId_inj.mp hs
      obtain ⟨-, rfl⟩ := NodeKind.nodeId_inj.mp ht
      exact ⟨hg, hm, hp⟩
    | direct | viaGroup => simp [NodeKind.nodeId_inj] at ht
  · rintro ⟨hg, hm, hp⟩
    exact ⟨_, mem_edges_graph.mpr (.member hg hm hp), rfl, rfl⟩

theorem hasEdge_direct_iff {p : PrincipalId} {s : SecretName} :
    h.graph.HasEdge p.nodeId (NodeKind.secret.nodeId s) ↔
      h.isSecret s ∧ h.direct.holds s p ∧ h.isKnown p := by
  constructor
  · rintro ⟨e, he, hst, ht⟩
    cases mem_edges_graph.mp he with
    | member => simp [NodeKind.nodeId_inj] at ht
    | direct hs hd hp =>
      obtain rfl := PrincipalId.nodeId_inj.mp hst
      obtain ⟨-, rfl⟩ := NodeKind.nodeId_inj.mp ht
      exact ⟨hs, hd, hp⟩
    | viaGroup => exact absurd (NodeKind.nodeId_inj.mp hst).1.symm (NodeKind.ofPrincipal_ne_group _)
  · rintro ⟨hs, hd, hp⟩
    exact ⟨_, mem_edges_graph.mpr (.direct hs hd hp), rfl, rfl⟩

theorem hasEdge_viaGroup_iff {g : GroupName} {s : SecretName} :
    h.graph.HasEdge (NodeKind.group.nodeId g) (NodeKind.secret.nodeId s) ↔
      h.isSecret s ∧ h.viaGroup.holds s g ∧ h.isKnownGroup g := by
  constructor
  · rintro ⟨e, he, hst, ht⟩
    cases mem_edges_graph.mp he with
    | member => simp [NodeKind.nodeId_inj] at ht
    | direct => exact absurd (NodeKind.nodeId_inj.mp hst).1 (NodeKind.ofPrincipal_ne_group _)
    | viaGroup hs hv hg =>
      obtain ⟨-, rfl⟩ := NodeKind.nodeId_inj.mp hst
      obtain ⟨-, rfl⟩ := NodeKind.nodeId_inj.mp ht
      exact ⟨hs, hv, hg⟩
  · rintro ⟨hs, hv, hg⟩
    exact ⟨_, mem_edges_graph.mpr (.viaGroup hs hv hg), rfl, rfl⟩

-- ---------------------------------------------------------------------------
-- Paths, by the kind of the node they begin at
-- ---------------------------------------------------------------------------

theorem eq_nil_of_path_secret {s : SecretName} {es : List Edge} {b : String}
    (hp : h.graph.Path (NodeKind.secret.nodeId s) es b) : es = [] := by
  cases es with
  | nil => rfl
  | cons e es =>
    obtain ⟨he, hs, -⟩ := hp
    cases mem_edges_graph.mp he with
    | member | direct =>
      exact absurd (NodeKind.nodeId_inj.mp hs).1 (NodeKind.ofPrincipal_ne_secret _)
    | viaGroup => simp [NodeKind.nodeId_inj] at hs

theorem path_group_cases {g : GroupName} {es : List Edge} {b : String}
    (hp : h.graph.Path (NodeKind.group.nodeId g) es b) :
    (es = [] ∧ b = NodeKind.group.nodeId g) ∨
      ∃ e s, es = [e] ∧ b = NodeKind.secret.nodeId s ∧ e.start = NodeKind.group.nodeId g ∧
        h.graph.HasEdge (NodeKind.group.nodeId g) b := by
  cases es with
  | nil => exact .inl ⟨rfl, hp.symm⟩
  | cons e es =>
    obtain ⟨he, hs, hp⟩ := hp
    cases mem_edges_graph.mp he with
    | member | direct =>
      exact absurd (NodeKind.nodeId_inj.mp hs).1 (NodeKind.ofPrincipal_ne_group _)
    | viaGroup =>
      obtain rfl := eq_nil_of_path_secret hp
      exact .inr ⟨_, _, rfl, hp.symm, hs, _, he, hs, hp⟩

/-- A path that leaves a node goes to a secret or a group, and from a group to
a secret, and no further. -/
theorem path_cases {a b : String} {es : List Edge} (hp : h.graph.Path a es b) :
    es = [] ∨ (∃ e, es = [e] ∧ h.graph.HasEdge a b) ∨
      ∃ e e' g, es = [e, e'] ∧ h.isKnownGroup g ∧ e.target = NodeKind.group.nodeId g ∧
        e'.start = NodeKind.group.nodeId g ∧ h.graph.HasEdge a (NodeKind.group.nodeId g) ∧
        h.graph.HasEdge (NodeKind.group.nodeId g) b := by
  cases es with
  | nil => exact .inl rfl
  | cons e es =>
    obtain ⟨he, hs, hp⟩ := hp
    refine .inr ?_
    cases mem_edges_graph.mp he with
    | @member g p hg hm hk =>
      rcases path_group_cases hp with ⟨rfl, hb⟩ | ⟨e', s, rfl, -, hs', hlast⟩
      · exact .inl ⟨_, rfl, _, he, hs, hb.symm⟩
      · exact .inr ⟨_, e', g, rfl, hg, rfl, hs', ⟨_, he, hs, rfl⟩, hlast⟩
    | direct | viaGroup =>
      obtain rfl := eq_nil_of_path_secret hp
      exact .inl ⟨_, rfl, _, he, hs, hp⟩

theorem length_path_le_two {a b : String} {es : List Edge} (hp : h.graph.Path a es b) :
    es.length ≤ 2 := by
  rcases path_cases hp with rfl | ⟨e, rfl, -⟩ | ⟨e, e', g, rfl, -⟩
  all_goals simp

theorem exists_path_iff {p : PrincipalId} {s : SecretName} :
    (∃ es, h.graph.Path p.nodeId es (NodeKind.secret.nodeId s)) ↔
      h.graph.HasEdge p.nodeId (NodeKind.secret.nodeId s) ∨
        ∃ g, h.graph.HasEdge p.nodeId (NodeKind.group.nodeId g) ∧
          h.graph.HasEdge (NodeKind.group.nodeId g) (NodeKind.secret.nodeId s) := by
  constructor
  · rintro ⟨es, hp⟩
    rcases path_cases hp with rfl | ⟨e, rfl, hd⟩ | ⟨e, e', g, rfl, -, -, -, hm, hv⟩
    · exact absurd (NodeKind.nodeId_inj.mp hp).1 (NodeKind.ofPrincipal_ne_secret _)
    · exact .inl hd
    · exact .inr ⟨g, hm, hv⟩
  · rintro (⟨e, he, hs, ht⟩ | ⟨g, ⟨e, he, hs, ht⟩, e', he', hs', ht'⟩)
    · exact ⟨[e], he, hs, ht⟩
    · exact ⟨[e, e'], he, hs, he', hs'.trans ht.symm, ht'⟩

-- ---------------------------------------------------------------------------
-- The graph and the resolution
-- ---------------------------------------------------------------------------

variable {p : PrincipalId} {s : SecretName}

theorem hasEdge_direct_run_iff (hp : (run steps).isKnown p) :
    (run steps).graph.HasEdge p.nodeId (NodeKind.secret.nodeId s) ↔
      (run steps).direct.holds s p := by
  rw [hasEdge_direct_iff]
  exact ⟨fun hd => hd.2.1, fun hd => ⟨isSecret_of_direct hd, hd, hp⟩⟩

/-- An undeclared group has no node, but no members either. -/
theorem hasEdges_through_run_iff (hp : (run steps).isKnown p) {g : GroupName} :
    (run steps).graph.HasEdge p.nodeId (NodeKind.group.nodeId g) ∧
        (run steps).graph.HasEdge (NodeKind.group.nodeId g) (NodeKind.secret.nodeId s) ↔
      (run steps).viaGroup.holds s g ∧ (run steps).isMember g p := by
  rw [hasEdge_member_iff, hasEdge_viaGroup_iff]
  constructor
  · rintro ⟨⟨-, hm, -⟩, -, hv, -⟩
    exact ⟨hv, hm⟩
  · rintro ⟨hv, hm⟩
    have hg := isKnownGroup_of_isMember hm
    exact ⟨⟨hg, hm, hp⟩, isSecret_of_viaGroup hv, hv, hg⟩

theorem exists_groupNode_between_iff {g : GroupName} {b : String} :
    (∃ n ∈ h.graph.nodes, n.kind = .group ∧ n.name = g ∧ h.graph.HasEdge p.nodeId n.id ∧
        h.graph.HasEdge n.id b) ↔
      h.graph.HasEdge p.nodeId (NodeKind.group.nodeId g) ∧
        h.graph.HasEdge (NodeKind.group.nodeId g) b := by
  constructor
  · rintro ⟨n, hn, hk, rfl, hid⟩
    rcases mem_nodes_graph.mp hn with ⟨q, -, rfl⟩ | ⟨f, -, rfl⟩ | ⟨t, -, rfl⟩
    · exact absurd hk (NodeKind.ofPrincipal_ne_group _)
    · exact hid
    · cases hk
  · intro hid
    have hg := (hasEdge_member_iff.mp hid.1).1
    exact ⟨_, mem_nodes_graph.mpr (.inr (.inl ⟨g, hg, rfl⟩)), rfl, rfl, hid⟩

/-- What the graph shows of one principal and one secret. -/
theorem access_of_graph (hp : (run steps).isKnown p) :
    ((∃ a, (run steps).resolve.get? ⟨p, s⟩ = some a) ↔
        ∃ es, (run steps).graph.Path p.nodeId es (NodeKind.secret.nodeId s)) ∧
      ∀ a, (run steps).resolve.get? ⟨p, s⟩ = some a →
        (a.direct ↔ (run steps).graph.HasEdge p.nodeId (NodeKind.secret.nodeId s)) ∧
        ∀ g, g ∈ a.via.toList ↔ ∃ n ∈ (run steps).graph.nodes, n.kind = .group ∧ n.name = g ∧
          (run steps).graph.HasEdge p.nodeId n.id ∧
          (run steps).graph.HasEdge n.id (NodeKind.secret.nodeId s) := by
  simp only [SortedMap.get?_eq_some_iff]
  refine ⟨?_, fun a ha => ?_⟩
  · rw [exists_mem_entries_resolve_run, exists_path_iff, hasEdge_direct_run_iff hp]
    simp only [hasEdges_through_run_iff hp]
  · obtain ⟨hd, hv⟩ := mem_entries_resolve_run ha
    refine ⟨hd.trans (hasEdge_direct_run_iff hp).symm, fun g => ?_⟩
    rw [SortedSet.mem_toList_iff, hv, ← hasEdges_through_run_iff hp]
    exact exists_groupNode_between_iff.symm

theorem path_principal_secret {es : List Edge}
    (hp : h.graph.Path p.nodeId es (NodeKind.secret.nodeId s)) :
    es.length = 1 ∨ ∃ e e', es = [e, e'] ∧ ∃ c ∈ h.graph.nodes, c.kind = .group ∧
      e.target = c.id ∧ e'.start = c.id := by
  rcases path_cases hp with rfl | ⟨e, rfl, -⟩ | ⟨e, e', g, rfl, hg, ht, hs, -⟩
  · exact absurd (NodeKind.nodeId_inj.mp hp).1 (NodeKind.ofPrincipal_ne_secret _)
  · exact .inl rfl
  · have hn : groupNode g ∈ h.graph.nodes := mem_nodes_graph.mpr (.inr (.inl ⟨g, hg, rfl⟩))
    exact .inr ⟨e, e', rfl, groupNode g, hn, rfl, ht, hs⟩

/-- A registered principal has access to a declared secret exactly when the
graph has a path between their nodes. The access is direct when an edge joins
them, and it comes through the groups whose nodes lie between them. No path is
longer than two edges, and one from a principal to a secret has one edge, or
two and a group between them. -/
theorem reachable_iff_resolved (steps : List Step) :
    (∀ p s, (run steps).isKnown p → (run steps).isSecret s →
      ((∃ a, (run steps).resolve.get? ⟨p, s⟩ = some a) ↔
        ∃ es, (run steps).graph.Path p.nodeId es (NodeKind.secret.nodeId s)) ∧
      ∀ a, (run steps).resolve.get? ⟨p, s⟩ = some a →
        (a.direct ↔ (run steps).graph.HasEdge p.nodeId (NodeKind.secret.nodeId s)) ∧
        ∀ g, g ∈ a.via.toList ↔ ∃ n ∈ (run steps).graph.nodes, n.kind = .group ∧ n.name = g ∧
          (run steps).graph.HasEdge p.nodeId n.id ∧
          (run steps).graph.HasEdge n.id (NodeKind.secret.nodeId s)) ∧
    (∀ a es b, (run steps).graph.Path a es b → es.length ≤ 2) ∧
    ∀ m ∈ (run steps).graph.nodes, ∀ n ∈ (run steps).graph.nodes,
      m.kind = .user ∨ m.kind = .machine → n.kind = .secret →
      ∀ es, (run steps).graph.Path m.id es n.id →
        es.length = 1 ∨ ∃ e e', es = [e, e'] ∧ ∃ c ∈ (run steps).graph.nodes,
          c.kind = .group ∧ e.target = c.id ∧ e'.start = c.id := by
  refine ⟨fun p s hp _ => access_of_graph hp, fun a es b => length_path_le_two, ?_⟩
  intro m hm n hn hmk hnk es hpath
  rcases mem_nodes_graph.mp hm with ⟨q, -, rfl⟩ | ⟨g, -, rfl⟩ | ⟨t, -, rfl⟩
  · rcases mem_nodes_graph.mp hn with ⟨q', -, rfl⟩ | ⟨g, -, rfl⟩ | ⟨t, -, rfl⟩
    · exact absurd hnk (NodeKind.ofPrincipal_ne_secret _)
    · cases hnk
    · exact path_principal_secret hpath
  · simp [groupNode] at hmk
  · simp [secretNode] at hmk

end Hierarchy

end SecretAccess
