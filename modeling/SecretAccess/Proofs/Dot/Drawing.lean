import SecretAccess.Dot

/-!
# Drawings

What a written graph shows: its nodes sorted into one cluster for each kind
that has any, and its edges by colour. A drawing has a text, and the written
graph is the text of its drawing (`toList_render`). The drawings of graphs are
those whose clusters come in the order of the kinds and hold nodes of their
kind (`wellFormed_ofGraph`, `ofGraph_graph`).
-/

namespace SecretAccess.Dot

structure Cluster where
  kind : NodeKind
  nodes : List Node
deriving DecidableEq, Repr

/-- The classes of edges that a drawing tells apart. -/
inductive EdgeColour where
  | blue
  | orange
  | green
  | purple
  | darkgreen
deriving DecidableEq, Repr

namespace EdgeColour

def all : List EdgeColour := [.blue, .orange, .green, .purple, .darkgreen]

def attributes : EdgeColour → String
  | .blue => "label=\"member\", color=blue"
  | .orange => "label=\"member\", color=orange"
  | .green => "label=\"access\", color=green, style=dashed"
  | .purple => "label=\"access\", color=purple, style=dashed"
  | .darkgreen => "label=\"access\", color=darkgreen, style=bold"

/-- The members of a group are blue but for machines; groups, and secrets if
they had any edge, share a colour. -/
def ofEdge : EdgeKind → NodeKind → EdgeColour
  | .member, .machine => .orange
  | .member, .user | .member, .group | .member, .secret => .blue
  | .access, .user => .green
  | .access, .machine => .purple
  | .access, .group | .access, .secret => .darkgreen

def kind : EdgeColour → EdgeKind
  | .blue | .orange => .member
  | .green | .purple | .darkgreen => .access

/-- Of the sources that share a colour, the one that edges of a hierarchy have. -/
def source : EdgeColour → NodeKind
  | .blue | .green => .user
  | .orange | .purple => .machine
  | .darkgreen => .group

theorem ofEdge_kind_source (c : EdgeColour) : ofEdge c.kind c.source = c := by
  cases c <;> rfl

end EdgeColour

theorem edgeStyle_eq (kind : EdgeKind) (source : NodeKind) :
    edgeStyle kind source = (EdgeColour.ofEdge kind source).attributes := by
  cases kind <;> cases source <;> rfl

structure DrawnEdge where
  start : String
  target : String
  colour : EdgeColour
deriving DecidableEq, Repr

namespace DrawnEdge

def ofEdge (e : Edge) : DrawnEdge := ⟨e.start, e.target, .ofEdge e.kind e.source⟩

def edge (e : DrawnEdge) : Edge := ⟨e.start, e.target, e.colour.kind, e.colour.source⟩

theorem ofEdge_edge (e : DrawnEdge) : ofEdge e.edge = e := by
  simp [ofEdge, edge, EdgeColour.ofEdge_kind_source]

end DrawnEdge

/-- A graph as it is drawn: the nodes by kind, and the edges by colour. -/
structure Drawing where
  clusters : List Cluster
  edges : List DrawnEdge
deriving DecidableEq, Repr

/-- One cluster for each kind that has nodes, with all of these in their order. -/
def Cluster.ofGraph? (g : Graph) (kind : NodeKind) : Option Cluster :=
  match g.nodesOf kind with
  | [] => none
  | nodes => some ⟨kind, nodes⟩

namespace Drawing

def ofGraph (g : Graph) : Drawing where
  clusters := NodeKind.all.filterMap (Cluster.ofGraph? g)
  edges := g.edges.map .ofEdge

/-- The graph of a drawing, cluster by cluster. -/
def graph (d : Drawing) : Graph := ⟨d.clusters.flatMap (·.nodes), d.edges.map (·.edge)⟩

end Drawing

-- ---------------------------------------------------------------------------
-- Texts
-- ---------------------------------------------------------------------------

def clusterOpening (kind : NodeKind) : String :=
  "\n  subgraph cluster_" ++ clusterName kind ++ " \x7b\n    label=\"" ++ clusterLabel kind ++
    "\";\n    style=filled;\n    color=lightgrey;\n"

def Cluster.text (c : Cluster) : List Char :=
  (clusterOpening c.kind).toList ++
    (c.nodes.flatMap (fun n => (nodeLine n).toList) ++ "  \x7d\n".toList)

def DrawnEdge.text (e : DrawnEdge) : List Char :=
  "  ".toList ++ ((quote e.start).toList ++ (" -> ".toList ++ ((quote e.target).toList ++
    (" [".toList ++ (e.colour.attributes ++ "];\n").toList))))

/-- The edges stand behind an empty line, if there are any. -/
def edgesText : List DrawnEdge → List Char
  | [] => []
  | e :: es => '\n' :: (e :: es).flatMap DrawnEdge.text

def Drawing.text (d : Drawing) : List Char :=
  opening.toList ++ (d.clusters.flatMap Cluster.text ++ (edgesText d.edges ++ "\x7d\n".toList))

theorem escapeChar_eq_self {c : Char} (hb : c ≠ '\\') (hq : c ≠ '"') : escapeChar c = [c] := by
  simp [escapeChar]

theorem toList_nodeLine (n : Node) :
    (nodeLine n).toList = "    ".toList ++ ((quote n.id).toList ++ (" [label=".toList ++
      ('"' :: ((label n).toList ++ '"' :: (", " ++ nodeStyle n.kind ++ "];\n").toList)))) := by
  simp [nodeLine]

theorem toList_edgeLine (e : Edge) : (edgeLine e).toList = (DrawnEdge.ofEdge e).text := by
  simp [edgeLine, DrawnEdge.text, DrawnEdge.ofEdge, edgeStyle_eq]

theorem toList_edges (g : Graph) :
    (edges g).toList = edgesText (g.edges.map .ofEdge) := by
  rw [edges]
  cases g.edges with
  | nil => rfl
  | cons e es =>
    simp [edgesText, String.toList_join, List.flatMap_map, toList_edgeLine]

theorem toList_cluster (g : Graph) (kind : NodeKind) :
    (cluster g kind).toList = ((Cluster.ofGraph? g kind).map Cluster.text).getD [] := by
  rw [cluster, Cluster.ofGraph?]
  cases g.nodesOf kind with
  | nil => simp
  | cons n nodes =>
    unfold Cluster.text clusterOpening
    simp [String.toList_join, List.flatMap_map]

/-- A written graph is the text of its drawing. -/
theorem toList_render (g : Graph) : (render g).toList = (Drawing.ofGraph g).text := by
  have hc : ∀ kinds : List NodeKind, kinds.flatMap (fun k => (cluster g k).toList) =
      (kinds.filterMap (Cluster.ofGraph? g)).flatMap Cluster.text := by
    intro kinds
    induction kinds with
    | nil => rfl
    | cons kind kinds ih =>
      rw [List.flatMap_cons, ih, toList_cluster, List.filterMap_cons]
      cases Cluster.ofGraph? g kind <;> rfl
  simp only [render, String.toList_append, String.toList_join, List.flatMap_map, hc,
    toList_edges, Drawing.text, Drawing.ofGraph, List.append_assoc]

-- ---------------------------------------------------------------------------
-- The drawings of graphs
-- ---------------------------------------------------------------------------

structure Cluster.WellFormed (c : Cluster) : Prop where
  nonempty : c.nodes ≠ []
  kinds : ∀ n ∈ c.nodes, n.kind = c.kind

structure Drawing.WellFormed (d : Drawing) : Prop where
  kinds : (d.clusters.map (·.kind)).Sublist NodeKind.all
  clusters : ∀ c ∈ d.clusters, c.WellFormed

theorem Cluster.ofGraph?_eq_some_iff {g : Graph} {kind : NodeKind} {c : Cluster} :
    ofGraph? g kind = some c ↔ c.kind = kind ∧ c.nodes = g.nodesOf kind ∧ c.nodes ≠ [] := by
  obtain ⟨k, nodes⟩ := c
  rw [ofGraph?]
  cases hn : g.nodesOf kind with
  | nil => simp +contextual
  | cons n ns =>
    simp only [Option.some.injEq, Cluster.mk.injEq]
    constructor
    · rintro ⟨rfl, rfl⟩
      simp
    · rintro ⟨rfl, rfl, -⟩
      simp

theorem Cluster.ofGraph?_eq_none_iff {g : Graph} {kind : NodeKind} :
    ofGraph? g kind = none ↔ g.nodesOf kind = [] := by
  rw [ofGraph?]
  cases g.nodesOf kind <;> simp

theorem sublist_kinds_filterMap (g : Graph) (kinds : List NodeKind) :
    ((kinds.filterMap (Cluster.ofGraph? g)).map (·.kind)).Sublist kinds := by
  induction kinds with
  | nil => exact .slnil
  | cons kind kinds ih =>
    rw [List.filterMap_cons]
    cases h : Cluster.ofGraph? g kind with
    | none => exact ih.cons kind
    | some c =>
      obtain ⟨rfl, -⟩ := Cluster.ofGraph?_eq_some_iff.mp h
      exact ih.cons_cons c.kind

theorem wellFormed_ofGraph (g : Graph) : (Drawing.ofGraph g).WellFormed where
  kinds := sublist_kinds_filterMap g NodeKind.all
  clusters c hc := by
    obtain ⟨kind, -, hc⟩ := List.mem_filterMap.mp hc
    obtain ⟨rfl, hn, hne⟩ := Cluster.ofGraph?_eq_some_iff.mp hc
    refine ⟨hne, fun n hm => ?_⟩
    rw [hn] at hm
    exact of_decide_eq_true (List.mem_filter.mp hm).2

theorem Cluster.WellFormed.filter_nodes {c : Cluster} (h : c.WellFormed) (kind : NodeKind) :
    c.nodes.filter (·.kind = kind) = if c.kind = kind then c.nodes else [] := by
  split
  case isTrue hk =>
    exact List.filter_eq_self.mpr fun n hn => decide_eq_true ((h.kinds n hn).trans hk)
  case isFalse hk =>
    refine List.filter_eq_nil_iff.mpr fun n hn => ?_
    simpa [h.kinds n hn] using hk

theorem filter_flatMap_nodes {cs : List Cluster} (h : ∀ c ∈ cs, c.WellFormed)
    (kind : NodeKind) : (cs.flatMap (·.nodes)).filter (·.kind = kind) =
      (cs.filter (·.kind = kind)).flatMap (·.nodes) := by
  induction cs with
  | nil => rfl
  | cons c cs ih =>
    obtain ⟨hc, hcs⟩ := List.forall_mem_cons.mp h
    rw [List.flatMap_cons, List.filter_append, ih hcs, hc.filter_nodes, List.filter_cons]
    by_cases hk : c.kind = kind <;> simp [hk]

theorem filterMap_ofGraph? {g : Graph} {kinds : List NodeKind} (hkinds : kinds.Nodup)
    {cs : List Cluster} (hs : (cs.map (·.kind)).Sublist kinds) (hw : ∀ c ∈ cs, c.WellFormed)
    (hg : ∀ kind ∈ kinds, g.nodesOf kind = (cs.filter (·.kind = kind)).flatMap (·.nodes)) :
    kinds.filterMap (Cluster.ofGraph? g) = cs := by
  induction kinds generalizing cs with
  | nil => simpa using hs
  | cons kind kinds ih =>
    obtain ⟨hk, hnodup⟩ := List.nodup_cons.mp hkinds
    obtain ⟨hkg, hothers⟩ := List.forall_mem_cons.mp hg
    -- a kind comes once, so behind it no cluster has it
    have hnil : ∀ {cs : List Cluster}, (cs.map (·.kind)).Sublist kinds →
        cs.filter (·.kind = kind) = [] := by
      intro cs hs
      refine List.filter_eq_nil_iff.mpr fun c hc hck => hk ?_
      exact of_decide_eq_true hck ▸ hs.mem (List.mem_map_of_mem hc)
    rw [List.filterMap_cons]
    rcases List.sublist_cons_iff.mp hs with hs | ⟨ks, hks, hs⟩
    · have hnone : Cluster.ofGraph? g kind = none := by
        rw [Cluster.ofGraph?_eq_none_iff, hkg, hnil hs, List.flatMap_nil]
      rw [hnone]
      exact ih hnodup hs hw hothers
    · obtain ⟨c, cs, rfl, rfl, rfl⟩ := List.map_eq_cons_iff.mp hks
      obtain ⟨hc, hcs⟩ := List.forall_mem_cons.mp hw
      have hsome : Cluster.ofGraph? g c.kind = some c := by
        refine Cluster.ofGraph?_eq_some_iff.mpr ⟨rfl, ?_, hc.nonempty⟩
        rw [hkg, List.filter_cons_of_pos (by simp), hnil hs, List.flatMap_singleton]
      rw [hsome, ih hnodup hs hcs fun k hkm => ?_]
      rw [hothers k hkm, List.filter_cons_of_neg]
      exact fun hck => hk (of_decide_eq_true hck ▸ hkm)

/-- A well-formed drawing is the drawing of its graph. -/
theorem ofGraph_graph {d : Drawing} (h : d.WellFormed) : .ofGraph d.graph = d := by
  have hc : NodeKind.all.filterMap (Cluster.ofGraph? d.graph) = d.clusters :=
    filterMap_ofGraph? (by decide) h.kinds h.clusters fun kind _ =>
      filter_flatMap_nodes h.clusters kind
  have he : d.graph.edges.map .ofEdge = d.edges := by
    simp [Drawing.graph, Function.comp_def, DrawnEdge.ofEdge_edge]
  rw [Drawing.ofGraph, hc, he]

end SecretAccess.Dot
