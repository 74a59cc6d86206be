import Mathlib.Data.List.Basic
import SecretAccess.Proofs.Dot.Exact
import SecretAccess.Proofs.Dot.Outline
import SecretAccess.Proofs.GraphShape

/-!
# Drawings of hierarchies

A drawing sorts the nodes by kind, and edges from different kinds of nodes may
share a colour. Neither loses anything of the graph of a hierarchy, where nodes
stand in the order of the clusters and the source of an edge follows from its
colour. So the written graph of a hierarchy can be turned back into the graph
(`decode_render_run`).
-/

namespace SecretAccess.Dot

open Hierarchy

theorem EdgeColour.kind_ofEdge (kind : EdgeKind) (source : NodeKind) :
    (ofEdge kind source).kind = kind := by
  cases kind <;> cases source <;> rfl

theorem EdgeColour.source_ofEdge_principal (kind : EdgeKind) (principal : PrincipalKind) :
    (ofEdge kind (.ofPrincipal principal)).source = .ofPrincipal principal := by
  cases kind <;> cases principal <;> rfl

/-- The edges of a hierarchy are known by their colours. -/
theorem edge_ofEdge_of_draws {h : Hierarchy} {e : Edge} (he : h.Draws e) :
    (DrawnEdge.ofEdge e).edge = e := by
  cases he with
  | member | direct =>
    simp [DrawnEdge.ofEdge, DrawnEdge.edge, EdgeColour.kind_ofEdge,
      EdgeColour.source_ofEdge_principal]
  | viaGroup => rfl

theorem flatMap_nodes_ofGraph (g : Graph) (kinds : List NodeKind) :
    (kinds.filterMap (Cluster.ofGraph? g)).flatMap (·.nodes) = kinds.flatMap g.nodesOf := by
  induction kinds with
  | nil => rfl
  | cons kind kinds ih =>
    rw [List.filterMap_cons, List.flatMap_cons, ← ih]
    cases h : Cluster.ofGraph? g kind with
    | none => rw [Cluster.ofGraph?_eq_none_iff.mp h, List.nil_append]
    | some c =>
      obtain ⟨-, hn, -⟩ := Cluster.ofGraph?_eq_some_iff.mp h
      rw [List.flatMap_cons, hn]

/-- The graph of a hierarchy is the graph of its drawing. -/
theorem graph_ofGraph_run (steps : List Step) :
    (Drawing.ofGraph (run steps).graph).graph = (run steps).graph := by
  have hn : (NodeKind.all.filterMap (Cluster.ofGraph? (run steps).graph)).flatMap (·.nodes) =
      (run steps).graph.nodes := by
    rw [flatMap_nodes_ofGraph, ← nodes_graph_run]
  have he : ((run steps).graph.edges.map .ofEdge).map DrawnEdge.edge = (run steps).graph.edges := by
    rw [List.map_map]
    refine (List.map_congr_left fun e he => ?_).trans (List.map_id _)
    exact edge_ofEdge_of_draws (mem_edges_graph.mp he)
  rw [Drawing.graph, Drawing.ofGraph, hn, he]

/-- The graph that a text shows if it is the graph of a hierarchy. -/
def decode (text : String) : Option Graph := (read text).map Drawing.graph

theorem decode_render_run (steps : List Step) :
    decode (render (run steps).graph) = some (run steps).graph := by
  rw [decode, read_render, Option.map_some, graph_ofGraph_run]

/-- A text is read exactly when it is a written graph, and as its drawing. What
stands outside of the strings does not depend on any id, name or key preview.
The graph of a hierarchy can be decoded from its written form, so that graphs
that are written the same are the same. -/
theorem render_faithful :
    (∀ text d, read text = some d ↔ ∃ g, render g = text ∧ .ofGraph g = d) ∧
      (∀ g, read (render g) = some (.ofGraph g)) ∧
      (∀ g, outline (render g) = outline (render g.nameless)) ∧
      (∀ steps, decode (render (run steps).graph) = some (run steps).graph) ∧
      ∀ steps steps', render (run steps).graph = render (run steps').graph ↔
        (run steps).graph = (run steps').graph := by
  refine ⟨fun text d => read_eq_some_iff, read_render, outline_render, decode_render_run, ?_⟩
  refine fun steps steps' => ⟨fun h => ?_, congrArg render⟩
  have hd := congrArg decode h
  rwa [decode_render_run, decode_render_run, Option.some.injEq] at hd

end SecretAccess.Dot
