import SecretAccess.Display.Keys
import SecretAccess.Display.Matrix
import SecretAccess.Dot
import SecretAccess.Json.Printer
import SecretAccess.Report

/-!
# What a reader is shown

Hierarchies look alike when all that is shown of them is the same: the views,
the text of every report and the text of every drawing. Reports and drawings
are made from views, so it is enough to compare four of these.
-/

namespace SecretAccess.Hierarchy

open Display

structure LookAlike (h k : Hierarchy) : Prop where
  view : h.view = k.view
  matrix : h.matrix = k.matrix
  keys : h.keyListing = k.keyListing
  graph : h.graph = k.graph
  summary : h.summary = k.summary
  report : ∀ chosen withSummary, (Report.build h chosen withSummary).toJson.pretty =
    (Report.build k chosen withSummary).toJson.pretty
  treeText : ∀ t, AccessTree.render t h.view = AccessTree.render t k.view
  matrixText : ∀ t, Matrix.render t h.matrix = Matrix.render t k.matrix
  keyText : ∀ t, Keys.render t h.keyListing = Keys.render t k.keyListing
  graphText : Dot.render h.graph = Dot.render k.graph

/-- The matrix is a part of the hierarchy view. -/
theorem matrix_eq_view_secrets (h : Hierarchy) : h.matrix = ⟨h.view.secrets⟩ := rfl

theorem LookAlike.of_views {h k : Hierarchy} (hview : h.view = k.view)
    (hkeys : h.keyListing = k.keyListing) (hgraph : h.graph = k.graph)
    (hsummary : h.summary = k.summary) : h.LookAlike k := by
  have hmatrix : h.matrix = k.matrix := by
    rw [matrix_eq_view_secrets, matrix_eq_view_secrets, hview]
  have hreport : ∀ chosen withSummary,
      Report.build h chosen withSummary = Report.build k chosen withSummary := by
    intro chosen withSummary
    simp only [Report.build, hview, hmatrix, hkeys, hgraph, hsummary]
  constructor
  case report => exact fun chosen withSummary => by rw [hreport]
  case treeText => exact fun t => by rw [hview]
  case matrixText => exact fun t => by rw [hmatrix]
  case keyText => exact fun t => by rw [hkeys]
  case graphText => rw [hgraph]
  all_goals assumption

end SecretAccess.Hierarchy
