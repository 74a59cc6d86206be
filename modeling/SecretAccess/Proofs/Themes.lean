import SecretAccess.Proofs.Alignment
import SecretAccess.Proofs.Tree.Decoration

/-!
# The theme only decorates

In either theme the drawing and the tables of a hierarchy say the same, and the
columns of the tables begin in the same places. Only control characters in
names or keys could pass for decoration. The attribution of an access record
is its text, whatever its groups are called.
-/

namespace SecretAccess

open Display
open Text (StyledAs Printable)

/-- What the rich theme prints of the hierarchy is what the plain theme prints,
with decoration. -/
structure Hierarchy.OnlyDecorated (h : Hierarchy) : Prop where
  tree : AccessTree.undecorate (AccessTree.render .rich h.view) =
    some (AccessTree.render .plain h.view)
  matrixColumns : (Matrix.table .rich h.matrix).widths = (Matrix.table .plain h.matrix).widths
  matrix : Table.undecorate (Matrix.render .rich h.matrix) = Matrix.render .plain h.matrix
  keyColumns : (Keys.table .rich h.keyListing).widths = (Keys.table .plain h.keyListing).widths
  keys : Table.undecorate (Keys.render .rich h.keyListing) = Keys.render .plain h.keyListing

/-- Both themes print the text of the record. Its styling is found again where
the names of its groups hold nothing like it. -/
structure AccessRecord.OnlyDecorated (r : AccessRecord) : Prop where
  plain : attribution .plain r = r.text
  styled : StyledAs (attribution .rich r) r.text
  stripped : (∀ g ∈ r.via.toList, Printable g) → Text.Ansi.strip (attribution .rich r) = r.text

namespace Hierarchy

/-- The principals whose keys are listed are those that are viewed. -/
theorem clean_keyListing {h : Hierarchy} (hc : h.view.Clean) : Keys.Clean h.keyListing where
  names := List.forall_mem_map.mpr fun _ hp =>
    hc.principals _ (mem_principals_view.mpr ⟨_, hp, rfl⟩)
  keys := List.forall_mem_map.mpr fun _ hp => hc.keys _ (mem_principals_view.mpr ⟨_, hp, rfl⟩)

/-- Decoration apart, the themes agree on every hierarchy without control
characters, and on every access record. -/
theorem theme_only_decorates :
    (∀ steps, (run steps).view.Clean → (run steps).OnlyDecorated) ∧
      ∀ r : AccessRecord, r.OnlyDecorated := by
  refine ⟨fun steps hc => ?_, fun r => ?_⟩
  · -- what is shown beside an entity is itself shown, so it is clean as well
    have hv : (run steps).view.Closed := closed_view steps
    have hrows : ∀ r ∈ (run steps).matrix.rows, r.Clean := fun _ hr => hc.grantRow hv hr
    have hkeys : Keys.Clean (run steps).keyListing := clean_keyListing hc
    exact {
      tree := AccessTree.undecorate_render hv hc
      matrixColumns := Table.widths_eq (Matrix.table_matches hrows)
      matrix := Matrix.undecorate_render hrows
      keyColumns := Table.widths_eq (Keys.table_matches hkeys)
      keys := Keys.undecorate_render hkeys }
  · exact {
      plain := attribution_plain r
      styled := styledAs_attribution .rich r
      stripped := fun h => (shownAs_attribution h).strip }

/-- Names and keys that look like icons and like the ends of codes. -/
def iconic : List Step :=
  [.register ⟨.user, "👤 ana"⟩ ["[0m", "🔑 "],
    .register ⟨.machine, "🖥️  "⟩ [],
    .addMember "👥 [1mops" ⟨.user, "👤 ana"⟩,
    .grantViaGroup "🔓 db" "👥 [1mops",
    .grantDirect "🔓 db" ⟨.user, "👤 ana"⟩,
    .grantDirect "" ⟨.machine, "🖥️  "⟩]

theorem iconic_only_decorated :
    (run iconic).view.Clean ∧ (run iconic).OnlyDecorated ∧
      Text.Ansi.strip (attribution .rich ⟨true, .singleton "👥 [1mops"⟩) =
        "direct + via 👥 [1mops" := by
  have hc : (run iconic).view.Clean := by
    constructor <;> decide +kernel
  have hr : ∀ g ∈ (SortedSet.singleton "👥 [1mops").toList, Printable g := by decide
  refine ⟨hc, theme_only_decorates.1 iconic hc, ?_⟩
  exact (theme_only_decorates.2 ⟨true, .singleton "👥 [1mops"⟩).stripped hr

end Hierarchy

end SecretAccess
