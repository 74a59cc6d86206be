import SecretAccess.Display.Keys
import SecretAccess.Display.Matrix
import SecretAccess.Proofs.Decoration

/-!
# Tables keep their columns

Columns are measured by what a terminal shows, so styled cells make columns of
the same width, and are filled up with as much space. Only the end of a line can
differ: there a plain cell loses its space and a styled one keeps it in front of
its last code. Without codes, and without white space at the end of lines, the
two themes print the same table (`undecorate_titled`).
-/

namespace SecretAccess

open Text (ShownAs Printable columns isBlank trimEnd)

namespace Text

variable {cs bs : List Char}

theorem trimEnd_append_blanks (hb : ∀ b ∈ bs, isBlank b) : trimEnd (cs ++ bs) = trimEnd cs := by
  rw [trimEnd, trimEnd, List.reverse_append, List.dropWhile_append_of_pos]
  exact fun b h => hb b (List.mem_reverse.mp h)

theorem exists_blanks (cs : List Char) : ∃ bs, (∀ b ∈ bs, isBlank b) ∧ cs = trimEnd cs ++ bs := by
  refine ⟨(cs.reverse.takeWhile isBlank).reverse, fun b hb => ?_, ?_⟩
  · exact List.all_eq_true.mp List.all_takeWhile b (List.mem_reverse.mp hb)
  · rw [trimEnd, ← List.reverse_append, List.takeWhile_append_dropWhile, List.reverse_reverse]

theorem trimEnd_replicate {c : Char} (hc : isBlank c = false) (n : Nat) :
    trimEnd (List.replicate n c) = List.replicate n c := by
  rw [trimEnd, List.reverse_replicate]
  cases n with
  | zero => rfl
  | succ n => simp [List.replicate_succ, hc, ← List.replicate_succ']

/-- White space at the end is trimmed before or behind the codes with one result. -/
theorem exists_blanks_strip (cs : List Char) : ∃ bs, (∀ b ∈ bs, isBlank b) ∧
    Ansi.stripFrom 0 cs = Ansi.stripFrom 0 (trimEnd cs) ++ bs := by
  obtain ⟨bs, hb, hcs⟩ := exists_blanks cs
  refine ⟨bs, hb, ?_⟩
  rw [← Ansi.stripFrom_append_blanks hb, ← hcs]

end Text

namespace Display

/-- A cell of one list is shown as that of the other in the same place. -/
abbrev CellsShownAs : List String → List String → Prop := List.Forall₂ ShownAs

namespace Table

variable {t u : Table} {cells cells' : List String} {width : Nat} {widths : List Nat}

/-- The tables have the same cells once styling is taken out. -/
structure Matches (t u : Table) : Prop where
  headers : CellsShownAs t.headers u.headers
  rows : List.Forall₂ CellsShownAs t.rows u.rows

-- ---------------------------------------------------------------------------
-- Widths
-- ---------------------------------------------------------------------------

theorem columns_eq {s p : String} (h : ShownAs s p) : columns s = columns p := by
  rw [columns, columns, h.strip, (ShownAs.refl h.printable).strip]

theorem map_columns_eq (h : CellsShownAs cells cells') :
    cells.map columns = cells'.map columns := by
  induction h with
  | nil => rfl
  | cons hc _ ih => rw [List.map_cons, List.map_cons, columns_eq hc, ih]

theorem widen_eq (widths : List Nat) (h : CellsShownAs cells cells') :
    widen widths cells = widen widths cells' := by
  induction h generalizing widths with
  | nil => rfl
  | cons hc _ ih =>
    cases widths with
    | nil => rfl
    | cons width widths => rw [widen, widen, columns_eq hc, ih]

theorem widths_eq (h : t.Matches u) : t.widths = u.widths := by
  have hrows : ∀ {rows rows'}, List.Forall₂ CellsShownAs rows rows' → ∀ widths,
      rows.foldl widen widths = rows'.foldl widen widths := by
    intro rows rows' hr
    induction hr with
    | nil => exact fun _ => rfl
    | cons hc _ ih =>
      intro widths
      rw [List.foldl_cons, List.foldl_cons, widen_eq widths hc, ih]
  rw [Table.widths, Table.widths, map_columns_eq h.headers, hrows h.rows]

-- ---------------------------------------------------------------------------
-- Lines
-- ---------------------------------------------------------------------------

theorem shownAs_pad {s p : String} (width : Nat) (h : ShownAs s p) :
    ShownAs (pad width s) (pad width p) := by
  have hspace : ∀ n, Printable (String.ofList (List.replicate n ' ')) := by
    intro n c hc
    rw [String.toList_ofList] at hc
    rw [List.eq_of_mem_replicate hc]
    decide
  rw [pad, pad, columns_eq h]
  exact h.append (.refl (hspace _))

theorem shownAs_padCells (widths : List Nat) (h : CellsShownAs cells cells') :
    CellsShownAs (padCells widths cells) (padCells widths cells') := by
  have hempty : ShownAs "" "" := .refl (by decide)
  induction widths generalizing cells cells' with
  | nil => exact .nil
  | cons width widths ih =>
    cases h with
    | nil => exact .cons (shownAs_pad width hempty) (ih .nil)
    | cons hc h => exact .cons (shownAs_pad width hc) (ih h)

/-- A line that reads as another once its codes and the white space at its end
are taken away. -/
structure LineShownAs (s p : String) : Prop where
  trimmed : trimEnd (Text.Ansi.strip s).toList = p.toList
  oneLine : '\n' ∉ (Text.Ansi.strip s).toList

theorem lineShownAs_line (widths : List Nat) (h : CellsShownAs cells cells') :
    LineShownAs (line widths cells) (line widths cells') := by
  have hp : ShownAs (gap.intercalate (padCells widths cells))
      (gap.intercalate (padCells widths cells')) :=
    .intercalate (by decide) (shownAs_padCells widths h)
  have hfull : Text.Ansi.stripFrom 0 (gap.intercalate (padCells widths cells)).toList =
      (gap.intercalate (padCells widths cells')).toList := by
    rw [← hp.strip, Text.Ansi.strip_eq, String.toList_ofList]
  have hline : (Text.Ansi.strip (line widths cells)).toList =
      Text.Ansi.stripFrom 0 (trimEnd (gap.intercalate (padCells widths cells)).toList) := by
    rw [Text.Ansi.strip_eq, String.toList_ofList, line, String.toList_ofList]
  -- the line lacks some white space of the padded one, so its stripped text does too
  obtain ⟨bs, hb, hs⟩ := Text.exists_blanks_strip (gap.intercalate (padCells widths cells)).toList
  rw [hfull, ← hline] at hs
  refine ⟨?_, fun hn => hp.printable.newline_notMem ?_⟩
  · have hplain : (line widths cells').toList =
        trimEnd (gap.intercalate (padCells widths cells')).toList := by
      rw [line, String.toList_ofList]
    rw [hplain, hs, Text.trimEnd_append_blanks hb]
  · rw [hs]
    exact List.mem_append_left _ hn

theorem lineShownAs_rule (widths : List Nat) : LineShownAs (rule widths) (rule widths) := by
  have hp : Printable (rule widths) := by
    intro c hc
    rw [rule, String.toList_ofList] at hc
    rw [List.eq_of_mem_replicate hc]
    decide
  have hs : Text.Ansi.strip (rule widths) = rule widths := (ShownAs.refl hp).strip
  refine ⟨?_, ?_⟩
  · rw [hs, rule, String.toList_ofList, Text.trimEnd_replicate (by decide)]
  · rw [hs]
    exact hp.newline_notMem

theorem lines_shownAs (h : t.Matches u) : List.Forall₂ LineShownAs t.lines u.lines := by
  have hrows : List.Forall₂ LineShownAs (t.rows.map (line t.widths)) (u.rows.map (line t.widths)) :=
    List.forall₂_map_left_iff.mpr (List.forall₂_map_right_iff.mpr
      (h.rows.imp fun _ _ hc => lineShownAs_line t.widths hc))
  simp only [lines, ← widths_eq h, List.cons_append]
  refine .cons (lineShownAs_line _ h.headers) (.cons (lineShownAs_rule _) ?_)
  exact List.rel_append hrows (.cons (lineShownAs_rule _) .nil)

-- ---------------------------------------------------------------------------
-- Tables with a title
-- ---------------------------------------------------------------------------

/-- Takes out the codes, the icon in front of the title and the white space at
the end of lines. -/
def undecorate (text : String) : String :=
  match Tree.linesOf (Text.Ansi.strip text) with
  | [] => ""
  | title :: lines => String.join ((dropIcon (String.ofList title) ::
      lines.map fun line => String.ofList (trimEnd line)).map (· ++ "\n"))

theorem oneLine_of_shownAs {l m : List String} (h : List.Forall₂ LineShownAs l m) :
    ∀ line ∈ l.map Text.Ansi.strip, '\n' ∉ line.toList := by
  induction h with
  | nil => simp
  | cons hl _ ih => exact List.forall_mem_cons.mpr ⟨hl.oneLine, ih⟩

theorem trimmed_of_shownAs {l m : List String} (h : List.Forall₂ LineShownAs l m) :
    (l.map Text.Ansi.strip).map (fun line => String.ofList (trimEnd line.toList)) = m := by
  induction h with
  | nil => rfl
  | cons hl _ ih =>
    rw [List.map_cons, List.map_cons, ih, hl.trimmed, String.ofList_toList]

/-- The table of the rich theme is that of the plain one with decoration. -/
theorem undecorate_titled {picture title : String} (hp : picture ∈ pictures)
    (ht : Printable title) (h : t.Matches u) :
    undecorate (Theme.rich.icon picture ++ Theme.rich.paint .title title ++ "\n" ++ t.render) =
      title ++ "\n" ++ u.render := by
  have htitle : ShownAs (Theme.rich.icon picture ++ Theme.rich.paint .title title)
      (Theme.rich.icon picture ++ title) := (shownAs_icon hp).append (Theme.shownAs_paint ht)
  have hlines := lines_shownAs h
  -- the text as a list of lines, the title first
  have htext : Theme.rich.icon picture ++ Theme.rich.paint .title title ++ "\n" ++ t.render =
      String.join (((Theme.rich.icon picture ++ Theme.rich.paint .title title) ::
        t.lines).map (· ++ "\n")) := by
    rw [List.map_cons, String.join_cons, render]
  have hsplit : Tree.linesOf (Text.Ansi.strip (String.join
      (((Theme.rich.icon picture ++ Theme.rich.paint .title title) :: t.lines).map (· ++ "\n")))) =
        (Theme.rich.icon picture ++ title).toList ::
          (t.lines.map Text.Ansi.strip).map String.toList := by
    have hm : ((Theme.rich.icon picture ++ Theme.rich.paint .title title) :: t.lines).map
        (fun line => Text.Ansi.strip line ++ "\n") =
          ((Theme.rich.icon picture ++ title) :: t.lines.map Text.Ansi.strip).map (· ++ "\n") := by
      simp [htitle.strip, Function.comp_def]
    rw [Text.Ansi.strip_lines, hm, Tree.linesOf_join]
    · rfl
    · exact List.forall_mem_cons.mpr ⟨htitle.printable.newline_notMem, oneLine_of_shownAs hlines⟩
  have hm : ((t.lines.map Text.Ansi.strip).map String.toList).map
      (fun line => String.ofList (trimEnd line)) = u.lines := by
    rw [List.map_map]
    exact trimmed_of_shownAs hlines
  rw [htext, undecorate, hsplit]
  simp only [hm, String.ofList_toList, dropIcon_icon hp]
  rw [List.map_cons, String.join_cons, render]

end Table

-- ---------------------------------------------------------------------------
-- Both tables
-- ---------------------------------------------------------------------------

theorem cellsShownAs_self {cells : List String} (h : ∀ cell ∈ cells, Printable cell) :
    CellsShownAs cells cells :=
  List.forall₂_same.mpr fun cell hc => .refl (h cell hc)

namespace Matrix

theorem shownAs_cell {role : Role} {names : List String} (h : ∀ name ∈ names, Printable name) :
    ShownAs (cell .rich role names) (cell .plain role names) := by
  cases names with
  | nil =>
    have hd : Printable "-" := by decide
    exact .refl hd
  | cons name names =>
    have hl : ShownAs (Theme.rich.list role (name :: names)) (", ".intercalate (name :: names)) :=
      Theme.shownAs_list h
    rwa [← Theme.list_plain role] at hl

theorem cellsShownAs_row {r : GrantRow} (hr : r.Clean) :
    CellsShownAs (row .rich r) (row .plain r) :=
  .cons (Theme.shownAs_paint hr.secret) (.cons (shownAs_cell hr.users)
    (.cons (shownAs_cell hr.machines) (.cons (shownAs_cell hr.groups) .nil)))

theorem table_matches {m : MatrixView} (h : ∀ r ∈ m.rows, r.Clean) :
    (table .rich m).Matches (table .plain m) := by
  have hheaders : ∀ cell ∈ ["Secret", "Users", "Machines", "Groups"], Printable cell := by decide
  exact ⟨cellsShownAs_self hheaders, List.forall₂_map_left_iff.mpr (List.forall₂_map_right_iff.mpr
    (List.forall₂_same.mpr fun r hr => cellsShownAs_row (h r hr)))⟩

theorem undecorate_render {m : MatrixView} (h : ∀ r ∈ m.rows, r.Clean) :
    Table.undecorate (render .rich m) = render .plain m := by
  have ht : Printable "Secret Access Matrix" := by decide
  exact Table.undecorate_titled (by decide) ht (table_matches h)

end Matrix

namespace Keys

/-- No control character stands in the names and keys that are listed. -/
structure Clean (l : KeyListing) : Prop where
  names : ∀ e ∈ l.entries, Printable e.id.name
  keys : ∀ e ∈ l.entries, ∀ key ∈ e.keys, Printable key

theorem rows_matches {e : KeyEntry} (hn : Printable e.id.name)
    (hk : ∀ key ∈ e.keys, Printable key) :
    List.Forall₂ CellsShownAs (rows .rich e) (rows .plain e) := by
  have hempty : ShownAs "" "" := .refl (by decide)
  have hlabel : Printable e.id.kind.label := by cases e.id.kind <;> decide
  unfold rows
  cases hkeys : e.keys with
  | nil => exact .nil
  | cons key keys =>
    rw [hkeys] at hk
    obtain ⟨hk, hks⟩ := List.forall_mem_cons.mp hk
    refine .cons (.cons (Theme.shownAs_paint hn) (.cons (.refl hlabel)
      (.cons (Theme.shownAs_paint hk) .nil))) ?_
    refine List.forall₂_map_left_iff.mpr (List.forall₂_map_right_iff.mpr
      (List.forall₂_same.mpr fun key hk => ?_))
    exact .cons hempty (.cons hempty (.cons (Theme.shownAs_paint (hks key hk)) .nil))

theorem table_matches {l : KeyListing} (h : Clean l) :
    (table .rich l).Matches (table .plain l) := by
  have hheaders : ∀ cell ∈ ["Entity", "Type", "Public Key"], Printable cell := by decide
  have hentries : List.Forall₂ (fun e e' => List.Forall₂ CellsShownAs (rows .rich e)
      (rows .plain e')) l.withKeys l.withKeys :=
    List.forall₂_same.mpr fun e he =>
      have he : e ∈ l.entries := List.mem_of_mem_filter he
      rows_matches (h.names e he) (h.keys e he)
  exact ⟨cellsShownAs_self hheaders, List.rel_flatMap hentries fun _ _ hr => hr⟩

theorem undecorate_render {l : KeyListing} (h : Clean l) :
    Table.undecorate (render .rich l) = render .plain l := by
  have ht : Printable "Public Keys" := by decide
  exact Table.undecorate_titled (by decide) ht (table_matches h)

end Keys

end Display

end SecretAccess
