import Mathlib.Data.List.Fold
import Mathlib.Data.List.GetD
import Mathlib.Data.List.MinMax
import Mathlib.Data.List.TakeDrop
import SecretAccess.Proofs.Table.Grid
import SecretAccess.Proofs.Tree.Reader

/-!
# Tables are aligned and lose nothing

Every column of a table begins in the same place on all lines, as far to the
right as the widest cells of the columns before it reach. Cut at these places,
a line gives back the cells of its row: what is missing as empty, and nothing
of what is left over. This holds of all text whose characters are drawn one by
one, however wide they are (`layout_exact`).
-/

namespace SecretAccess.Display.Table

open Text

-- ---------------------------------------------------------------------------
-- Columns
-- ---------------------------------------------------------------------------

/-- What the lines of a table have in one column. -/
def column (t : Table) (i : Nat) : List String := (t.headers :: t.rows).map (·.getD i "")

def columnWidth (t : Table) (i : Nat) : Nat := ((t.column i).map columns).foldr max 0

/-- A column begins behind all columns before it, each with its gap. -/
def start (t : Table) (i : Nat) : Nat := ((List.range i).map (t.columnWidth · + 2)).sum

def starts (t : Table) : List Nat := (List.range t.headers.length).map t.start

def totalWidth (t : Table) : Nat :=
  ((List.range t.headers.length).map t.columnWidth).sum + 2 * (t.headers.length - 1)

/-- The cells that a row shows: as many as there are headers. -/
def fit (t : Table) (cells : List String) : List String := cells.takeD t.headers.length ""

def fitted (t : Table) : Table := ⟨t.headers, t.rows.map t.fit⟩

/-- All text that is shown can be laid out. -/
def Regular (t : Table) : Prop :=
  ∀ cells ∈ t.headers :: t.rows, ∀ cell ∈ t.fit cells, Text.Regular cell

instance (t : Table) : Decidable t.Regular := List.decidableBAll _ _

variable {t : Table} {cells : List String}

theorem getElem?_widen (widths : List Nat) (cells : List String) (i : Nat) :
    (widen widths cells)[i]? =
      widths[i]?.map fun width => max width (columns (cells.getD i "")) := by
  have he : columns "" = 0 := by decide
  induction widths generalizing cells i with
  | nil => simp [widen]
  | cons width widths ih =>
    cases cells with
    | nil => simp [widen, he]
    | cons cell cells =>
      cases i with
      | zero => simp [widen]
      | succ i => simpa [widen] using ih cells i

theorem getElem?_foldl_widen (rows : List (List String)) (widths : List Nat) (i : Nat) :
    (rows.foldl widen widths)[i]? = widths[i]?.map fun width =>
      (rows.map fun cells => columns (cells.getD i "")).foldl max width := by
  induction rows generalizing widths with
  | nil => simp
  | cons cells rows ih =>
    rw [List.foldl_cons, ih, getElem?_widen, Option.map_map]
    rfl

theorem columnWidth_eq_foldl {i : Nat} (hi : i < t.headers.length) :
    t.columnWidth i =
      (t.rows.map fun cells => columns (cells.getD i "")).foldl max (columns t.headers[i]) := by
  rw [columnWidth, column, List.map_map, Function.comp_def, ← List.foldl_eq_foldr, List.map_cons,
    List.foldl_cons, Nat.zero_max, List.getD_eq_getElem _ _ hi]

/-- Each column is as wide as its widest cell. -/
theorem widths_eq_map (t : Table) :
    t.widths = (List.range t.headers.length).map t.columnWidth := by
  -- position by position, since the widths of all columns are widened at once
  refine List.ext_getElem? fun i => ?_
  rw [widths, getElem?_foldl_widen, List.getElem?_map, List.getElem?_map, Option.map_map]
  by_cases hi : i < t.headers.length
  · rw [List.getElem?_range hi, List.getElem?_eq_getElem hi, Option.map_some, Option.map_some,
      columnWidth_eq_foldl hi]
    rfl
  · simp [hi]

theorem positions_concat (column width : Nat) (widths : List Nat) :
    positions column (widths ++ [width]) =
      positions column widths ++ [column + (widths.map (· + 2)).sum] := by
  induction widths generalizing column with
  | nil => rfl
  | cons first widths ih =>
    rw [List.cons_append, positions, ih, List.map_cons, List.sum_cons, Nat.add_assoc]
    rfl

theorem positions_map_range (width : Nat → Nat) (n : Nat) :
    positions 0 ((List.range n).map width) =
      (List.range n).map fun i => ((List.range i).map (width · + 2)).sum := by
  induction n with
  | zero => rfl
  | succ n ih =>
    rw [List.range_succ, List.map_append, List.map_append, List.map_singleton,
      positions_concat, ih, List.map_map, Nat.zero_add]
    rfl

theorem positions_widths (t : Table) : positions 0 t.widths = t.starts := by
  rw [widths_eq_map, positions_map_range]
  rfl

@[simp] theorem length_widths (t : Table) : t.widths.length = t.headers.length := by
  rw [widths_eq_map, List.length_map, List.length_range]

theorem ruleLength_widths (t : Table) : ruleLength t.widths = t.totalWidth := by
  rw [ruleLength, length_widths, widths_eq_map]
  rfl

theorem takeD_eq_map (n : Nat) (cells : List String) :
    cells.takeD n "" = (List.range n).map (cells.getD · "") := by
  induction n generalizing cells with
  | zero => rfl
  | succ n ih => cases cells <;> simp [List.takeD, List.range_succ_eq_map, ih, Function.comp_def]

theorem fit_eq_self (h : cells.length = t.headers.length) : t.fit cells = cells := by
  rw [fit, ← h, List.takeD_eq_take _ (Nat.le_refl _), List.take_length]

/-- What is missing is empty, and the empty cell can be laid out. -/
theorem regular_of_cells (h : ∀ cells ∈ t.headers :: t.rows, ∀ cell ∈ cells, Text.Regular cell) :
    t.Regular := by
  have hempty : Text.Regular "" := by decide
  intro cells hc cell hm
  rw [fit, takeD_eq_map] at hm
  obtain ⟨i, -, rfl⟩ := List.mem_map.mp hm
  by_cases hi : i < cells.length
  · rw [List.getD_eq_getElem _ _ hi]
    exact h cells hc _ (List.getElem_mem hi)
  · rw [List.getD_eq_default _ _ (Nat.le_of_not_lt hi)]
    exact hempty

theorem fitsIn_fit (ht : t.Regular) (hc : cells ∈ t.headers :: t.rows) :
    List.Forall₂ FitsIn t.widths (t.fit cells) := by
  have hr := ht cells hc
  rw [fit, takeD_eq_map] at hr ⊢
  rw [widths_eq_map]
  refine List.forall₂_map_left_iff.mpr (List.forall₂_map_right_iff.mpr
    (List.forall₂_same.mpr fun i hi => ⟨hr _ (List.mem_map_of_mem hi), ?_⟩))
  have hm : columns (cells.getD i "") ∈ (t.column i).map columns :=
    List.mem_map_of_mem (List.mem_map_of_mem hc)
  exact List.le_max_of_le' 0 hm (Nat.le_refl _)

-- ---------------------------------------------------------------------------
-- Lines
-- ---------------------------------------------------------------------------

/-- The cell stands in the line behind text that takes the columns up to `start`,
measured as a whole as well as character by character. What is empty stands nowhere. -/
def StandsAt (line : List Char) (start : Nat) (cell : String) : Prop :=
  cell ≠ "" → ∃ front back, line = front ++ (cell.toList ++ back) ∧
    columns (String.ofList front) = start ∧ sumColumns front = start

/-- Every cell begins in its column, and all are got back by cutting the line there. -/
structure Shows (t : Table) (cells : List String) (line : List Char) : Prop where
  placed : List.Forall₂ (StandsAt line) t.starts (t.fit cells)
  cut : cutCells t.starts line = t.fit cells

def ruleLine (t : Table) : List Char := List.replicate t.totalWidth '─'

/-- A header, the rule below it, the rows, and a rule that closes the table. -/
structure LaidOut (t : Table) : Prop where
  lines : ∃ header rows, Tree.linesOf t.render = header :: t.ruleLine :: rows ++ [t.ruleLine] ∧
    t.Shows t.headers header ∧ List.Forall₂ t.Shows t.rows rows
  count : (Tree.linesOf t.render).length = t.rows.length + 3
  rule : columns (String.ofList t.ruleLine) = t.totalWidth
  width : ∀ line ∈ Tree.linesOf t.render, columns (String.ofList line) ≤ t.totalWidth

def lineOf (t : Table) (cells : List String) : List Char := trimEnd (body t.widths (t.fit cells))

theorem toList_lineOf (t : Table) (cells : List String) :
    (line t.widths cells).toList = t.lineOf cells := by
  rw [toList_line, length_widths, lineOf, fit]

theorem toList_rule (t : Table) : (rule t.widths).toList = t.ruleLine := by
  rw [rule, String.toList_ofList, ruleLength_widths, ruleLine]

theorem columns_ofList {cs : List Char} (h : ∀ c ∈ cs, isControl c = false) :
    columns (String.ofList cs) = Columns.ofChars cs := by
  have hp : Printable (String.ofList cs) := by
    rw [Printable, String.toList_ofList]
    exact h
  rw [columns_eq_ofChars hp, String.toList_ofList]

theorem isControl_lineOf (ht : t.Regular) (hc : cells ∈ t.headers :: t.rows) :
    ∀ c ∈ t.lineOf cells, isControl c = false :=
  isControl_body (fitsIn_fit ht hc)

theorem shows_lineOf (ht : t.Regular) (hc : cells ∈ t.headers :: t.rows) :
    t.Shows cells (t.lineOf cells) where
  placed := by
    rw [← positions_widths]
    refine (front_body (fitsIn_fit ht hc)).imp fun start cell hs hne => ?_
    obtain ⟨front, back, hl, hsum, ha⟩ := hs hne
    have hsum : sumColumns front = start := by rw [← hsum, Nat.zero_add]
    have hp : ∀ c ∈ front, isControl c = false := by
      intro c hm
      refine isControl_lineOf ht hc c ?_
      rw [lineOf, hl]
      exact List.mem_append_left _ hm
    exact ⟨front, back, hl, by rw [columns_ofList hp, ha, hsum], hsum⟩
  cut := by
    rw [← positions_widths]
    exact cutCells_body (fitsIn_fit ht hc)

theorem columns_lineOf_le (ht : t.Regular) (hc : cells ∈ t.headers :: t.rows) :
    columns (String.ofList (t.lineOf cells)) ≤ t.totalWidth := by
  have hf := fitsIn_fit ht hc
  rw [columns_ofList (isControl_lineOf ht hc), lineOf, additive_body hf, totalWidth,
    ← widths_eq_map, ← length_widths]
  exact sumColumns_body_le hf

theorem isControl_ruleLine (t : Table) : ∀ c ∈ t.ruleLine, isControl c = false := by
  intro c hm
  rw [List.eq_of_mem_replicate hm]
  decide

theorem measure_rule (n : Nat) : Columns.measure (List.replicate n '─') = ((n : Int), .plain) := by
  have hs : Columns.step '─' .plain = (1, .plain) := by decide +kernel
  induction n with
  | zero => rfl
  | succ n ih =>
    rw [List.replicate_succ, Columns.measure_cons, ih, hs]
    rfl

theorem columns_ruleLine (t : Table) : columns (String.ofList t.ruleLine) = t.totalWidth := by
  rw [columns_ofList t.isControl_ruleLine, Columns.ofChars, ruleLine, measure_rule,
    Int.toNat_natCast]

theorem newline_notMem {cs : List Char} (h : ∀ c ∈ cs, isControl c = false) : '\n' ∉ cs := by
  intro hm
  have hn : isControl '\n' := by decide
  exact absurd (h _ hm) (by simp [hn])

/-- The lines of a table, read off its text. -/
theorem linesOf_render (ht : t.Regular) :
    Tree.linesOf t.render =
      t.lineOf t.headers :: t.ruleLine :: t.rows.map t.lineOf ++ [t.ruleLine] := by
  have hlines : t.lines.map (·.toList) =
      t.lineOf t.headers :: t.ruleLine :: t.rows.map t.lineOf ++ [t.ruleLine] := by
    simp [lines, toList_lineOf, toList_rule]
  have hone : ∀ l ∈ t.lines.map (·.toList), '\n' ∉ l := by
    intro l hl
    rw [hlines, List.cons_append, List.cons_append, List.mem_cons, List.mem_cons,
      List.mem_append, List.mem_singleton] at hl
    obtain rfl | rfl | hl | rfl := hl
    · exact newline_notMem (isControl_lineOf ht List.mem_cons_self)
    · exact newline_notMem t.isControl_ruleLine
    · obtain ⟨cells, hc, rfl⟩ := List.mem_map.mp hl
      exact newline_notMem (isControl_lineOf ht (List.mem_cons_of_mem _ hc))
    · exact newline_notMem t.isControl_ruleLine
  rw [render, Tree.linesOf_join (fun l hl => hone _ (List.mem_map_of_mem hl)), hlines]

theorem laidOut (ht : t.Regular) : t.LaidOut where
  lines := ⟨t.lineOf t.headers, t.rows.map t.lineOf, linesOf_render ht,
    shows_lineOf ht List.mem_cons_self, List.forall₂_map_right_iff.mpr
      (List.forall₂_same.mpr fun _ hc => shows_lineOf ht (List.mem_cons_of_mem _ hc))⟩
  count := by simp [linesOf_render ht]
  rule := t.columns_ruleLine
  width := by
    rw [linesOf_render ht, List.cons_append, List.cons_append, List.forall_mem_cons,
      List.forall_mem_cons, List.forall_mem_append, List.forall_mem_singleton, List.forall_mem_map]
    exact ⟨columns_lineOf_le ht List.mem_cons_self, t.columns_ruleLine.le,
      fun cells hc => columns_lineOf_le ht (List.mem_cons_of_mem _ hc), t.columns_ruleLine.le⟩

-- ---------------------------------------------------------------------------
-- Cells without a header
-- ---------------------------------------------------------------------------

theorem getD_fit {i : Nat} (hi : i < t.headers.length) (cells : List String) :
    (t.fit cells).getD i "" = cells.getD i "" := by
  simp [fit, takeD_eq_map, List.getD, hi]

theorem fit_fit (t : Table) (cells : List String) : t.fit (t.fit cells) = t.fit cells :=
  fit_eq_self (List.takeD_length _ _ _)

theorem columnWidth_fitted {i : Nat} (hi : i < t.headers.length) :
    t.fitted.columnWidth i = t.columnWidth i := by
  have hr : (t.rows.map t.fit).map (·.getD i "") = t.rows.map (·.getD i "") := by
    rw [List.map_map]
    exact List.map_congr_left fun cells _ => getD_fit hi cells
  have hc : t.fitted.column i = t.column i := congrArg (t.headers.getD i "" :: ·) hr
  rw [columnWidth, columnWidth, hc]

theorem widths_fitted (t : Table) : t.fitted.widths = t.widths := by
  rw [widths_eq_map, widths_eq_map]
  exact List.map_congr_left fun i hi => columnWidth_fitted (List.mem_range.mp hi)

theorem line_fit (t : Table) (cells : List String) :
    line t.widths (t.fit cells) = line t.widths cells := by
  rw [← String.toList_inj, toList_lineOf, toList_lineOf, lineOf, lineOf, fit_fit]

/-- What has no column leaves no trace. -/
theorem render_fitted (t : Table) : t.fitted.render = t.render := by
  have hr : t.fitted.rows.map (line t.widths) = t.rows.map (line t.widths) := by
    rw [fitted, List.map_map]
    exact List.map_congr_left fun cells _ => line_fit t cells
  rw [render, render, lines, lines, widths_fitted, hr]
  rfl

/-- Whatever rows a table has, they are drawn in columns that lose nothing: cells
without a header are dropped as if they had never been there, and all others are
laid out and can be cut out again. -/
theorem layout_exact (t : Table) : t.fitted.render = t.render ∧ (t.Regular → t.LaidOut) :=
  ⟨t.render_fitted, laidOut⟩

/-- Wide and combining characters, spaces between words, and rows of all lengths. -/
def ragged : Table :=
  ⟨["名", "B"], [["x", "y  z", "left over"], ["日本"], [], ["e\u0301", ""]]⟩

theorem layout_exact_ragged : ragged.Regular ∧ ragged.starts = [0, 6] ∧ ragged.LaidOut :=
  have ht : ragged.Regular := by decide +kernel
  ⟨ht, by decide +kernel, (layout_exact ragged).2 ht⟩

end SecretAccess.Display.Table
