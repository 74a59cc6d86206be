import SecretAccess.Proofs.Alignment
import SecretAccess.Proofs.Table.Measure

/-!
# Lines of a table

A line is made of cells, each filled up to its column's width and followed by
a gap, without the white space at its end. Cut where the columns begin, it
gives back its cells, which are drawn from there on and from nowhere else
(`cutCells_body`, `front_body`). The text of a cell is cut by the columns its
characters take, however wide these are.
-/

namespace SecretAccess.Display.Table

open Text

-- ---------------------------------------------------------------------------
-- Cutting a line
-- ---------------------------------------------------------------------------

/-- The characters of a text, each with the column it begins at. -/
def placedFrom (column : Nat) : List Char → List (Nat × Char)
  | [] => []
  | c :: cs => (column, c) :: placedFrom (column + charColumns c) cs

/-- The character begins at the start or behind it, and before all later starts. -/
def beginsIn (start : Nat) (later : List Nat) (p : Nat × Char) : Bool :=
  start ≤ p.1 && later.all (p.1 < ·)

/-- A piece for each start. -/
def pieces : List Nat → List (Nat × Char) → List (List Char)
  | [], _ => []
  | start :: starts, placed =>
    ((placed.filter (beginsIn start starts)).map (·.2)) :: pieces starts placed

/-- The pieces of a line without the white space behind them. -/
def cutCells (starts : List Nat) (line : List Char) : List String :=
  (pieces starts (placedFrom 0 line)).map fun piece => String.ofList (trimEnd piece)

variable {column : Nat} {starts : List Nat} {p : Nat × Char} {cs ds : List Char}

theorem placedFrom_append (column : Nat) (cs ds : List Char) :
    placedFrom column (cs ++ ds) =
      placedFrom column cs ++ placedFrom (column + sumColumns cs) ds := by
  induction cs generalizing column with
  | nil => rfl
  | cons c cs ih =>
    rw [List.cons_append, placedFrom, placedFrom, ih, sumColumns_cons, Nat.add_assoc,
      List.cons_append]

@[simp] theorem map_snd_placedFrom (column : Nat) (cs : List Char) :
    (placedFrom column cs).map (·.2) = cs := by
  induction cs generalizing column with
  | nil => rfl
  | cons c cs ih => rw [placedFrom, List.map_cons, ih]

theorem bounds_of_mem_placedFrom (h : p ∈ placedFrom column cs) :
    column ≤ p.1 ∧ p.1 ≤ column + sumColumns cs := by
  induction cs generalizing column with
  | nil => cases h
  | cons c cs ih =>
    rw [sumColumns_cons]
    rcases List.mem_cons.mp h with rfl | h
    · exact ⟨Nat.le_refl _, Nat.le_add_right _ _⟩
    · have hb := ih h
      omega

theorem pieces_append_blanks (starts : List Nat) (placed : List (Nat × Char))
    {blanks : List (Nat × Char)} (hb : ∀ p ∈ blanks, isBlank p.2) :
    (pieces starts (placed ++ blanks)).map trimEnd = (pieces starts placed).map trimEnd := by
  induction starts with
  | nil => rfl
  | cons start starts ih =>
    rw [pieces, pieces, List.map_cons, List.map_cons, ih, List.filter_append, List.map_append,
      trimEnd_append_blanks]
    intro b hb'
    obtain ⟨p, hp, rfl⟩ := List.mem_map.mp hb'
    exact hb p (List.mem_of_mem_filter hp)

/-- White space at the end of a line does not show in its cells. -/
theorem cutCells_trimEnd (starts : List Nat) (cs : List Char) :
    cutCells starts (trimEnd cs) = cutCells starts cs := by
  obtain ⟨bs, hb, hcs⟩ := exists_blanks cs
  have hblanks : ∀ p ∈ placedFrom (0 + sumColumns (trimEnd cs)) bs, isBlank p.2 := by
    intro p hp
    refine hb p.2 ?_
    rw [← map_snd_placedFrom (0 + sumColumns (trimEnd cs)) bs]
    exact List.mem_map_of_mem hp
  have hp : placedFrom 0 cs =
      placedFrom 0 (trimEnd cs) ++ placedFrom (0 + sumColumns (trimEnd cs)) bs := by
    rw [← placedFrom_append, ← hcs]
  have hm := congrArg (List.map String.ofList)
    (pieces_append_blanks starts (placedFrom 0 (trimEnd cs)) hblanks)
  rw [← hp, List.map_map, List.map_map] at hm
  exact hm.symm

-- ---------------------------------------------------------------------------
-- Cells side by side
-- ---------------------------------------------------------------------------

/-- A cell with the space that stands behind it when another column follows. -/
def segment (width : Nat) (cell : String) : List Char := (pad width cell).toList ++ [' ', ' ']

def body (widths : List Nat) (cells : List String) : List Char :=
  (List.zipWith segment widths cells).flatten

def positions (column : Nat) : List Nat → List Nat
  | [] => []
  | width :: widths => column :: positions (column + (width + 2)) widths

/-- The column has room for the cell. -/
structure FitsIn (width : Nat) (cell : String) : Prop where
  regular : Regular cell
  room : columns cell ≤ width

variable {width : Nat} {widths : List Nat} {cell : String} {cells : List String}

theorem segment_eq (width : Nat) (cell : String) :
    segment width cell =
      cell.toList ++ List.replicate (width - columns cell + 2) ' ' := by
  have hr : ∀ n, List.replicate n ' ' ++ [' ', ' '] = List.replicate (n + 2) ' ' := fun n =>
    (List.replicate_add n 2 ' ').symm
  rw [segment, pad, String.toList_append, String.toList_ofList, List.append_assoc, hr]

theorem sumColumns_segment (h : FitsIn width cell) :
    sumColumns (segment width cell) = width + 2 := by
  have hc := h.regular.columns
  have hr := h.room
  rw [segment_eq, sumColumns_append, sumColumns_replicate, charColumns_space]
  omega

/-- No character begins behind the space that closes its segment. -/
theorem lt_of_mem_placedFrom_segment (h : FitsIn width cell)
    (hp : p ∈ placedFrom column (segment width cell)) : p.1 < column + (width + 2) := by
  have hs := sumColumns_segment h
  have hl : segment width cell = ((pad width cell).toList ++ [' ']) ++ [' '] := by simp [segment]
  rw [hl] at hp hs
  rw [sumColumns_append] at hs
  rw [placedFrom_append, List.mem_append] at hp
  have hone : sumColumns [' '] = 1 := by simp
  rcases hp with hp | hp
  · have hb := (bounds_of_mem_placedFrom hp).2
    omega
  · have hb : p = (_, ' ') := List.mem_singleton.mp hp
    rw [hb]
    dsimp only
    omega

theorem le_of_mem_positions {start : Nat} (h : start ∈ positions column widths) :
    column ≤ start := by
  induction widths generalizing column with
  | nil => cases h
  | cons width widths ih =>
    rcases List.mem_cons.mp h with rfl | h
    · exact Nat.le_refl _
    · have hle := ih h
      omega

theorem filter_front {front : List (Nat × Char)} {start : Nat} (hf : ∀ p ∈ front, p.1 < start)
    (later : List Nat) : front.filter (beginsIn start later) = [] := by
  refine List.filter_eq_nil_iff.mpr fun p hp => ?_
  simp [beginsIn, Nat.not_le.mpr (hf p hp)]

theorem filter_segment (h : FitsIn width cell) (column : Nat) (widths : List Nat) :
    (placedFrom column (segment width cell)).filter
        (beginsIn column (positions (column + (width + 2)) widths)) =
      placedFrom column (segment width cell) := by
  refine List.filter_eq_self.mpr fun p hp => ?_
  have hle := (bounds_of_mem_placedFrom hp).1
  have hlt := lt_of_mem_placedFrom_segment h hp
  rw [beginsIn, Bool.and_eq_true, List.all_eq_true]
  exact ⟨decide_eq_true hle, fun start hs =>
    decide_eq_true (Nat.lt_of_lt_of_le hlt (le_of_mem_positions hs))⟩

/-- What follows a column begins in a later one. -/
theorem filter_body (h : List.Forall₂ FitsIn widths cells) (start column : Nat) :
    (placedFrom column (body widths cells)).filter
      (beginsIn start (positions column widths)) = [] := by
  refine List.filter_eq_nil_iff.mpr fun p hp => ?_
  cases h with
  | nil => cases hp
  | cons =>
    have hle := (bounds_of_mem_placedFrom hp).1
    simp [beginsIn, positions, Nat.not_lt.mpr hle]

/-- Cut where they begin, cells that stand side by side come apart, and what
stands in front of the first does not matter. -/
theorem pieces_body (h : List.Forall₂ FitsIn widths cells) (front : List (Nat × Char))
    (hf : ∀ p ∈ front, p.1 < column) :
    pieces (positions column widths) (front ++ placedFrom column (body widths cells)) =
      List.zipWith segment widths cells := by
  induction h generalizing column front with
  | nil => rfl
  | @cons width cell widths cells hc h ih =>
    have hbody : body (width :: widths) (cell :: cells) =
        segment width cell ++ body widths cells := rfl
    have hfront : ∀ p ∈ front ++ placedFrom column (segment width cell),
        p.1 < column + (width + 2) := by
      intro p hp
      rcases List.mem_append.mp hp with hp | hp
      · exact Nat.lt_add_right _ (hf p hp)
      · exact lt_of_mem_placedFrom_segment hc hp
    have hsplit : front ++ placedFrom column (segment width cell ++ body widths cells) =
        (front ++ placedFrom column (segment width cell)) ++
          placedFrom (column + (width + 2)) (body widths cells) := by
      rw [placedFrom_append, sumColumns_segment hc, List.append_assoc]
    -- of the three parts only the middle one begins in this column
    rw [hbody, hsplit, positions, pieces, ih _ hfront, List.filter_append, List.filter_append,
      filter_front hf, filter_segment hc, filter_body h, List.nil_append, List.append_nil,
      map_snd_placedFrom, List.zipWith_cons_cons]

theorem trimEnd_segment (h : FitsIn width cell) : trimEnd (segment width cell) = cell.toList := by
  rw [segment_eq, trimEnd_append_blanks, h.regular.trimEnd_toList]
  intro b hb
  rw [List.eq_of_mem_replicate hb]
  decide

/-- The cells of a row are got back from its line. -/
theorem cutCells_body (h : List.Forall₂ FitsIn widths cells) :
    cutCells (positions 0 widths) (trimEnd (body widths cells)) = cells := by
  have hp : pieces (positions 0 widths) (placedFrom 0 (body widths cells)) =
      List.zipWith segment widths cells := pieces_body h [] (by simp)
  rw [cutCells_trimEnd, cutCells, hp]
  clear hp
  induction h with
  | nil => rfl
  | cons hc _ ih =>
    rw [List.zipWith_cons_cons, List.map_cons, ih, trimEnd_segment hc, String.ofList_toList]

-- ---------------------------------------------------------------------------
-- Lines without the white space at their end
-- ---------------------------------------------------------------------------

theorem trimEnd_body_cons (h : FitsIn width cell) :
    trimEnd (body (width :: widths) (cell :: cells)) =
      if trimEnd (body widths cells) = [] then cell.toList
      else segment width cell ++ trimEnd (body widths cells) := by
  have hb : body (width :: widths) (cell :: cells) =
      segment width cell ++ body widths cells := rfl
  rw [hb, trimEnd_append, trimEnd_segment h]

theorem additive_segment_append {cs : List Char} (h : Regular cell) (hc : Additive cs) :
    Additive (segment width cell ++ cs) := by
  rw [segment_eq, List.append_assoc]
  exact h.additive.append_spaces hc _

/-- What stands in front of a cell takes the columns up to where its own begins. -/
theorem front_body (h : List.Forall₂ FitsIn widths cells) :
    List.Forall₂ (fun start cell => cell ≠ "" → ∃ front back,
      trimEnd (body widths cells) = front ++ (cell.toList ++ back) ∧
        column + sumColumns front = start ∧ Additive front) (positions column widths) cells := by
  induction h generalizing column with
  | nil => exact .nil
  | @cons width cell widths cells hc _ ih =>
    have ih := @ih (column + (width + 2))
    rw [trimEnd_body_cons hc]
    split
    case isTrue hnil =>
      refine .cons (fun _ => ⟨[], [], by simp, rfl, rfl⟩) (ih.imp fun start c hi hne => ?_)
      -- there is no room for a cell with text in a line without any
      obtain ⟨front, back, hl, -, -⟩ := hi hne
      rw [hnil] at hl
      simp [hne] at hl
    case isFalse =>
      refine .cons (fun _ => ⟨[], List.replicate (width - columns cell + 2) ' ' ++
        trimEnd (body widths cells), ?_, rfl, rfl⟩) (ih.imp fun start c hi hne => ?_)
      · rw [segment_eq, List.append_assoc, List.nil_append]
      · obtain ⟨front, back, hl, hs, ha⟩ := hi hne
        refine ⟨segment width cell ++ front, back, ?_, ?_, additive_segment_append hc.regular ha⟩
        · rw [hl, List.append_assoc]
        · rw [sumColumns_append, sumColumns_segment hc, ← Nat.add_assoc, hs]

theorem additive_body (h : List.Forall₂ FitsIn widths cells) :
    Additive (trimEnd (body widths cells)) := by
  induction h with
  | nil => rfl
  | cons hc _ ih =>
    rw [trimEnd_body_cons hc]
    split
    case isTrue => exact hc.regular.additive
    case isFalse => exact additive_segment_append hc.regular ih

theorem sumColumns_body_le (h : List.Forall₂ FitsIn widths cells) :
    sumColumns (trimEnd (body widths cells)) ≤ widths.sum + 2 * (widths.length - 1) := by
  induction h with
  | nil => exact Nat.le_refl _
  | @cons width cell widths cells hc h ih =>
    have hcell : sumColumns cell.toList ≤ width := hc.regular.columns ▸ hc.room
    rw [trimEnd_body_cons hc, List.sum_cons, List.length_cons]
    split
    case isTrue => omega
    case isFalse hne =>
      -- there are further columns, or nothing would stand behind the cell
      have hlen : widths.length ≠ 0 := by
        intro hz
        rw [List.eq_nil_of_length_eq_zero hz] at hne
        exact hne rfl
      rw [sumColumns_append, sumColumns_segment hc]
      omega

theorem isControl_body (h : List.Forall₂ FitsIn widths cells) :
    ∀ c ∈ trimEnd (body widths cells), isControl c = false := by
  induction h with
  | nil => exact fun c hc => nomatch hc
  | cons hc _ ih =>
    rw [trimEnd_body_cons hc]
    split
    case isTrue => exact hc.regular.printable
    case isFalse =>
      rw [segment_eq]
      intro c hm
      rcases List.mem_append.mp hm with hm | hm
      · rcases List.mem_append.mp hm with hm | hm
        · exact hc.regular.printable c hm
        · rw [List.eq_of_mem_replicate hm]
          decide
      · exact ih c hm

-- ---------------------------------------------------------------------------
-- The lines of a table
-- ---------------------------------------------------------------------------

theorem padCells_eq (widths : List Nat) (cells : List String) :
    padCells widths cells = List.zipWith pad widths (cells.takeD widths.length "") := by
  induction widths generalizing cells with
  | nil => rfl
  | cons width widths ih =>
    cases cells with
    | nil => simp [padCells, ih]
    | cons cell cells => simp [padCells, ih]

theorem trimEnd_intercalate_gap (cells : List String) :
    trimEnd (gap.intercalate cells).toList =
      trimEnd (cells.map fun cell => cell.toList ++ [' ', ' ']).flatten := by
  have hb : ∀ b ∈ [' ', ' '], isBlank b := List.all_eq_true.mp (by decide)
  induction cells with
  | nil => rfl
  | cons cell cells ih =>
    cases cells with
    | nil => simp [trimEnd_append_blanks hb]
    | cons next cells =>
      have hg : gap.toList = [' ', ' '] := by decide
      rw [String.intercalate_cons_cons, String.toList_append, String.toList_append, hg,
        trimEnd_append, ih, ← trimEnd_append]
      rfl

/-- Every line is made of the cells it has columns for. -/
theorem toList_line (widths : List Nat) (cells : List String) :
    (line widths cells).toList = trimEnd (body widths (cells.takeD widths.length "")) := by
  rw [line, String.toList_ofList, trimEnd_intercalate_gap, padCells_eq, List.map_zipWith]
  rfl

end SecretAccess.Display.Table
