import SecretAccess.Proofs.Reading
import SecretAccess.Proofs.Table.Exact

/-!
# Reading a table back

The titles in a header say where the columns of a table begin, and cut there,
the lines between the rules are its rows. So a table that stands below a line
of text is read back from the text alone (`read_titled`), if its titles are
known and none of them is empty or begins with a space.
-/

namespace SecretAccess.Display.Table

open Text Reading

/-- The columns where the titles in a header begin, each behind the spaces that
follow the one before. -/
def titleStarts (column : Nat) : List String → List Char → Option (List Nat)
  | [], _ => some []
  | title :: titles, cs => do
    let rest ← expect title.toList cs
    let spaces := rest.takeWhile (· = ' ')
    let starts ← titleStarts (column + sumColumns title.toList + spaces.length) titles
      (rest.dropWhile (· = ' '))
    some (column :: starts)

/-- Where the columns of a table begin, and what stands in its rows. -/
def read (titles : List String) (text : String) : Option (List Nat × List (List String)) :=
  match Tree.linesOf text with
  | _ :: header :: _ :: rows => (titleStarts 0 titles header).map fun starts =>
    (starts, rows.dropLast.map (cutCells starts))
  | _ => none

/-- The title can be told from the spaces in front of it. -/
def isTitle (title : String) : Bool := title.toList.head?.any (· ≠ ' ')

variable {column : Nat} {widths : List Nat} {titles : List String} {title : String} {t : Table}

theorem exists_of_isTitle (h : isTitle title) : ∃ c cs, title.toList = c :: cs ∧ c ≠ ' ' := by
  rw [isTitle] at h
  cases hcs : title.toList with
  | nil => simp [hcs] at h
  | cons c cs => exact ⟨c, cs, rfl, by simpa [hcs] using h⟩

theorem takeWhile_spaces {c : Char} (hc : c ≠ ' ') (n : Nat) (cs : List Char) :
    (List.replicate n ' ' ++ c :: cs).takeWhile (· = ' ') = List.replicate n ' ' := by
  rw [List.takeWhile_append_of_pos (by simp), List.takeWhile_cons_of_neg (by simpa using hc),
    List.append_nil]

theorem dropWhile_spaces {c : Char} (hc : c ≠ ' ') (n : Nat) (cs : List Char) :
    (List.replicate n ' ' ++ c :: cs).dropWhile (· = ' ') = c :: cs := by
  rw [List.dropWhile_append_of_pos (by simp), List.dropWhile_cons_of_neg (by simpa using hc)]

theorem exists_body_cons {width : Nat} (h : FitsIn width title) (ht : isTitle title)
    (widths : List Nat) (titles : List String) :
    ∃ c cs, trimEnd (body (width :: widths) (title :: titles)) = c :: cs ∧ c ≠ ' ' := by
  obtain ⟨c, cs, hcs, hc⟩ := exists_of_isTitle ht
  rw [trimEnd_body_cons h]
  split
  case isTrue => exact ⟨c, cs, hcs, hc⟩
  case isFalse => exact ⟨c, _, by rw [segment_eq, hcs, List.cons_append, List.cons_append], hc⟩

theorem titleStarts_body (h : List.Forall₂ FitsIn widths titles)
    (ht : ∀ title ∈ titles, isTitle title) :
    titleStarts column titles (trimEnd (body widths titles)) = some (positions column widths) := by
  induction h generalizing column with
  | nil => rfl
  | @cons width title widths titles hf hrest ih =>
    obtain ⟨-, ht⟩ := List.forall_mem_cons.mp ht
    rw [trimEnd_body_cons hf, titleStarts]
    cases hrest with
    | nil =>
      have hnil : trimEnd (body [] []) = [] := rfl
      have he := expect_append title.toList []
      rw [List.append_nil] at he
      simp [hnil, he, titleStarts, positions]
    | @cons width' title' widths titles hf' hrest =>
      -- the spaces behind a title end where the next one begins
      obtain ⟨c, cs, hcs, hc⟩ := exists_body_cons hf' (ht title' List.mem_cons_self) widths titles
      have hroom : sumColumns title.toList + (width - columns title + 2) = width + 2 := by
        have hc := hf.regular.columns
        have hr := hf.room
        omega
      have ih := @ih (column + (width + 2)) ht
      rw [hcs] at ih ⊢
      rw [if_neg (by simp), segment_eq, List.append_assoc, expect_append]
      simp only [Option.bind_eq_bind, Option.bind_some, takeWhile_spaces hc, dropWhile_spaces hc,
        List.length_replicate, Nat.add_assoc, hroom, ih]
      rfl

theorem linesOf_titled {title text : String} (ht : '\n' ∉ title.toList) :
    Tree.linesOf (title ++ "\n" ++ text) = title.toList :: Tree.linesOf text := by
  have hl : (title ++ "\n" ++ text).toList = title.toList ++ '\n' :: text.toList := by simp
  rw [Tree.linesOf, hl, List.splitOn_append_cons_self_of_not_mem ht,
    List.dropLast_cons_of_ne_nil (List.splitOn_ne_nil _ _)]
  rfl

/-- A table is read back from its text. -/
theorem read_titled (title : String) (htitle : '\n' ∉ title.toList) (ht : t.Regular)
    (hheaders : ∀ title ∈ t.headers, isTitle title) :
    read t.headers (title ++ "\n" ++ t.render) = some (t.starts, t.rows.map t.fit) := by
  have hs : titleStarts 0 t.headers (t.lineOf t.headers) = some t.starts := by
    have hf := fitsIn_fit ht List.mem_cons_self
    rw [lineOf]
    rw [fit_eq_self rfl] at hf ⊢
    rw [titleStarts_body hf hheaders, positions_widths]
  have hcells : (t.rows.map t.lineOf).map (cutCells t.starts) = t.rows.map t.fit := by
    rw [List.map_map]
    exact List.map_congr_left fun cells hc => (shows_lineOf ht (List.mem_cons_of_mem _ hc)).cut
  rw [read, linesOf_titled htitle, linesOf_render ht]
  simp only [List.cons_append, hs, Option.map_some, List.dropLast_concat, hcells]

/-- Each column has a title and each row a cell for it, all of which can be laid out. -/
structure Full (t : Table) : Prop where
  titles : ∀ title ∈ t.headers, Text.Regular title ∧ isTitle title
  rows : ∀ cells ∈ t.rows, cells.length = t.headers.length ∧ ∀ cell ∈ cells, Text.Regular cell

theorem Full.regular (h : t.Full) : t.Regular :=
  regular_of_cells (List.forall_mem_cons.mpr
    ⟨fun title ht => (h.titles title ht).1, fun cells hc => (h.rows cells hc).2⟩)

/-- Rows that fill the columns are read back as they are. -/
theorem Full.read_titled (h : t.Full) (title : String) (htitle : '\n' ∉ title.toList) :
    read t.headers (title ++ "\n" ++ t.render) = some (t.starts, t.rows) := by
  have hrows : t.rows.map t.fit = t.rows :=
    (List.map_congr_left fun cells hc => fit_eq_self (h.rows cells hc).1).trans (List.map_id _)
  rw [Table.read_titled title htitle h.regular fun title ht => (h.titles title ht).2, hrows]

end SecretAccess.Display.Table
