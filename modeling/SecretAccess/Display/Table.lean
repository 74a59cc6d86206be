import SecretAccess.Text.Blank
import SecretAccess.Text.Columns

/-!
# Tables of text

Every column is as wide as its widest cell, two columns of space stand between
cells, and lines carry no white space at their end. The header decides how
many columns there are: cells beyond it are dropped, missing ones are empty.
-/

namespace SecretAccess.Display

open Text

structure Table where
  headers : List String
  rows : List (List String)
deriving DecidableEq, Repr

namespace Table

def gap : String := "  "

/-- The widths of the columns once a row has been seen. -/
def widen : List Nat → List String → List Nat
  | width :: widths, cell :: cells => max width (columns cell) :: widen widths cells
  | widths, _ => widths

def widths (t : Table) : List Nat := t.rows.foldl widen (t.headers.map columns)

def pad (width : Nat) (cell : String) : String :=
  cell ++ String.ofList (List.replicate (width - columns cell) ' ')

def padCells : List Nat → List String → List String
  | [], _ => []
  | width :: widths, [] => pad width "" :: padCells widths []
  | width :: widths, cell :: cells => pad width cell :: padCells widths cells

def line (widths : List Nat) (cells : List String) : String :=
  String.ofList (trimEnd (gap.intercalate (padCells widths cells)).toList)

def ruleLength (widths : List Nat) : Nat :=
  widths.foldr (· + ·) 0 + 2 * (widths.length - 1)

def rule (widths : List Nat) : String := String.ofList (List.replicate (ruleLength widths) '─')

def lines (t : Table) : List String :=
  let widths := t.widths
  line widths t.headers :: rule widths :: t.rows.map (line widths) ++ [rule widths]

def render (t : Table) : String := String.join (t.lines.map (· ++ "\n"))

end Table

end SecretAccess.Display
