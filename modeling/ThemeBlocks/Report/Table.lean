import ThemeBlocks.Text.Lines
import ThemeBlocks.Text.Width

/-! Tables of text. Every column is as wide as its widest line, cells are set to the left with one blank
on both sides, bars stand between columns, and a rule stands below the heads. A cell may have several
lines; a row is as high as its highest cell. -/

namespace ThemeBlocks.Report

abbrev Line := List Char

structure Table where
  heads : List String
  rows : List (List String)
  deriving Repr, DecidableEq

namespace Table

def linesOf (cell : String) : List Line :=
  Text.splitAtChar '\n' cell.toList

def maximum (sizes : List Nat) : Nat :=
  sizes.foldl max 0

def cellWidth (cell : String) : Nat :=
  maximum ((linesOf cell).map Text.width)

def allRows (table : Table) : List (List String) :=
  table.heads :: table.rows

def widths (table : Table) : List Nat :=
  (List.range table.heads.length).map fun column =>
    maximum (table.allRows.map fun row => cellWidth (row.getD column ""))

def pad (width : Nat) (line : Line) : Line :=
  ' ' :: line ++ List.replicate (width - Text.width line) ' ' ++ [' ']

def rowLines (widths : List Nat) (row : List String) : List Line :=
  let cells := row.map linesOf
  (List.range (maximum (cells.map List.length))).map fun index =>
    List.intercalate ['|'] (List.zipWith (fun width cell => pad width (cell.getD index [])) widths cells)

def rule (widths : List Nat) : Line :=
  List.intercalate ['+'] (widths.map fun width => List.replicate (width + 2) '-')

def lines (table : Table) : List Line :=
  let widths := table.widths
  rowLines widths table.heads ++ [rule widths] ++ table.rows.flatMap (rowLines widths)

def render (table : Table) : String :=
  .ofList (List.intercalate ['\n'] table.lines)

end Table

/-- A text of at most so many characters; of a longer one the start, with three dots. -/
def truncate (limit : Nat) (text : String) : String :=
  if text.toList.length ≤ limit then text
  else .ofList (text.toList.take (limit - 3)) ++ "..."

end ThemeBlocks.Report
