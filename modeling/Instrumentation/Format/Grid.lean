import Instrumentation.Text.Width
/-
  Tables of text

  A grid has a heading and rows of cells, drawn with rounded corners. A column is
  as wide as its widest line, the heading stands in the middle of its column, and
  all else at its left. A cell may have several lines; a row is as high as its
  highest cell.
-/

namespace Instrumentation.Format

structure Grid where
  heading : List String
  rows : List (List String)

namespace Grid

def cellLines (cell : String) : List (List Char) := cell.toList.splitOn '\n'

/-- The width of a cell: that of its widest line. -/
def cellWidth (cell : String) : Nat :=
  ((cellLines cell).map Text.width).foldl max 0

/-- The widths of the columns, each wide enough for all its cells. -/
def columnWidths (grid : Grid) : List Nat :=
  grid.rows.foldl
    (fun widths row => List.zipWith (fun width cell => max width (cellWidth cell)) widths row)
    (grid.heading.map cellWidth)

def atLeft (width : Nat) (line : List Char) : List Char :=
  line ++ List.replicate (width - Text.width line) ' '

def inMiddle (width : Nat) (line : List Char) : List Char :=
  let free := width - Text.width line
  List.replicate (free / 2) ' ' ++ line ++ List.replicate (free - free / 2) ' '

def rule (left middle right : Char) (widths : List Nat) : List Char :=
  left :: [middle].intercalate (widths.map fun width => List.replicate (width + 2) '─') ++ [right]

/-- One line of a row: the line with the number `n` of every cell. -/
def rowLine (align : Nat → List Char → List Char) (widths : List Nat)
    (cells : List (List (List Char))) (n : Nat) : List Char :=
  '│' :: ' ' ::
    [' ', '│', ' '].intercalate
      (List.zipWith (fun width lines => align width (lines.getD n [])) widths cells) ++
    [' ', '│']

def rowLines (align : Nat → List Char → List Char) (widths : List Nat) (row : List String) :
    List (List Char) :=
  let cells := row.map cellLines
  (List.range ((cells.map List.length).foldl max 0)).map (rowLine align widths cells)

def draw (grid : Grid) : List (List Char) :=
  let widths := grid.columnWidths
  rule '╭' '┬' '╮' widths ::
    rowLines inMiddle widths grid.heading ++
    rule '├' '┼' '┤' widths ::
    grid.rows.flatMap (rowLines atLeft widths) ++
    [rule '╰' '┴' '╯' widths]

/-- The text of a grid, without a line break at its end. -/
def text (grid : Grid) : String := String.ofList (['\n'].intercalate grid.draw)

end Grid

end Instrumentation.Format
