import DefUse.Console.Log
import DefUse.Text.Width

/-!
# Console/Box — tables in boxes

A table has a title, a header with one cell for each column, and rows.  Each column is as wide as
its widest cell, and the title stands in the middle above the box.  A cell may have several lines.
-/

namespace DefUse

/-- **A table with the lines of its cells.** -/
structure Box where
  title : String
  columns : List (String × Side)
  /-- For each row, the lines of the cell in each column. -/
  rows : List (List (List String))

namespace Box

/-- A line of a cell, filled up to a width. -/
def fit (width : Nat) : Side → String → String
  | .left, s => padRight width s
  | .right, s => padLeft width s

/-- The width of the widest of some lines. -/
def widest (lines : List String) : Nat := (lines.map fun l => textWidth l.toList).foldl max 0

/-- The widths of the columns. -/
def widths (b : Box) : List Nat :=
  b.columns.mapIdx fun i (header, _) =>
    widest (header :: b.rows.flatMap fun row => row[i]?.getD [])

/-- A line of a box: a stroke for each column, with joints before, between and after them. -/
def rule (first joint last : String) (stroke : Char) (widths : List Nat) : String :=
  first ++ joint.intercalate (widths.map fun w => "".pushn stroke (w + 2)) ++ last

/-- A line of cells between bars. -/
def cellLine (bar : String) (cells : List String) : String :=
  bar ++ bar.intercalate (cells.map fun c => " " ++ c ++ " ") ++ bar

/-- The lines of a row: as many as its tallest cell has. -/
def rowLines (b : Box) (bar : String) (row : List (List String)) : List String :=
  let height := (row.map List.length).foldl max 1
  (List.range height).map fun i =>
    cellLine bar (((b.widths.zip (b.columns.map (·.2))).zip row).map fun ((w, side), cell) =>
      fit w side (cell[i]?.getD ""))

/-- The width of the box. -/
def boxWidth (b : Box) : Nat := (b.widths.map (· + 3)).foldr (· + ·) 1

/-- The title, in the middle above the box. -/
def titleLine (b : Box) : String :=
  "".pushn ' ' ((b.boxWidth - textWidth b.title.toList) / 2) ++ b.title

/-- **The lines of a box.** -/
def lines (b : Box) : List String :=
  let ws := b.widths
  let headers := b.columns.map fun (h, _) => [h]
  [b.titleLine, rule "┏" "┳" "┓" '━' ws] ++ b.rowLines "┃" headers ++
    [rule "┡" "╇" "┩" '━' ws] ++ b.rows.flatMap (b.rowLines "│") ++
    [rule "└" "┴" "┘" '─' ws]

end Box

end DefUse
