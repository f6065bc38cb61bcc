import Assay.Text.Width

/-!
# Bordered grids

Records of cells drawn with a border around every cell. A column is as wide as its widest line,
with one blank on each side; a cell with line breaks takes several lines, and the shorter cells of
its record are filled up with blank lines.
-/

namespace Assay.Report

/-- The lines of a cell. -/
def cellLines (cell : String) : List (List Char) :=
  cell.toList.splitOn '\n'

/-- The columns that a cell takes. -/
def cellWidth (cell : String) : Nat :=
  ((cellLines cell).map Text.width).foldl max 0

/-- The width of each column: the greatest of its cells. -/
def columnWidths (records : List (List String)) : List Nat :=
  records.foldl (fun widths record => combine widths (record.map cellWidth)) []
where
  /-- The greater of two widths column by column. -/
  combine : List Nat → List Nat → List Nat
    | [], ws => ws
    | ws, [] => ws
    | v :: vs, w :: ws => max v w :: combine vs ws

/-- A line of a cell, filled up to the width of its column, with its margins and left border. -/
def cellLine (width : Nat) (line : List Char) : List Char :=
  ['|', ' '] ++ line ++ List.replicate (width - Text.width line) ' ' ++ [' ']

/-- The border between two records. -/
def border (widths : List Nat) : List Char :=
  (widths.flatMap fun w => '+' :: List.replicate (w + 2) '-') ++ ['+']

/-- The lines of one record. -/
def recordLines (widths : List Nat) (record : List String) : List (List Char) :=
  let cells := record.map cellLines
  let height := (cells.map List.length).foldl max 0
  (List.range height).map fun i =>
    (List.zip widths cells).flatMap (fun (w, lines) => cellLine w (lines[i]?.getD [])) ++ ['|']

/-- The lines of a grid: a border above each record, its lines, and a border at the end. -/
def gridLines (records : List (List String)) : List (List Char) :=
  let widths := columnWidths records
  (records.flatMap fun record => border widths :: recordLines widths record) ++ [border widths]

/-- A grid of records, without a line break at its end. -/
def grid (records : List (List String)) : String :=
  String.ofList (List.intercalate ['\n'] (gridLines records))

end Assay.Report
