import Backlog.Text.Columns
/-!
Tables drawn with ASCII characters. A cell may have several lines; every column is as wide as its
widest line, and each line is padded with blanks to that width.
-/
namespace Backlog.Table
set_option autoImplicit false

abbrev Cell := Text

/-- The widths of the columns: for each the width of its widest line, with at least `n` columns. -/
def widths (rows : List (List Cell)) (n : Nat) : List Nat :=
  (List.range n).map fun i =>
    (rows.map fun row =>
      (Text.lines (row[i]?.getD [])).foldl (fun w line => max w (Text.columns line)) 0).foldl max 0

/-- A line of a cell, filled up to a width and with a blank on either side. -/
def pad (width : Nat) (line : Text) : Text :=
  ' ' :: line ++ Text.repeated (width - Text.columns line) ' ' ++ [' ']

/-- The lines of a row between upright strokes. A cell with fewer lines than the row is filled up.
-/
def rowLines (widths : List Nat) (row : List Cell) : List Text :=
  let cells := row.map Text.lines
  let height := (cells.map List.length).foldl max 0
  (List.range height).map fun i =>
    ('|' :: Text.join "|" (List.zipWith (fun w cell => pad w (cell[i]?.getD [])) widths cells)) ++ ['|']

/-- A stroke across the table, between `ends` and with `cross` where columns meet. -/
def rule (ends cross stroke : Char) (widths : List Nat) : Text :=
  (ends :: Text.join [cross] (widths.map fun w => Text.repeated (w + 2) stroke)) ++ [ends]

def bodyLines (widths : List Nat) : List (List Cell) → List Text
  | [] => []
  | [row] => rowLines widths row
  | row :: rows => rowLines widths row ++ rule '|' '+' '-' widths :: bodyLines widths rows

def render (header : List Cell) (rows : List (List Cell)) : Text :=
  let ws := widths (header :: rows) header.length
  let outer := rule '+' '+' '-' ws
  Text.join "\n" <|
    outer :: rowLines ws header ++ rule '+' '=' '=' ws :: bodyLines ws rows ++ [outer]

end Backlog.Table
