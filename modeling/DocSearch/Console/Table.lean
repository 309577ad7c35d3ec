import DocSearch.Text.Lines
import DocSearch.Text.Width
/-!
# Tables

* `Table.render` — a table with lines around all cells. A column is as wide as its widest line, a
  row as high as its highest cell.
-/

namespace DocSearch

/-- A table: its rows, all with as many cells as the first one. -/
structure Table where
  header : List String
  rows : List (List String)
deriving DecidableEq, Repr, Inhabited

namespace Table

/-- The places that a cell takes. -/
def cellWidth (cell : String) : Nat := ((Text.lines cell).map Text.width).foldl max 0

/-- The number of lines of a row, at least one. -/
def rowHeight (row : List String) : Nat := (row.map fun cell => (Text.lines cell).length).foldl max 1

/-- The width of each column. -/
def widths (t : Table) : List Nat :=
  t.rows.foldl (fun ws row => List.zipWith max ws (row.map cellWidth)) (t.header.map cellWidth)

/-- The line between rows. -/
def rule (ws : List Nat) : String :=
  "+" ++ String.join (ws.map fun w => .ofList (List.replicate (w + 2) '-') ++ "+") ++ "\n"

/-- The `i`-th line of a row. -/
def rowLine (ws : List Nat) (row : List String) (i : Nat) : String :=
  let cells := List.zipWith (fun w cell => Text.padded w ((Text.lines cell).getD i "")) ws row
  "|" ++ String.join (cells.map fun cell => " " ++ cell ++ " |") ++ "\n"

/-- A row, with the line below it. -/
def rowText (ws : List Nat) (row : List String) : String :=
  String.join ((List.range (rowHeight row)).map (rowLine ws row)) ++ rule ws

/-- The table as text. -/
def render (t : Table) : String :=
  let ws := t.widths
  rule ws ++ String.join ((t.header :: t.rows).map (rowText ws))

end Table

end DocSearch
