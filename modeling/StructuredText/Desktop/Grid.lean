/-
# Grids

A grid of cells on screen, with a heading over each column, and how a table is shown in it.  A
grid is filled again and again with tables of different shapes: it is cleared, which keeps its
size, then cut or extended, then written cell by cell.

* `Grid.resize` drops what lies outside the new size;
* `Grid.fill` shows a table.
-/
import StructuredText.Json.Table

namespace StructuredText.Desktop

/-- A cell: its text and the color of its text, where one was chosen. -/
structure Cell where
  text : Text
  color : Option Text := none
deriving DecidableEq

/-- A grid.  It has as many columns as headings, and every row has as many places. -/
structure Grid where
  headings : List (Option Text)
  rows : List (List (Option Cell))
deriving DecidableEq

namespace Grid

/-- A grid without rows and columns. -/
def empty : Grid := ⟨[], []⟩

/-- How many columns there are. -/
def width (g : Grid) : Nat := g.headings.length

/-- How many rows there are. -/
def height (g : Grid) : Nat := g.rows.length

/-- Drops all headings and cells; the size stays. -/
def clear (g : Grid) : Grid where
  headings := g.headings.map fun _ => none
  rows := g.rows.map fun row => row.map fun _ => none

/-- The first places of a list, with more of a kind behind them where the list is too short. -/
def fitted {α : Type} (n : Nat) (filler : α) (xs : List α) : List α :=
  (xs ++ List.replicate (n - xs.length) filler).take n

/-- Sets the size.  What lies outside is dropped. -/
def resize (height width : Nat) (g : Grid) : Grid where
  headings := fitted width none g.headings
  rows := fitted height (List.replicate width none) (g.rows.map (fitted width none))

/-- Writes the headings, from the first column on. -/
def setHeadings (texts : List Text) (g : Grid) : Grid :=
  { g with headings := (texts.map some ++ g.headings.drop texts.length).take g.width }

/-- Writes a cell; a place outside the grid is left out. -/
def setCell (row column : Nat) (cell : Cell) (g : Grid) : Grid :=
  { g with rows := g.rows.modify row fun places => places.set column (some cell) }

/-- Writes a row of cells, from a column on. -/
def setRow (row column : Nat) (g : Grid) : List Cell → Grid
  | [] => g
  | cell :: rest => setRow row (column + 1) (g.setCell row column cell) rest

/-- Writes rows of cells, from a row on. -/
def setRows (row : Nat) (g : Grid) : List (List Cell) → Grid
  | [] => g
  | cells :: rest => setRows (row + 1) (g.setRow row 0 cells) rest

/-- The color of what is only a number of a row or a hint at a container. -/
def dimColor : Text := "#888888"

/-- The cell of a field; hints at containers are dim. -/
def fieldCell (text : Text) : Cell :=
  let isHint := text = Json.objectHint ∨ text = Json.arrayHint
  { text, color := if isHint then some dimColor else none }

/-- The cells of a table: for each row its number, if rows are numbered, and its fields. -/
def cellsOf (t : Json.Table) : List (List Cell) :=
  t.rows.mapIdx fun i row =>
    let fields := t.columns.map fun column => fieldCell (Json.Table.cellOf row column)
    if t.numbered then { text := Text.ofNat (i + 1), color := some dimColor } :: fields
    else fields

/-- The heading over a value that makes no table. -/
def valueHeading : Text := "值"

/-- Shows a table.  What makes no table is shown in a single cell. -/
def fill (t : Json.Table) (g : Grid) : Grid :=
  match t with
  | .empty => single Json.Table.emptyText
  | .scalar text => single text
  | t => ((g.clear.resize t.rows.length t.headerFields.length).setHeadings t.headerFields).setRows
      0 (cellsOf t)
where
  /-- Shows one text. -/
  single (text : Text) : Grid :=
    ((g.clear.resize 1 1).setHeadings [valueHeading]).setCell 0 0 { text }

end Grid

end StructuredText.Desktop
