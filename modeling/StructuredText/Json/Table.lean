/-
# Tables

A JSON document seen as a table.  An array that begins with an object has one row for each
element and one column for each key; any other array has one column of values; an object has
a row for each member.  Containers inside are only hinted at.  An integer with too many digits has
no text, so there is no table with a cell for it.

* `cellText` is what a cell shows of a value;
* `Table.ofValue` makes the table of a document;
* `Table.cell` looks up a cell;
* `Table.render` writes the table with a separator between the fields of a row.
-/
import StructuredText.Index
import StructuredText.Json.Printer

namespace StructuredText.Json

/-- What a cell shows of an object. -/
def objectHint : Text := "\x7b...\x7d"

/-- What a cell shows of an array. -/
def arrayHint : Text := "[...]"

/-- What a cell shows of a value. -/
def cellText : Value → Except DigitFault Text
  | .null => .ok []
  | .bool b => .ok (if b then "true" else "false")
  | .int n => integerText n
  | .float x => .ok x.toText
  | .string s => .ok s
  | .array _ => .ok arrayHint
  | .object _ => .ok objectHint

/-- A row: the cells it has, each with its column. -/
abbrev Row := List (Text × Text)

/-- A document as a table. -/
inductive Table
  /-- Objects one below the other; a row has the cells of its own keys only. -/
  | records (columns : List Text) (rows : List Row)
  /-- Values one below the other. -/
  | values (cells : List Text)
  /-- Keys with their values. -/
  | pairs (entries : List (Text × Text))
  /-- An array without elements. -/
  | empty
  /-- No table at all. -/
  | scalar (text : Text)

/-- The keys of the objects among some values, in the order of their first appearance. -/
def columnsOf (items : List Value) : List Text :=
  (items.foldl (fun seen item =>
    match item with
    | .object members =>
      members.foldl (fun seen (key, _) => if seen.contains key then seen else key :: seen) seen
    | _ => seen) []).reverse

/-- The cell of a member, under its key. -/
def memberCell (m : Member) : Except DigitFault (Text × Text) :=
  (cellText m.2).map fun cell => (m.1, cell)

/-- The row of a value among records: the cells of an object, and no cell of anything else. -/
def rowOf : Value → Except DigitFault Row
  | .object members => members.mapM memberCell
  | _ => .ok []

namespace Table

/-- The heading of a column of values. -/
def valueColumn : Text := "value"

/-- The heading of the column of keys. -/
def keyColumn : Text := "key"

/-- The table of a document.  A document that is just `null` is shown by its name. -/
def ofValue : Value → Except DigitFault Table
  | .array [] => .ok empty
  | .array (first :: rest) =>
    if first.kind = .object then
      ((first :: rest).mapM rowOf).map (records (columnsOf (first :: rest)))
    else ((first :: rest).mapM cellText).map values
  | .object members => (members.mapM memberCell).map pairs
  | .null => .ok (scalar "null")
  | v => (cellText v).map scalar

/-- The name of a table's kind. -/
def kindName : Table → String
  | records _ _ => "records"
  | values _ => "values"
  | pairs _ => "pairs"
  | empty => "empty"
  | scalar _ => "scalar"

/-- Rows are numbered where they are the elements of an array. -/
def numbered : Table → Bool
  | records _ _ | values _ => true
  | _ => false

/-- The headings. -/
def columns : Table → List Text
  | records columns _ => columns
  | values _ => [valueColumn]
  | pairs _ => [keyColumn, valueColumn]
  | _ => []

/-- The rows. -/
def rows : Table → List Row
  | records _ rows => rows
  | values cells => cells.map fun cell => [(valueColumn, cell)]
  | pairs entries => entries.map fun (key, value) => [(keyColumn, key), (valueColumn, value)]
  | _ => []

/-- The text of a document that makes no table. -/
def scalarText : Table → Text
  | scalar text => text
  | _ => []

/-- The cell of a row in a column; a row without one shows nothing there. -/
def cellOf (row : Row) (column : Text) : Text :=
  ((row.find? (·.1 = column)).map (·.2)).getD []

/-- The cell at a row, counted from either end, in a column. -/
def cell (t : Table) (row : Int) (column : Text) : Except IndexFault Text :=
  (element? t.rows row).map (cellOf · column)

/-- The fields of the heading: a number sign if rows are numbered, then the columns. -/
def headerFields (t : Table) : List Text :=
  if t.numbered then ("#" : Text) :: t.columns else t.columns

/-- The fields of each row: its number if rows are numbered, then a cell for each column. -/
def rowFields (t : Table) : List (List Text) :=
  t.rows.mapIdx fun i row =>
    let cells := t.columns.map (cellOf row)
    if t.numbered then Text.ofNat (i + 1) :: cells else cells

/-- What an array without elements is shown as. -/
def emptyText : Text := "(空数组)"

/-- The table as text, a line for the heading and one for each row. -/
def render (t : Table) (separator : Text) : Text :=
  match t with
  | empty => emptyText
  | scalar text => text
  | t => Text.join ("\n" : Text) ((t.headerFields :: t.rowFields).map (Text.join separator))

end Table

end StructuredText.Json
