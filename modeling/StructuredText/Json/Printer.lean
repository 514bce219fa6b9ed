/-
# Writing JSON

A JSON value as text.  A value is a sequence of pieces, which are the same however it is laid
out; a layout says where line breaks and blanks stand.

* `quote` writes a string, `integerText` an integer unless it has too many digits;
* `Value.pieces` are the pieces of a value, `Value.render` is its text in a layout;
* `serialize` writes a value under given options, unless it holds a number that JSON cannot
  express or an integer with too many digits.
-/
import StructuredText.Json.Options
import StructuredText.Json.Value
import StructuredText.Json.Fault
import StructuredText.Double.Shortest

namespace StructuredText.Json

/-! ## Strings -/

/-- The escape of a sixteen-bit number. -/
def unicodeEscape (n : Nat) : Text := '\\' :: 'u' :: Text.ofHex4 n

/-- How one code point is written inside a string: quote, backslash and the control codes are
escaped, with a letter where there is one. -/
def escapeInString (c : CodePoint) : Text :=
  if c = '"' then ['\\', '"']
  else if c = '\\' then ['\\', '\\']
  else if c = '\n' then ['\\', 'n']
  else if c = '\r' then ['\\', 'r']
  else if c = '\t' then ['\\', 't']
  else if c = '\x08' then ['\\', 'b']
  else if c = '\x0c' then ['\\', 'f']
  else if c.val < 0x20 then unicodeEscape c.val
  else [c]

/-- A string between quotes. -/
def quote (s : Text) : Text := '"' :: (s.flatMap escapeInString ++ [CodePoint.ofChar '"'])

/-! ## Integers -/

/-- Why an integer has no text. -/
inductive DigitFault
  | tooManyDigits
deriving DecidableEq

/-- The wording of the refusal. -/
def DigitFault.message : DigitFault → Text
  | tooManyDigits =>
    Text.concat ["Exceeds the limit (", Text.ofNat maxIntegerDigits,
      " digits) for integer string conversion; ",
      "use sys.set_int_max_str_digits() to increase the limit"]

/-- Whether an integer has more digits than are written. -/
def overlong (n : Int) : Bool := Nat.pow 10 maxIntegerDigits ≤ n.natAbs

/-- An integer as text, unless it has too many digits. -/
def integerText (n : Int) : Except DigitFault Text :=
  if overlong n then .error .tooManyDigits else .ok (Text.ofInt n)

/-! ## Pieces -/

/-- A piece of a written value: a token, a place where a layout may break the line at some depth,
or one where it may leave a gap. -/
inductive Piece
  | token (text : Text)
  | lineBreak (depth : Nat)
  | gap
deriving DecidableEq

namespace Piece

/-- The pieces of items between brackets that stand at some depth, from the pieces of each. -/
def enclose (depth : Nat) (opening closing : Text) : List (List Piece) → List Piece
  | [] => [token (opening ++ closing)]
  | items =>
    token opening :: lineBreak (depth + 1) ::
      ([token ",", lineBreak (depth + 1)].intercalate items ++ [lineBreak depth, token closing])

end Piece

mutual

/-- The pieces of a value that stands at some depth.  They are the same in every layout. -/
def Value.pieces (depth : Nat) : Value → List Piece
  | .null => [.token "null"]
  | .bool b => [.token (if b then "true" else "false")]
  | .int n => [.token (Text.ofInt n)]
  | .float x => [.token x.toText]
  | .string s => [.token (quote s)]
  | .array items => Piece.enclose depth "[" "]" (itemPieces (depth + 1) items)
  | .object members => Piece.enclose depth "\x7b" "\x7d" (memberPieces (depth + 1) members)
termination_by structural v => v

/-- The pieces of each item of an array. -/
def itemPieces (depth : Nat) : List Value → List (List Piece)
  | [] => []
  | v :: rest => v.pieces depth :: itemPieces depth rest
termination_by structural items => items

/-- The pieces of each member of an object. -/
def memberPieces (depth : Nat) : List (Text × Value) → List (List Piece)
  | [] => []
  | (key, v) :: rest =>
    (.token (quote key) :: .token ":" :: .gap :: v.pieces depth) :: memberPieces depth rest
termination_by structural members => members

end

/-! ## Layouts -/

/-- Where line breaks and blanks stand: nowhere at all, or one item a line, each level
indented by some columns more. -/
inductive Layout
  | minified
  | indented (columns : Nat)
deriving DecidableEq

/-- How a layout writes a piece. -/
def Layout.write : Layout → Piece → Text
  | _, .token text => text
  | minified, .lineBreak _ => []
  | minified, .gap => []
  | indented columns, .lineBreak depth => '\n' :: Text.spaces (columns * depth)
  | indented _, .gap => [' ']

/-- A value as text. -/
def Value.render (l : Layout) (v : Value) : Text := (v.pieces 0).flatMap l.write

/-! ## What cannot be written -/

/-- Why a value has no text. -/
inductive Unwritable
  | notFinite (x : Double)
  | tooManyDigits
deriving DecidableEq

/-- The name of a number that is not finite, as told in errors. -/
def notFiniteName : Double → Text
  | .infinite false => "inf"
  | .infinite true => "-inf"
  | .notANumber => "nan"
  | .finite _ _ => []

/-- The wording of the refusal; only layouts with line breaks name the number. -/
def Unwritable.message (l : Layout) : Unwritable → Text
  | notFinite x =>
    match l with
    | .minified => "Out of range float values are not JSON compliant"
    | .indented _ => ("Out of range float values are not JSON compliant: " : Text) ++ notFiniteName x
  | tooManyDigits => DigitFault.tooManyDigits.message

mutual

/-- The first part of a value that cannot be written. -/
def Value.unwritable? : Value → Option Unwritable
  | .int n => if overlong n then some .tooManyDigits else none
  | .float x => if x.isFinite then none else some (.notFinite x)
  | .array items => itemsUnwritable? items
  | .object members => membersUnwritable? members
  | _ => none
termination_by structural v => v

/-- The first part of some items that cannot be written. -/
def itemsUnwritable? : List Value → Option Unwritable
  | [] => none
  | v :: rest =>
    match v.unwritable? with
    | some u => some u
    | none => itemsUnwritable? rest
termination_by structural items => items

/-- The first part of some members that cannot be written. -/
def membersUnwritable? : List (Text × Value) → Option Unwritable
  | [] => none
  | (_, v) :: rest =>
    match v.unwritable? with
    | some u => some u
    | none => membersUnwritable? rest
termination_by structural members => members

end

/-! ## ASCII only -/

/-- How one code point is written where only ASCII may stand.  Beyond FFFF it becomes the
escapes of a surrogate pair. -/
def escapeCodePoint (c : CodePoint) : Text :=
  if c.val < 0x7F then [c]
  else if c.val < 0x10000 then unicodeEscape c.val
  else
    let offset := c.val - 0x10000
    unicodeEscape (0xD800 + offset / 0x400) ++ unicodeEscape (0xDC00 + offset % 0x400)

/-- A text with every code point from 7F on escaped. -/
def escapeNonAscii (t : Text) : Text := t.flatMap escapeCodePoint

/-! ## Under options -/

/-- The layout of a style.  The compact style indents by one column, whatever the width. -/
def FormatOptions.layout (o : FormatOptions) : Layout :=
  match o.style with
  | .minified => .minified
  | .compact => .indented 1
  | _ => .indented o.width.columns

/-- The text of a value under options. -/
def renderWith (o : FormatOptions) (v : Value) : Text :=
  let text := v.render o.layout
  if o.escapeNonAscii then escapeNonAscii text else text

/-- Writes a value under options; keys stay in the order in which they are. -/
def serialize (o : FormatOptions) (v : Value) : Except Unwritable Text :=
  match v.unwritable? with
  | some u => .error u
  | none => .ok (renderWith o v)

end StructuredText.Json
