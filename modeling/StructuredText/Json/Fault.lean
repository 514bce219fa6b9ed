/-
# Faults of a JSON text

Why a text is no JSON document.  A located fault carries what is left of the text at its
place, so its line and column are known once the whole text is.
-/
import StructuredText.Text.Lines
import StructuredText.Diagnostic

namespace StructuredText.Json

/-- What is wrong at a place. -/
inductive Complaint
  | byteOrderMark
  | valueExpected
  | nameExpected
  | colonExpected
  | commaExpected
  | extraData
  | unterminatedString
  | controlCharacter
  | invalidEscape
  | invalidUnicodeEscape
deriving DecidableEq

/-- The wording of a complaint. -/
def Complaint.message : Complaint → String
  | byteOrderMark => "Unexpected UTF-8 BOM (decode using utf-8-sig)"
  | valueExpected => "Expecting value"
  | nameExpected => "Expecting property name enclosed in double quotes"
  | colonExpected => "Expecting ':' delimiter"
  | commaExpected => "Expecting ',' delimiter"
  | extraData => "Extra data"
  | unterminatedString => "Unterminated string starting at"
  | controlCharacter => "Invalid control character at"
  | invalidEscape => "Invalid \\escape"
  | invalidUnicodeEscape => "Invalid \\uXXXX escape"

/-- How many digits an integer may have. -/
def maxIntegerDigits : Nat := 4300

/-- Why a text was refused. -/
inductive Fault
  /-- Something is wrong at a place, given by what is left of the text there. -/
  | located (complaint : Complaint) (rest : Text)
  /-- A name of a number that JSON does not have. -/
  | constant (name : Text)
  /-- A number with fraction or exponent beyond every double. -/
  | outOfRange (literal : Text)
  /-- An integer with too many digits. -/
  | tooManyDigits (count : Nat)
  /-- Containers inside containers beyond the limit for reading; this opened one too many. -/
  | tooDeep (bracket : CodePoint)
  /-- Containers inside containers beyond the limit for sorting. -/
  | tooDeepToSort
deriving DecidableEq

namespace Fault

/-- The wording of a fault, without its place. -/
def message : Fault → Text
  | located complaint _ => complaint.message
  | constant name => ("Invalid literal " : Text) ++ name
  | outOfRange literal => ("Number out of range: " : Text) ++ literal
  | tooManyDigits count =>
    Text.concat ["Exceeds the limit (", Text.ofNat maxIntegerDigits,
      " digits) for integer string conversion: value has ", Text.ofNat count,
      " digits; use sys.set_int_max_str_digits() to increase the limit"]
  | tooDeep _ | tooDeepToSort => "Nesting too deep"

/-- The place of a located fault in the whole text. -/
def position? (whole : Text) : Fault → Option Position
  | located _ rest => some (.ofRest whole rest)
  | _ => none

/-- The fault as a diagnostic about the whole text. -/
def diagnostic (whole : Text) (fault : Fault) : Diagnostic where
  subject := .json
  message := fault.message
  line := (fault.position? whole).map fun p => (p.line : Int)
  column := (fault.position? whole).map fun p => (p.column : Int)

/-- The message with line, column and the index of the place, where there is one. -/
def fullMessage (whole : Text) (fault : Fault) : Text :=
  match fault with
  | located _ rest =>
    Text.concat [(fault.diagnostic whole).summary, " (char ",
      Text.ofNat (whole.length - rest.length), ")"]
  | _ => fault.message

end Fault

end StructuredText.Json
