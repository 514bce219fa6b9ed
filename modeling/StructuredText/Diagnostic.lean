/-
# Diagnostics

What a reader of one of the three languages has to say about a text that it refuses: a
message and, where it is known, the place.
-/
import StructuredText.Text.Numeral

namespace StructuredText

/-- What kind of text was being read. -/
inductive Subject
  | general | json | xml
deriving DecidableEq

/-- The name under which a subject is reported. -/
def Subject.name : Subject → String
  | general => "format"
  | json => "json"
  | xml => "xml"

/-- A complaint about a text, with the place where it is known. -/
structure Diagnostic where
  subject : Subject
  message : Text
  line : Option Int := none
  column : Option Int := none
deriving DecidableEq

/-- The message together with the place.  A column is told only beside its line. -/
def Diagnostic.summary (d : Diagnostic) : Text :=
  match d.line, d.column with
  | some line, some column =>
    d.message ++ (": line " : Text) ++ Text.ofInt line ++ (" column " : Text) ++ Text.ofInt column
  | some line, none => d.message ++ (": line " : Text) ++ Text.ofInt line
  | none, _ => d.message

end StructuredText
