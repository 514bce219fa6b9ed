/-
# XML documents

A document is a declaration that may be missing, miscellany, a document type that may be
missing, one element with its content, and miscellany again.

* `fault?` gives the first fault of a text, if it is no acceptable document: if it is not
  well-formed, or if the last thing noted about it is an error.
-/
import StructuredText.Xml.DocumentType
import StructuredText.Xml.Element

namespace StructuredText.Xml

namespace Scan

/-- A quote, which is passed. -/
def openingQuote : Scan CodePoint := do
  match ← peek with
  | some c => if c = '"' ∨ c = '\'' then skip; return c else fail .stringNotStarted
  | none => fail .stringNotStarted

/-- An equals sign with blanks around it. -/
def equals : Scan Unit := do
  let _ ← blanks
  expect "=" .equalsExpected
  let _ ← blanks

/-- A version number: a digit, a point and any digits.  Of anything else no more than a first
digit is passed. -/
def versionNumber : Scan (Option Text) := do
  match ← peek with
  | some c =>
    if c.isDigit then
      skip
      if ← accept "." then return some (c :: '.' :: (← takeWhile CodePoint.isDigit))
      else return none
    else return none
  | none => return none

/-- The version in a declaration.  Of a later version 1 is warned. -/
def version : Scan Unit := do
  expect "version" .versionExpected
  equals
  let quote ← openingQuote
  let number ← versionNumber
  expect [quote] .stringNotClosed
  match number with
  | none => fail .versionExpected
  | some number =>
    unless Text.isPrefixOf "1." number do fail (.unsupportedVersion number)
    unless number = ("1.0" : Text) do warn

/-- A letter, digit or mark in the name of an encoding. -/
def isEncodingPart (c : CodePoint) : Bool :=
  c.isAsciiLetter || c.isDigit || c == '.' || c == '_' || c == '-'

/-- The encoding in a declaration, whatever it is, after its keyword. -/
def encoding : Scan Unit := do
  equals
  let quote ← openingQuote
  let name ← nameOf CodePoint.isAsciiLetter isEncodingPart
  if name.isNone then fail .encodingName
  expect [quote] .stringNotClosed

/-- The one or the other word that tells whether the document stands alone. -/
def standaloneValue : Scan Bool := do
  if ← accept "yes" then return true
  else if ← accept "no" then return false
  else fail .standaloneValue

/-- Whether the document stands alone, after the keyword. -/
def standalone : Scan Bool := do
  equals
  let quote ← openingQuote
  let answer ← standaloneValue
  expect [quote] .stringNotClosed
  return answer

/-- Whether a declaration ends here; if it does not, a blank has to come next. -/
def declarationEnds : Scan Bool := do
  if ← accept "?>" then return true
  match ← peek with
  | some c => if isXmlBlank c then return false else fail .blankExpected
  | none => fail .blankExpected

/-- What follows encoding and version in a declaration. -/
def declarationTail : Scan Bool := do
  let _ ← blanks
  let alone ← if ← accept "standalone" then standalone else pure false
  let _ ← blanks
  expect "?>" .declarationNotClosed
  return alone

/-- The declaration after its opening mark.  It tells whether the document stands alone. -/
def declaration : Scan Bool := do
  let _ ← blanks
  version
  if ← declarationEnds then return false
  let _ ← blanks
  if ← accept "encoding" then
    encoding
    if ← declarationEnds then return false
  declarationTail

/-- Whether the text opens with a declaration. -/
def opensWithDeclaration (t : Text) : Bool :=
  Text.isPrefixOf "<?xml" t && ((t.drop 5).head?.map isXmlBlank).getD false

/-- A whole document.  One that begins with a zero counts as empty. -/
def document : Scan Unit := do
  let text ← remaining
  if text.head?.all (fun (c : CodePoint) => c.val = 0) then fail .emptyDocument
  let alone ← if opensWithDeclaration text then
      expect "<?xml" .emptyDocument
      declaration
    else pure false
  miscellany
  let mut entities : Entities := { alone := alone }
  if ← accept "<!DOCTYPE" then
    entities ← documentType entities
    miscellany
  let opening ← remaining
  expect "<" .startTagExpected
  let progress ← startTag entities {} opening
  content entities progress
  miscellany
  expectEnd .extraContent

end Scan

/-- A text without the byte order mark that it may begin with. -/
def withoutMark (t : Text) : Text :=
  match t with
  | c :: r => if c.val = 0xFEFF then r else c :: r
  | [] => []

/-- The first fault of a text that is no acceptable document.  A byte order mark at its front is
not part of the document. -/
def fault? (text : Text) : Option Fault :=
  match Scan.document {} (withoutMark text) with
  | .ok (_, _, journal) => journal.refusal?
  | .error fault => some fault

/-- The diagnostic of a text that is no acceptable document. -/
def check (text : Text) : Option Diagnostic :=
  (fault? text).map (·.diagnostic (withoutMark text))

end StructuredText.Xml
