/-
# Comments, instructions and literal sections

The parts of an XML text in which neither tags nor references are looked for.  Each runs up
to its own end mark.
-/
import StructuredText.Xml.Name

namespace StructuredText.Xml.Scan

/-- The complaint about a code point that is no character; a zero has its own. -/
def characterComplaint (complaint : Nat → Complaint) (c : CodePoint) : Complaint :=
  if c.val = 0 then .zeroCharacter else complaint c.val

/-- Passes characters up to a mark, another illegal code point than a zero, or the end, and
gives them with their line ends in one spelling. -/
def upTo (mark : Text) : Scan Text := do
  let read ← loop (fun (read : Text) c r =>
    if c.val = 0 then .error .zeroCharacter
    else if mark.isPrefixOf (c :: r) || !isCharacter c then .ok none
    else .ok (some (pure (c :: read)))) []
  return Text.unifyLineEnds read.reverse

/-- Whether a comment may go on with a code point and still be read as ASCII: a carriage return
only as part of a line end. -/
def isPlainInComment (c : CodePoint) (r : Text) : Bool :=
  c.between 0x20 0x7F || c == '\t' || c == '\n' || (c == '\r' && Text.isPrefixOf "\n" r)

/-- Passes a comment as far as it is ASCII.  Two hyphens may only stand at its end, and are
refused where they stand. -/
def plainComment (start : Text) : Scan Unit :=
  loop (fun _ c r =>
    if Text.isPrefixOf "--" (c :: r) then
      if Text.isPrefixOf "-->" (c :: r) then .ok none
      else .error (.doubleHyphen
        (Text.unifyLineEnds (start.take (start.length - (c :: r).length))))
    else if isPlainInComment c r then .ok (some (pure ()))
    else .ok none) ()

/-- Passes the rest of a comment from a place where it is no ASCII, and gives what it passed.
Here two hyphens are refused behind the second. -/
def wideComment : Scan Text := do
  let read ← loop (fun (read : Text) c _ =>
    if !isCharacter c then .error (characterComplaint .commentCharacter c)
    else if Text.isPrefixOf "--" read then
      if c = '>' then .ok none else .error .doubleHyphenPassed
    else .ok (some (pure (c :: read)))) []
  return read.reverse

/-- A comment after its opening mark. -/
def comment : Scan Unit := do
  let start ← remaining
  plainComment start
  unless ← accept "-->" do
    let rest ← remaining
    let wide := Text.unifyLineEnds (← wideComment)
    unless ← accept ">" do
      if wide.length ≤ 2 then fail .commentNotClosed
      let before := Text.unifyLineEnds (start.take (start.length - rest.length))
      fail (.commentCutShort (before ++ wide.take (wide.length - 2)))

/-- Whether the target of an instruction claims to belong to XML itself without being one of
those that do. -/
def isReservedTarget (name : Text) : Bool :=
  (name.take 3).map CodePoint.toAsciiLower == ("xml" : Text) &&
    name != ("xml-stylesheet" : Text) && name != ("xml-model" : Text)

/-- The target of a processing instruction.  The name of the declaration is reserved, in any
case of its letters. -/
def target : Scan Text := do
  let some name ← plainName | fail .targetExpected
  if name = ("xml" : Text) then fail .misplacedDeclaration
  if name.map CodePoint.toAsciiLower = ("xml" : Text) then fail .reservedTarget
  if isReservedTarget name then warn
  if name.contains (':' : CodePoint) then note (.colonInTarget name)
  return name

/-- A processing instruction after its opening mark. -/
def instruction : Scan Unit := do
  let name ← target
  unless ← accept "?>" do
    unless ← blanks do fail (.blankAfterTarget name)
    let _ ← upTo "?>"
    expect "?>" (.instructionNotClosed name)

/-- A literal section after its opening mark.  If it is not closed, all but its last two
characters are quoted. -/
def literalSection : Scan Unit := do
  let read ← upTo "]]>"
  expect "]]>" (if read.length < 2 then .sectionNotClosed
    else .sectionCutShort (read.take (read.length - 2)))

/-- Passes blanks, comments and processing instructions. -/
def miscellany : Scan Unit :=
  loop (fun _ c r =>
    if isXmlBlank c then .ok (some (pure ()))
    else if c = '<' ∧ Text.isPrefixOf "?" r then .ok (some do skip; instruction)
    else if c = '<' ∧ Text.isPrefixOf "!--" r then .ok (some do expect "!--" .commentNotClosed; comment)
    else .ok none) ()

end StructuredText.Xml.Scan
