/-
# Names in XML

Reading names: plain ones, in which a colon counts as a letter, and qualified ones, in which
it separates a namespace prefix from the rest.
-/
import StructuredText.Xml.Scan

namespace StructuredText.Xml

/-- A name with the namespace prefix that it may have. -/
structure QualifiedName where
  space : Option Text
  base : Text
deriving DecidableEq

/-- The name as it is written. -/
def QualifiedName.written (n : QualifiedName) : Text :=
  match n.space with
  | none => n.base
  | some space => space ++ (":" : Text) ++ n.base

namespace Scan

/-- A name made of code points of some classes, if one comes next. -/
def nameOf (start part : CodePoint → Bool) : Scan (Option Text) := do
  match ← peek with
  | some c => if start c then return some (← takeWhile part) else return none
  | none => return none

/-- A name in which colons count as letters. -/
def plainName : Scan (Option Text) := nameOf isColonNameStart isColonNamePart

/-- The rest of what was meant as a qualified name and began with `start`.  It is noted, and
stands as a name without prefix. -/
def malformedName (start : Text) : Scan QualifiedName := do
  let _ ← takeWhile isColonNamePart
  let rest ← remaining
  let name := start.take (start.length - rest.length)
  note (.malformedName name)
  return ⟨none, name⟩

/-- A qualified name whose first code point, which may be a colon, was just passed.  `start`
is the text from there on. -/
def qualifiedNameAfter (first : CodePoint) (start : Text) : Scan QualifiedName := do
  if first = ':' then malformedName start
  else
    let name := first :: (← takeWhile isNamePart)
    if ← accept ":" then
      match ← nameOf isNameStart isNamePart with
      | none => malformedName start
      | some base =>
        if ← isNext ":" then malformedName start
        else return ⟨some name, base⟩
    else return ⟨none, name⟩

/-- A qualified name, if one comes next. -/
def qualifiedName : Scan (Option QualifiedName) := do
  match ← peek with
  | some c =>
    if isColonNameStart c then
      let start ← remaining
      skip
      return some (← qualifiedNameAfter c start)
    else return none
  | none => return none

end Scan

end StructuredText.Xml
