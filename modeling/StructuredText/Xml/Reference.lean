/-
# References in XML

References to characters by number and to entities by name.  Five entities need no
declaration.  Where declarations may stand outside the document, a name without one is let
pass with a warning.
-/
import StructuredText.Xml.Name

namespace StructuredText.Xml

/-- What an entity stands for. -/
inductive EntityBody
  /-- A text that the document gives. -/
  | internal (text : Text)
  /-- A text that stands outside the document and is not read. -/
  | external
  /-- Something that is no text. -/
  | unparsed

/-- The entities that references may name. -/
structure Entities where
  /-- The entities that the document declares; of two with one name the first counts. -/
  declared : List (Text × EntityBody) := []
  /-- The entities that only document types refer to. -/
  parameters : List (Text × EntityBody) := []
  /-- Whether there may be declarations elsewhere. -/
  elsewhere : Bool := false
  /-- Whether the document claims to stand alone, so that such declarations do not count. -/
  alone : Bool := false

/-- The entities that need no declaration. -/
def standardEntities : List (Text × Text) :=
  [("lt", "<"), ("gt", ">"), ("amp", "&"), ("quot", "\""), ("apos", "'")]

/-- What a reference leads to. -/
inductive Referent
  /-- A text that is taken as it is. -/
  | plain (text : Text)
  | entity (name : Text) (body : EntityBody)
  /-- An entity that may be declared elsewhere. -/
  | unknown

/-- What the name of an entity leads to. -/
def Entities.referent? (e : Entities) (name : Text) : Option Referent :=
  match standardEntities.find? (·.1 = name) with
  | some (_, text) => some (.plain text)
  | none =>
    match e.declared.find? (·.1 = name) with
    | some (_, body) => some (.entity name body)
    | none => if e.elsewhere && !e.alone then some .unknown else none

/-- How many entities may be read inside each other. -/
def maxEntityDepth : Nat := 20

namespace Scan

/-- The character of a number, which has to be one of XML. -/
def numberedCharacter (n : Nat) : Scan Text :=
  if h : n < 0x110000 then
    if isCharacter ⟨n, h⟩ then pure [⟨n, h⟩] else fail (.referenceToCharacter n)
  else fail .referenceOutOfBounds

/-- The number of a character after the ampersand and the number sign of a reference. -/
def characterNumber : Scan Text := do
  if ← accept "x" then
    let digits ← takeWhile fun c => c.hexValue?.isSome
    expect ";" .hexadecimalDigitExpected
    numberedCharacter ((Text.hexValue? digits).getD 0)
  else
    let digits ← takeWhile CodePoint.isDigit
    expect ";" .decimalDigitExpected
    numberedCharacter (Text.digitsValue digits)

/-- The name of an entity after the ampersand of a reference. -/
def referenceName : Scan Text := do
  let some name ← plainName | fail .entityNameExpected
  expect ";" .semicolonExpected
  return name

/-- A reference after its ampersand, with what it leads to. -/
def reference (entities : Entities) : Scan Referent := do
  if ← accept "#" then return .plain (← characterNumber)
  let name ← referenceName
  match entities.referent? name with
  | none => fail (.undefinedEntity name)
  | some .unknown =>
    warn
    return .unknown
  | some referent => return referent

/-- The text of an entity inside an attribute value, in which it must not hold markup.  `inside`
names the entities in which the reference stands, and `depth` tells how many more there may
be. -/
def entityInValue (entities : Entities) : Nat → List Text → Text → EntityBody → Scan Text
  | 0, _, _, _ => fail .entitiesTooDeep
  | depth + 1, inside, name, body =>
    match body with
    | .unparsed => fail (.unparsedEntity name)
    | .external => fail (.externalEntityInValue name)
    | .internal text => do
      if inside.contains name then fail .entityLoop
      charge (Utf8.byteCount text + Journal.referenceCost)
      let read ← again text (loop (fun read c _ =>
        if c = '<' then .error (.lessThanInEntity name)
        else if c = '&' then
          .ok (some do
            match ← reference entities with
            | .plain t => return t.reverse ++ read
            | .unknown => return read
            | .entity other body =>
              return (← entityInValue entities depth (name :: inside) other body).reverse ++ read)
        else .ok (some (pure (c :: read)))) [])
      return read.reverse

end Scan

end StructuredText.Xml
