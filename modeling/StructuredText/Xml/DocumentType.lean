/-
# Document types

The part of a document that may stand before its root element and declare entities.  Of the
other declarations no more is read than where they end.
-/
import StructuredText.Xml.Reference
import StructuredText.Xml.Section

namespace StructuredText.Xml.Scan

/-- Passes blanks, of which there has to be one. -/
def requiredBlanks (explanation : Text) : Scan Unit := do
  unless ← blanks do fail (.typeDeclaration explanation)

/-- A quote, which is passed. -/
def literalQuote (explanation : Text) : Scan CodePoint := do
  match ← peek with
  | some c => if c = '"' ∨ c = '\'' then skip; return c else fail (.typeDeclaration explanation)
  | none => fail (.typeDeclaration explanation)

/-- A code point that a public identifier may hold. -/
def isPublicCharacter (c : CodePoint) : Bool :=
  c.isAsciiLetter || c.isDigit || (" \r\n-'()+,./:=?;!*#@$_%" : Text).contains c

/-- The name of something outside the document, made of code points of a class. -/
def externalName (p : CodePoint → Bool) : Scan Unit := do
  let quote ← literalQuote "SystemLiteral \" or ' expected"
  let _ ← takeWhile fun c => p c && c != quote
  expect [quote] (.typeDeclaration "Unfinished System or Public ID \" or ' expected")

/-- The place of something outside the document, if one is told. -/
def externalPlace : Scan Bool := do
  if ← accept "SYSTEM" then
    requiredBlanks "Space required after 'SYSTEM'"
    externalName isCharacter
    return true
  else if ← accept "PUBLIC" then
    requiredBlanks "Space required after 'PUBLIC'"
    externalName isPublicCharacter
    requiredBlanks "Space required after the Public Identifier"
    externalName isCharacter
    return true
  else return false

/-! ## Entities -/

/-- The complaint about a mark in the text of an entity that begins no reference. -/
def forbiddenMark (mark : CodePoint) : Complaint :=
  .typeDeclaration (Text.concat ["EntityValue: '", [mark],
    "' forbidden except for entities references"])

/-- The text of an entity, which is all that is left.  References to characters are replaced at
once, those to entities stay; a percent sign may only begin a reference, which is refused here. -/
def entityText : Scan Text := do
  let read ← loop (fun read c _ =>
    if c = '&' then
      .ok (some do
        if ← accept "#" then return (← characterNumber).reverse ++ read
        let some name ← plainName | fail (forbiddenMark '&')
        expect ";" (forbiddenMark '&')
        return Text.concat [";", name.reverse, "&", read])
    else if c = '%' then
      .ok (some do
        let some _ ← plainName | fail (forbiddenMark '%')
        expect ";" (forbiddenMark '%')
        fail (.typeDeclaration "PEReference forbidden in internal subset"))
    else if isCharacter c then .ok (some (pure (c :: read)))
    else .error (.typeDeclaration "invalid character in entity value")) []
  return read.reverse

/-- What a declared entity stands for.  Where its text is given, the quote before it takes no
column, and the text takes one for each byte. -/
def entityBody : Scan EntityBody := do
  match ← peek with
  | some quote =>
    if quote = '"' ∨ quote = '\'' then
      skip
      moveColumns (-1)
      let literal ← takeWhile fun c => c != quote
      countBytes literal
      unless ← isNext [quote] do fail (.typeDeclaration "EntityValue: \" or ' expected")
      let text ← again literal entityText
      skip
      return .internal text
  | none => pure ()
  unless ← externalPlace do fail (.typeDeclaration "Entity value required")
  if ← isNext ">" then return .external
  requiredBlanks "Space required before 'NDATA'"
  unless ← accept "NDATA" do return .external
  requiredBlanks "Space required after 'NDATA'"
  let _ ← plainName
  return .unparsed

/-- The name of an entity that is declared, with the blanks after it.  A colon in it is noted. -/
def entityName : Scan Text := do
  let some name ← plainName | fail (.typeDeclaration "xmlParseEntityDecl: no name")
  if name.contains (':' : CodePoint) then note (.colonInEntity name)
  requiredBlanks "Space required after the entity name"
  return name

/-- Whether a text stands for a character that needs no declaration as an entity: the character
itself, if it is no markup, or its number. -/
def standsFor (c : CodePoint) (text : Text) : Bool :=
  (text == [c] && c != '<' && c != '&') || text == Text.concat ["&#", Text.ofNat c.val, ";"] ||
    (Text.isPrefixOf "&#x" text && (text.drop 3).map CodePoint.toAsciiLower ==
      ([.ofHexDigit (c.val / 16), .ofHexDigit (c.val % 16), ';'] : Text))

/-- Whether an entity that needs no declaration is declared as something else. -/
def misdeclares (name : Text) (body : EntityBody) : Bool :=
  match standardEntities.find? (·.1 = name), body with
  | some (_, character), .internal text => !character.all fun c => standsFor c text
  | some _, _ => true
  | none, _ => false

/-- The declaration of an entity after its keyword. -/
def entityDeclaration (entities : Entities) : Scan Entities := do
  requiredBlanks "Space required after '<!ENTITY'"
  let isParameter ← accept "%"
  if isParameter then requiredBlanks "Space required after '%'"
  let name ← entityName
  let body ← entityBody
  if !isParameter && misdeclares name body then
    fail (.typeDeclaration "Invalid redeclaration of predefined entity")
  let _ ← blanks
  expect ">" (.typeDeclaration (Text.concat ["xmlParseEntityDecl: entity ", name, " not terminated"]))
  if isParameter then
    return { entities with parameters := entities.parameters ++ [(name, body)] }
  return { entities with declared := entities.declared ++ [(name, body)] }

/-! ## Declarations -/

/-- The rest of a declaration; brackets inside quotes do not count. -/
def declarationRest : Scan Unit := do
  loop (fun _ c _ =>
    if c = '>' then .ok none
    else if c = '"' ∨ c = '\'' then
      .ok (some do
        let _ ← takeWhile fun d => d != c
        expect [c] .documentType)
    else .ok (some (pure ()))) ()
  expect ">" .documentType

/-- A declaration, an instruction or a comment after its opening bracket. -/
def typeMarkup (entities : Entities) : Scan Entities := do
  if ← accept "?" then instruction; return entities
  else if ← accept "!--" then comment; return entities
  else if ← accept "!ENTITY" then entityDeclaration entities
  else
    unless ← acceptAny ["!ELEMENT", "!ATTLIST", "!NOTATION"] do fail .documentType
    declarationRest
    return entities

/-- The name in a reference that only document types know, after its percent sign. -/
def parameterName : Scan Text := do
  let some name ← plainName | fail (.typeDeclaration "PEReference: no name")
  expect ";" (.typeDeclaration "PEReference: expecting ';'")
  return name

/-- The declarations inside a document type, up to the closing bracket.  References stand for
more of them.  `inside` names the entities in which a reference stands, and `depth` tells how
many more there may be. -/
def declarations : Nat → List Text → Entities → Scan Entities
  | 0, _, _ => fail .entitiesTooDeep
  | depth + 1, inside, entities =>
    loop (fun entities c _ =>
      if c = ']' then .ok none
      else if isXmlBlank c then .ok (some (pure entities))
      else if c = '%' then
        .ok (some do
          let name ← parameterName
          let entities := { entities with elsewhere := true }
          match entities.parameters.find? (·.1 = name) with
          | some (_, .internal text) =>
            if inside.contains name then fail .entityLoop
            charge (Utf8.byteCount text + Journal.referenceCost)
            within text do
              let entities ← declarations depth (name :: inside) entities
              unless (← remaining).isEmpty do fail .documentType
              return entities
          | some _ => return entities
          | none =>
            if entities.alone then fail (.undefinedEntity name)
            warn
            return entities)
      else if c = '<' then .ok (some (typeMarkup entities))
      else .error .documentType) entities

/-- The document type after its keyword, with the entities that it declares beside those known
before. -/
def documentType (entities : Entities) : Scan Entities := do
  requiredBlanks "Space required after 'DOCTYPE'"
  let some _ ← plainName | fail (.typeDeclaration "xmlParseDocTypeDecl : no DOCTYPE name !")
  let _ ← blanks
  let elsewhere ← externalPlace
  let _ ← blanks
  let mut entities : Entities := { entities with elsewhere := elsewhere }
  if ← accept "[" then
    entities ← declarations maxEntityDepth [] entities
    expect "]" .documentType
    let _ ← blanks
  expect ">" .documentType
  return entities

end StructuredText.Xml.Scan
