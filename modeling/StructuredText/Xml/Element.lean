/-
# Elements of XML

Tags, the namespaces and identifiers that they declare and use, and what may stand between
them.  The open elements form a stack, the innermost first; each remembers where it was opened
and which namespace prefixes are known inside it.  Errors about namespaces and identifiers are
only noted.
-/
import StructuredText.Xml.Reference
import StructuredText.Xml.Section
import StructuredText.Xml.UriReference

namespace StructuredText.Xml

/-- An attribute of a start tag. -/
structure Attribute where
  name : QualifiedName
  value : Text

/-- The namespaces bound to prefixes, the innermost first; the default namespace has the
empty prefix. -/
abbrev Scope := List (Text × Text)

/-- The name of a namespace that the standard itself reserves: a scheme, the host of the
standard and a path on it. -/
def reservedNamespace (path : Text) : Text :=
  Text.concat ["http:", "//www.w3.org/", path]

/-- The namespace of the prefix `xml`, which needs no declaration. -/
def xmlNamespace : Text := reservedNamespace "XML/1998/namespace"

/-- The namespace of the prefix `xmlns`. -/
def xmlnsNamespace : Text := reservedNamespace "2000/xmlns/"

/-- The namespace bound to a prefix. -/
def Scope.find (scope : Scope) (space : Text) : Option Text :=
  if space = ("xml" : Text) then some xmlNamespace
  else (List.find? (·.1 = space) scope).map (·.2)

/-- The attributes read so far, the last first, and the namespaces they declare. -/
structure TagState where
  attributes : List Attribute := []
  declared : Scope := []

/-- An element that was opened and not yet closed. -/
structure OpenElement where
  name : QualifiedName
  /-- Where its start tag stands. -/
  opening : Place
  /-- The prefixes known inside. -/
  scope : Scope

/-- How far the elements of a document were read. -/
structure Progress where
  /-- The open elements, the innermost first. -/
  opened : List OpenElement := []
  /-- The identifiers given to elements so far. -/
  identifiers : List Text := []

/-- How many elements may be open inside each other. -/
def maxOpenElements : Nat := 256

/-! ## Namespaces -/

/-- Why a namespace may not be bound to a prefix, the empty one being the default.  Two
namespaces and their prefixes are reserved. -/
def bindingComplaint? (space name : Text) : Option Complaint :=
  if space = ("xml" : Text) then
    if name = xmlNamespace then none
    else some (.namespaceDeclaration "xml namespace prefix mapped to wrong URI")
  else if name = xmlNamespace then
    some (.namespaceDeclaration (if space = [] then "xml namespace URI cannot be the default namespace"
      else "xml namespace URI mapped to wrong prefix"))
  else if space = ("xmlns" : Text) then
    some (.namespaceDeclaration "redefinition of the xmlns prefix is forbidden")
  else if name = xmlnsNamespace then
    some (.namespaceDeclaration "reuse of the xmlns namespace name is forbidden")
  else if name = [] ∧ space ≠ [] then
    some (.namespaceDeclaration (Text.concat ["xmlns:", space, ": Empty XML namespace is not allowed"]))
  else none

/-- The prefix that an attribute declares, the empty one for the default namespace. -/
def declaredPrefix? (name : QualifiedName) : Option Text :=
  if name.space = some ("xmlns" : Text) then some name.base
  else if name.space = none ∧ name.base = ("xmlns" : Text) then some []
  else none

/-- Whether the prefix that a name may have is known. -/
def Scope.knows (scope : Scope) (name : QualifiedName) : Bool :=
  match name.space with
  | none => true
  | some space => (scope.find space).isSome

/-- The complaint about an attribute on an element, if its prefix is not known. -/
def prefixComplaint? (scope : Scope) (element : Text) (a : Attribute) : Option Complaint :=
  match a.name.space with
  | none => none
  | some space =>
    if scope.knows a.name then none else some (.attributePrefix space a.name.base element)

/-- The complaints about attributes that repeat an earlier one, by name or in another prefix of
the same namespace.  `seen` holds the names met before, each with its namespace. -/
def repetitions (scope : Scope) :
    List (Option Text × QualifiedName) → List Attribute → List Complaint
  | _, [] => []
  | seen, a :: rest =>
    let uri := a.name.space.bind scope.find
    if scope.knows a.name then
      match seen.find? fun (space, name) => space = uri ∧ name.base = a.name.base with
      | some (_, name) =>
        (if name.space = a.name.space then .attributeRepeated a.name.written
          else .attributeRepeatedInSpace a.name.base (uri.getD [])) :: repetitions scope seen rest
      | none => repetitions scope ((uri, a.name) :: seen) rest
    else repetitions scope seen rest

/-- The first name in a list that occurs again after its place. -/
def repeatedName? : List QualifiedName → Option QualifiedName
  | [] => none
  | name :: rest => if rest.contains name then some name else repeatedName? rest

/-- The complaint about an element, if its prefix is not known. -/
def elementComplaint? (scope : Scope) (name : QualifiedName) : Option Complaint :=
  match name.space with
  | none => none
  | some space => if scope.knows name then none else some (.elementPrefix space name.base)

/-! ## Identifiers -/

/-- Whether an attribute gives its element an identifier. -/
def Attribute.isIdentifier (a : Attribute) : Bool :=
  a.name.space = some ("xml" : Text) && a.name.base = ("id" : Text)

/-- Whether a text is a name without colons, with blanks around it or not. -/
def isBlankedName (t : Text) : Bool :=
  match t.dropWhile isXmlBlank with
  | [] => false
  | c :: rest => isNameStart c && (rest.dropWhile isNamePart).all isXmlBlank

/-! ## Tags -/

namespace Scan

/-- Notes what there may be to complain about. -/
def noteIf : Option Complaint → Scan Unit
  | some complaint => note complaint
  | none => pure ()

/-- Notes some complaints one after the other. -/
def noteAll (complaints : List Complaint) : Scan Unit := complaints.forM note

/-- What a reference in an attribute value stands for. -/
def referenceInValue (entities : Entities) : Scan Text := do
  match ← reference entities with
  | .plain text => return text
  | .unknown => return []
  | .entity name body => entityInValue entities maxEntityDepth [] name body

/-- The rest of an attribute value up to its quote, with references replaced. -/
def valueUpTo (entities : Entities) (quote : CodePoint) : Scan Text := do
  let read ← loop (fun read c _ =>
    if c = quote then .ok none
    else if c = '<' then .error .lessThanInValue
    else if c = '&' then .ok (some do return (← referenceInValue entities).reverse ++ read)
    else if !isCharacter c then .error .valueCharacter
    else .ok (some (pure ((if isXmlBlank c then (' ' : CodePoint) else c) :: read)))) []
  return read.reverse

/-- An attribute value between quotes. -/
def value (entities : Entities) : Scan Text := do
  let some quote ← peek | fail .valueNotStarted
  if quote = '"' ∨ quote = '\'' then
    skip
    let v ← valueUpTo entities quote
    expect [quote] .valueNotClosed
    return v
  else fail .valueNotStarted

/-- Whether a start tag ends here. -/
def atTagEnd : Scan Bool := do return (← isNext ">") || (← isNext "/>")

/-- Judges the name of a namespace that is bound to a prefix, the empty one being the default.
The default namespace should not be told by a relative reference. -/
def namespaceName (space name : Text) : Scan Unit :=
  match UriReference.ofText? name with
  | none =>
    let spelled := if space = [] then ("xmlns" : Text) else ("xmlns:" : Text) ++ space
    note (.namespaceDeclaration (Text.concat [spelled, ": '", name, "' is not a valid URI"]))
  | some .relative => if space = [] ∧ name ≠ [] then warn else pure ()
  | some .absolute => pure ()

/-- Binds a namespace to a prefix, after the attribute that declares it. -/
def bindNamespace (declaring : QualifiedName) (space name : Text) (declared : Scope) :
    Scan Scope := do
  match bindingComplaint? space name with
  | some complaint =>
    note complaint
    return declared
  | none =>
    if space = ("xml" : Text) then return declared
    namespaceName space name
    if declared.any (·.1 = space) then fail (.attributeRepeated declaring.written)
    return (space, name) :: declared

/-- Warns of an attribute on the treatment of blanks that asks for something unheard of. -/
def blankTreatment (name : QualifiedName) (v : Text) : Scan Unit := do
  if name = ⟨some "xml", "space"⟩ ∧ v ≠ ("default" : Text) ∧ v ≠ ("preserve" : Text) then warn

/-- An attribute whose first code point was just passed. -/
def attributeAfter (entities : Entities) (first : CodePoint) (start : Text) (state : TagState) :
    Scan TagState := do
  let name ← qualifiedNameAfter first start
  let _ ← blanks
  expect "=" (.attributeWithoutValue name.base)
  let _ ← blanks
  let v ← value entities
  blankTreatment name v
  let state ← match declaredPrefix? name with
    | some space => do
      let declared ← bindNamespace name space v state.declared
      pure { state with declared := declared }
    | none => pure { state with attributes := ⟨name, v⟩ :: state.attributes }
  unless ← atTagEnd do
    unless ← blanks do fail .blankBetweenAttributes
  return state

/-- The attributes of a start tag. -/
def attributes (entities : Entities) : Scan TagState :=
  loop (fun state c r =>
    if c = '>' ∨ (c = '/' ∧ Text.isPrefixOf ">" r) ∨ c.val < 0x20 then .ok none
    else if isColonNameStart c then .ok (some (attributeAfter entities c (c :: r) state))
    else .error .attributeNameExpected) {}

/-- Judges the names of the attributes on an element.  One that repeats an earlier name cannot
be passed over; one that does so in another prefix can. -/
def attributeNames (scope : Scope) (element : Text) (attributes : List Attribute) :
    Scan Unit := do
  noteAll (attributes.filterMap (prefixComplaint? scope element))
  let complaints := repetitions scope [] attributes
  complaints.forM fun
    | .attributeRepeated name => fail (.attributeRepeated name)
    | complaint => note complaint
  if 1 < complaints.length then
    match repeatedName? ((attributes.map (·.name)).filter (·.space.isSome)) with
    | some name => fail (.attributeRepeated name.written)
    | none => pure ()

/-- Judges the identifiers that an element is given, and adds them to those of the document. -/
def identifiers (given : List Text) : List Text → Scan (List Text)
  | [] => return given
  | identifier :: rest => do
    unless isBlankedName identifier do note (.identifierNotName identifier)
    if given.contains identifier then note (.identifierRepeated identifier)
    identifiers (identifier :: given) rest

/-- A start tag after its opening bracket.  The new element is open afterwards unless its tag
closes it. -/
def startTag (entities : Entities) (progress : Progress) (opening : Text) : Scan Progress := do
  if maxOpenElements ≤ progress.opened.length then fail (.tooDeep maxOpenElements)
  let place ← placeBefore opening
  let some name ← qualifiedName | fail .elementNameExpected
  let _ ← blanks
  let state ← attributes entities
  let outer := (progress.opened.head?.map (·.scope)).getD []
  let scope := state.declared ++ outer
  let attributes := state.attributes.reverse
  attributeNames scope name.base attributes
  noteIf (elementComplaint? scope name)
  let given ← identifiers progress.identifiers
    ((attributes.filter Attribute.isIdentifier).map (·.value))
  if ← accept "/>" then return { progress with identifiers := given }
  expect ">" (.startTagNotClosed name.base place)
  return ⟨⟨name, place, scope⟩ :: progress.opened, given⟩

/-- The name in an end tag, read the way the element's own name was written, with the part of
it that is told when it is the wrong one. -/
def endName (element : QualifiedName) : Scan (Option (Text × Text)) := do
  match element.space with
  | none => return (← plainName).map fun name => (name, name)
  | some _ => return (← qualifiedName).map fun name => (name.written, name.base)

/-- An end tag after its opening mark.  Where it names its element at once, the columns after it
count the bytes of the name. -/
def endTag (element : OpenElement) : Scan Unit := do
  let written := element.name.written
  let found ← endName element.name
  if found.map (·.1) = some written then
    match ← peek with
    | some c => if c = '>' ∨ isXmlBlank c then countBytes written
    | none => pure ()
  let _ ← blanks
  expect ">" .endTagNotClosed
  match found with
  | none => fail (.endTagMismatch element.name.base element.opening "unparsable")
  | some (name, told) =>
    unless name = written do fail (.endTagMismatch element.name.base element.opening told)

/-- Markup in content, after its opening bracket. -/
def markup (entities : Entities) (progress : Progress) (opening : Text) : Scan Progress := do
  if ← accept "?" then instruction; return progress
  else if ← accept "!--" then comment; return progress
  else if ← accept "![CDATA[" then literalSection; return progress
  else if ← accept "/" then
    match progress.opened with
    | [] => fail .entityNotBalanced
    | innermost :: others =>
      endTag innermost
      return { progress with opened := others }
  else startTag entities progress opening

/-- A character of content that needs no closer look. -/
def isPlain (c : CodePoint) : Bool := isCharacter c && c != '<' && c != '&' && c != ']'

/-- Content up to the end of the outermost open element, or of the entity that it makes up.
`follow` reads an entity to which a reference leads. -/
def contentWith (isEntity : Bool) (follow : Text → EntityBody → Progress → Scan Progress)
    (entities : Entities) (progress : Progress) : Scan Progress := do
  let left ← loop (fun progress c r =>
    if progress.opened.isEmpty && (!isEntity || Text.isPrefixOf "</" (c :: r)) then .ok none
    else if c = '<' then .ok (some (markup entities progress (c :: r)))
    else if c = '&' then
      .ok (some do
        match ← reference entities with
        | .entity name body => follow name body progress
        | _ => return progress)
    else if !isCharacter c then .error (characterComplaint .contentCharacter c)
    else if Text.isPrefixOf "]]>" (c :: r) then .error .sectionEndInContent
    else .ok (some do let _ ← takeWhile isPlain; return progress)) progress
  match left.opened with
  | [] => return left
  | innermost :: _ => fail (.elementNotClosed innermost.name.base innermost.opening)

/-- An entity inside content.  Its text has to be content in itself, and is read only at the first
reference to it; the prefixes known around the reference are not known in it.  `inside` names
the entities in which the reference stands, and `depth` tells how many more there may be. -/
def entityInContent (entities : Entities) :
    Nat → List Text → Text → EntityBody → Progress → Scan Progress
  | 0, _, _, _, _ => fail .entitiesTooDeep
  | depth + 1, inside, name, body, progress =>
    match body with
    | .unparsed => fail (.unparsedEntity name)
    | .external => return progress
    | .internal text => do
      if inside.contains name then fail .entityLoop
      let outside : Progress := { progress with opened := [] }
      let read ← readOnce name text (do
        let left ← contentWith true (entityInContent entities depth (name :: inside)) entities
          outside
        expectEnd .entityNotBalanced
        return left) outside
      return { read with opened := progress.opened }

/-- Content up to the end of the outermost open element of the document. -/
def content (entities : Entities) (progress : Progress) : Scan Unit := do
  let _ ← contentWith false (entityInContent entities maxEntityDepth []) entities progress

end Scan

end StructuredText.Xml
