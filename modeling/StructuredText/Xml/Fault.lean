/-
# Faults of an XML text

Why a text is no well-formed XML document.  Like its place, the start of an element that a
fault names is mostly told by what is left of the text there, so lines and columns are known
once the whole text is.
-/
import StructuredText.Text.Lines
import StructuredText.Text.Utf8
import StructuredText.Diagnostic

namespace StructuredText.Xml

/-- A place in a text. -/
inductive Place
  /-- The place where this is left of the text. -/
  | before (rest : Text)
  /-- A place with known coordinates. -/
  | known (position : Position)
deriving DecidableEq

/-- The coordinates of a place in a whole text. -/
def Place.position (whole : Text) : Place → Position
  | before rest => .ofRest whole rest
  | known position => position

/-- What is wrong at a place. -/
inductive Complaint
  /- The declaration. -/
  | emptyDocument
  | versionExpected
  | equalsExpected
  | stringNotStarted
  | stringNotClosed
  | unsupportedVersion (version : Text)
  | blankExpected
  | encodingName
  | standaloneValue
  | declarationNotClosed
  /- The document type. -/
  | documentType
  | typeDeclaration (explanation : Text)
  | colonInEntity (entity : Text)
  /- Around the root element. -/
  | startTagExpected
  | extraContent
  /- Processing instructions and comments. -/
  | targetExpected
  | misplacedDeclaration
  | reservedTarget
  | colonInTarget (target : Text)
  | blankAfterTarget (target : Text)
  | instructionNotClosed (target : Text)
  | commentNotClosed
  | commentCutShort (before : Text)
  | doubleHyphen (before : Text)
  | doubleHyphenPassed
  | commentCharacter (number : Nat)
  | sectionNotClosed
  | sectionCutShort (before : Text)
  | zeroCharacter
  /- Tags. -/
  | malformedName (name : Text)
  | elementNameExpected
  | attributeNameExpected
  | attributeWithoutValue (name : Text)
  | blankBetweenAttributes
  | valueNotStarted
  | valueNotClosed
  | lessThanInValue
  | valueCharacter
  | namespaceDeclaration (explanation : Text)
  | attributePrefix (space name element : Text)
  | attributeRepeated (name : Text)
  | attributeRepeatedInSpace (name space : Text)
  | elementPrefix (space element : Text)
  | identifierNotName (identifier : Text)
  | identifierRepeated (identifier : Text)
  | startTagNotClosed (element : Text) (opening : Place)
  | endTagNotClosed
  | endTagMismatch (element : Text) (opening : Place) (found : Text)
  | tooDeep (levels : Nat)
  /- Content. -/
  | elementNotClosed (element : Text) (opening : Place)
  | sectionEndInContent
  | contentCharacter (number : Nat)
  /- References. -/
  | entityNameExpected
  | semicolonExpected
  | undefinedEntity (name : Text)
  | unparsedEntity (name : Text)
  | externalEntityInValue (name : Text)
  | lessThanInEntity (name : Text)
  | entityLoop
  | entityNotBalanced
  | entitiesTooDeep
  | entitiesTooLong
  | decimalDigitExpected
  | hexadecimalDigitExpected
  | referenceOutOfBounds
  | referenceToCharacter (number : Nat)
deriving DecidableEq

/-- A complaint with its place. -/
structure Fault where
  complaint : Complaint
  place : Place
  /-- How many columns the place is counted ahead, or behind if negative. -/
  ahead : Int := 0
deriving DecidableEq

/-- The line on which something in a whole text starts. -/
def lineText (whole : Text) (opening : Place) : Text := Text.ofNat (opening.position whole).line

/-- How many bytes of a comment or a section are quoted. -/
def maxExcerptBytes : Nat := 50

/-- The first bytes of a text, as a message quotes them.  Where the cut goes through a code
point, every byte beyond ASCII is written as a number. -/
def excerpt (t : Text) : Text :=
  let bytes := (t.flatMap Utf8.encodeCodePoint).take maxExcerptBytes
  match Utf8.decode bytes with
  | .ok quoted => quoted
  | .error _ => bytes.flatMap fun b =>
    if b < 0x80 then [.ofNat b.toNat]
    else Text.concat ["\\x", [.ofHexDigit (b.toNat / 16), .ofHexDigit (b.toNat % 16)]]

/-- The wording of a complaint about the whole text. -/
def Complaint.message (whole : Text) : Complaint → Text
  | emptyDocument => "Document is empty"
  | versionExpected => "Malformed declaration expecting version"
  | equalsExpected => "expected '='"
  | stringNotStarted => "String not started expecting ' or \""
  | stringNotClosed => "String not closed expecting \" or '"
  | unsupportedVersion version => Text.concat ["Unsupported version '", version, "'"]
  | blankExpected => "Blank needed here"
  | encodingName => "Invalid XML encoding name"
  | standaloneValue => "standalone accepts only 'yes' or 'no'"
  | declarationNotClosed => "parsing XML declaration: '?>' expected"
  | documentType => "DOCTYPE improperly terminated"
  | typeDeclaration explanation => explanation
  | colonInEntity entity => Text.concat ["colons are forbidden from entities names '", entity, "'"]
  | startTagExpected => "Start tag expected, '<' not found"
  | extraContent => "Extra content at the end of the document"
  | targetExpected => "xmlParsePI : no target name"
  | misplacedDeclaration => "XML declaration allowed only at the start of the document"
  | reservedTarget => "Invalid PI name"
  | colonInTarget target => Text.concat ["colons are forbidden from PI names '", target, "'"]
  | blankAfterTarget target => Text.concat ["ParsePI: PI ", target, " space expected"]
  | instructionNotClosed target => Text.concat ["ParsePI: PI ", target, " never end ..."]
  | commentNotClosed => "Comment not terminated"
  | commentCutShort before => ("Comment not terminated \n<!--" : Text) ++ excerpt before
  | doubleHyphen [] => "Double hyphen within comment"
  | doubleHyphen before => ("Double hyphen within comment: <!--" : Text) ++ excerpt before
  | doubleHyphenPassed => "Comment must not contain '--' (double-hyphen)"
  | commentCharacter number =>
    ("xmlParseComment: invalid xmlChar value " : Text) ++ Text.ofNat number
  | sectionNotClosed => "CData section not finished"
  | sectionCutShort before => ("CData section not finished\n" : Text) ++ excerpt before
  | zeroCharacter => "Invalid character: Char 0x0 out of allowed range\n"
  | malformedName name => Text.concat ["Failed to parse QName '", name, "'"]
  | elementNameExpected => "StartTag: invalid element name"
  | attributeNameExpected => "error parsing attribute name"
  | attributeWithoutValue name =>
    ("Specification mandates value for attribute " : Text) ++ name
  | blankBetweenAttributes => "attributes construct error"
  | valueNotStarted => "AttValue: \" or ' expected"
  | valueNotClosed => "AttValue: ' expected"
  | lessThanInValue => "Unescaped '<' not allowed in attributes values"
  | valueCharacter => "invalid character in attribute value"
  | namespaceDeclaration explanation => explanation
  | attributePrefix space name element =>
    Text.concat ["Namespace prefix ", space, " for ", name, " on ", element,
      " is not defined"]
  | attributeRepeated name => Text.concat ["Attribute ", name, " redefined"]
  | attributeRepeatedInSpace name space =>
    Text.concat ["Namespaced Attribute ", name, " in '", space, "' redefined"]
  | elementPrefix space element =>
    Text.concat ["Namespace prefix ", space, " on ", element, " is not defined"]
  | identifierNotName identifier =>
    Text.concat ["xml:id : attribute value ", identifier, " is not an NCName"]
  | identifierRepeated identifier => Text.concat ["ID ", identifier, " already defined"]
  | startTagNotClosed element opening =>
    Text.concat ["Couldn't find end of Start Tag ", element, " line ", lineText whole opening]
  | endTagNotClosed => "expected '>'"
  | endTagMismatch element opening found =>
    Text.concat ["Opening and ending tag mismatch: ", element, " line ", lineText whole opening,
      " and ", found]
  | tooDeep levels =>
    Text.concat ["Excessive depth in document: ", Text.ofNat levels, " use XML_PARSE_HUGE option"]
  | elementNotClosed element opening =>
    Text.concat ["Premature end of data in tag ", element, " line ", lineText whole opening]
  | sectionEndInContent => "Sequence ']]>' not allowed in content"
  | contentCharacter number => ("PCDATA invalid Char value " : Text) ++ Text.ofNat number
  | entityNameExpected => "xmlParseEntityRef: no name"
  | semicolonExpected => "EntityRef: expecting ';'"
  | undefinedEntity name => Text.concat ["Entity '", name, "' not defined"]
  | unparsedEntity name => ("Entity reference to unparsed entity " : Text) ++ name
  | externalEntityInValue name =>
    Text.concat ["Attribute references external entity '", name, "'"]
  | lessThanInEntity name =>
    Text.concat ["'<' in entity '", name, "' is not allowed in attributes values"]
  | entityLoop => "Detected an entity reference loop"
  | entityNotBalanced => "chunk is not well balanced"
  | entitiesTooDeep => "Maximum entity nesting depth exceeded"
  | entitiesTooLong =>
    "Maximum entity amplification factor exceeded, see xmlCtxtSetMaxAmplification."
  | decimalDigitExpected => "CharRef: invalid decimal value"
  | hexadecimalDigitExpected => "CharRef: invalid hexadecimal value"
  | referenceOutOfBounds => "xmlParseCharRef: character reference out of bounds"
  | referenceToCharacter number =>
    ("xmlParseCharRef: invalid xmlChar value " : Text) ++ Text.ofNat number

/-- The fault as a diagnostic about the whole text. -/
def Fault.diagnostic (whole : Text) (fault : Fault) : Diagnostic where
  subject := .xml
  message := fault.complaint.message whole
  line := some (fault.place.position whole).line
  column := some ((fault.place.position whole).column + fault.ahead)

end StructuredText.Xml
