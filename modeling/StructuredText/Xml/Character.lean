/-
# Characters of XML

Which code points may stand in a document, which are blank, and which make up names.  The
names are those of the fifth edition of XML 1.0.
-/
import StructuredText.Text.Numeral

namespace StructuredText.Xml

/-- A code point that may stand in a document. -/
def isCharacter (c : CodePoint) : Bool :=
  c.val == 0x9 || c.val == 0xA || c.val == 0xD || c.between 0x20 0xD7FF ||
    c.between 0xE000 0xFFFD || c.between 0x10000 0x10FFFF

/-- The four blanks of XML. -/
def isXmlBlank (c : CodePoint) : Bool :=
  c == ' ' || c == '\t' || c == '\n' || c == '\r'

/-- What may begin a name without colons. -/
def isNameStart (c : CodePoint) : Bool :=
  c.isAsciiLetter || c == '_' || c.between 0xC0 0xD6 || c.between 0xD8 0xF6 ||
    c.between 0xF8 0x2FF || c.between 0x370 0x37D || c.between 0x37F 0x1FFF ||
    c.between 0x200C 0x200D || c.between 0x2070 0x218F || c.between 0x2C00 0x2FEF ||
    c.between 0x3001 0xD7FF || c.between 0xF900 0xFDCF || c.between 0xFDF0 0xFFFD ||
    c.between 0x10000 0xEFFFF

/-- What may follow in a name without colons. -/
def isNamePart (c : CodePoint) : Bool :=
  isNameStart c || c == '-' || c == '.' || c.isDigit || c.val == 0xB7 ||
    c.between 0x300 0x36F || c.between 0x203F 0x2040

/-- What may begin a name in which colons count as letters. -/
def isColonNameStart (c : CodePoint) : Bool := isNameStart c || c == ':'

/-- What may follow in a name in which colons count as letters. -/
def isColonNamePart (c : CodePoint) : Bool := isNamePart c || c == ':'

end StructuredText.Xml
