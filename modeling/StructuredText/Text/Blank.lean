/-
# Blanks

The code points that count as blank space, and trimming.  The set is the one of Unicode's
white space together with the four information separators.
-/
import StructuredText.Text.CodePoint

namespace StructuredText

/-- A blank: the Unicode white space and the information separators 1C to 1F.  The zero
width space 200B, the Mongolian vowel separator 180E and the byte order mark FEFF are none. -/
def CodePoint.isBlank (c : CodePoint) : Bool :=
  c.between 0x09 0x0D || c.between 0x1C 0x20 || c.val == 0x85 || c.val == 0xA0 ||
    c.val == 0x1680 || c.between 0x2000 0x200A || c.val == 0x2028 || c.val == 0x2029 ||
    c.val == 0x202F || c.val == 0x205F || c.val == 0x3000

namespace Text

/-- A text without its leading blanks. -/
def trimStart (t : Text) : Text := t.dropWhile CodePoint.isBlank

/-- A text without its trailing blanks. -/
def trimEnd (t : Text) : Text := (t.reverse.dropWhile CodePoint.isBlank).reverse

/-- A text without the blanks around it. -/
def trim (t : Text) : Text := t.trimStart.trimEnd

/-- A text of blanks only. -/
def isBlank (t : Text) : Bool := t.all CodePoint.isBlank

end Text

end StructuredText
