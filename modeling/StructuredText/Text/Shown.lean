/-
# Texts shown in messages

A text between quotes, so that a message shows where it begins and ends.  Quotes are single
unless the text holds single quotes only; what cannot be seen is escaped.
-/
import StructuredText.Text.Numeral
import StructuredText.Text.Visible

namespace StructuredText

/-- Two lower-case hexadecimal digits. -/
def Text.ofHex2 (n : Nat) : Text := [.ofHexDigit (n / 16 % 16), .ofHexDigit (n % 16)]

/-- How a code point is shown between given quotes. -/
def CodePoint.shownIn (quote c : CodePoint) : Text :=
  if c = quote ∨ c = '\\' then ['\\', c]
  else if c = '\n' then "\\n"
  else if c = '\r' then "\\r"
  else if c = '\t' then "\\t"
  else if c.isInvisible then
    if c.val < 0x100 then ("\\x" : Text) ++ Text.ofHex2 c.val
    else if c.val < 0x10000 then ("\\u" : Text) ++ Text.ofHex4 c.val
    else ("\\U" : Text) ++ Text.ofHex4 (c.val / 0x10000) ++ Text.ofHex4 (c.val % 0x10000)
  else [c]

/-- A text between quotes. -/
def Text.shown (t : Text) : Text :=
  let quote : CodePoint :=
    if t.contains ('\'' : CodePoint) && !t.contains ('"' : CodePoint) then '"' else '\''
  quote :: t.flatMap (CodePoint.shownIn quote) ++ [quote]

end StructuredText
