/-
# Upper case

The upper-case form of a text, as far as ASCII letters come of it: the ASCII letters, two
letters that have an ASCII capital, and the ligatures and accented letters that fall apart
into several.  Other code points are left alone, so the form serves to compare with ASCII.
-/
import StructuredText.Text.CodePoint

namespace StructuredText

/-- The upper-case form of a code point. -/
def CodePoint.toUpper (c : CodePoint) : Text :=
  if c.between 0x61 0x7A then [ofNat (c.val - 0x20)]
  else
    match c.val with
    | 0xDF => "SS"
    | 0x131 => "I"
    | 0x149 => "\u02bcN"
    | 0x17F => "S"
    | 0x1F0 => "J\u030c"
    | 0x1E96 => "H\u0331"
    | 0x1E97 => "T\u0308"
    | 0x1E98 => "W\u030a"
    | 0x1E99 => "Y\u030a"
    | 0x1E9A => "A\u02be"
    | 0xFB00 => "FF"
    | 0xFB01 => "FI"
    | 0xFB02 => "FL"
    | 0xFB03 => "FFI"
    | 0xFB04 => "FFL"
    | 0xFB05 => "ST"
    | 0xFB06 => "ST"
    | _ => [c]

/-- The upper-case form of a text. -/
def Text.toUpper (t : Text) : Text := t.flatMap CodePoint.toUpper

end StructuredText
