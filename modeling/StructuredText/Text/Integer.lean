/-
# Integers in words of a command

Reading an integer leniently: blanks around it, a sign, leading zeros, and low lines between
digits are allowed, and the decimal digits of every script count.  The information separators
are no blanks here.
-/
import StructuredText.Text.Blank
import StructuredText.Text.Numeral

namespace StructuredText

/-- The zeros of the scripts that have decimal digits, each followed by its nine others. -/
def decimalZeros : List Nat := [
  0x30, 0x660, 0x6F0, 0x7C0, 0x966, 0x9E6, 0xA66, 0xAE6, 0xB66, 0xBE6, 0xC66, 0xCE6, 0xD66,
  0xDE6, 0xE50, 0xED0, 0xF20, 0x1040, 0x1090, 0x17E0, 0x1810, 0x1946, 0x19D0, 0x1A80, 0x1A90,
  0x1B50, 0x1BB0, 0x1C40, 0x1C50, 0xA620, 0xA8D0, 0xA900, 0xA9D0, 0xA9F0, 0xAA50, 0xABF0,
  0xFF10, 0x104A0, 0x10D30, 0x11066, 0x110F0, 0x11136, 0x111D0, 0x112F0, 0x11450, 0x114D0,
  0x11650, 0x116C0, 0x11730, 0x118E0, 0x11950, 0x11C50, 0x11D50, 0x11DA0, 0x16A60, 0x16AC0,
  0x16B50, 0x1D7CE, 0x1D7D8, 0x1D7E2, 0x1D7EC, 0x1D7F6, 0x1E140, 0x1E2F0, 0x1E950, 0x1FBF0]

/-- The number that a decimal digit of any script stands for. -/
def CodePoint.anyDigitValue? (c : CodePoint) : Option Nat :=
  (decimalZeros.find? fun first => c.between first (first + 9)).map (c.val - ·)

/-- The value of digits with single low lines between them. -/
def Text.spacedDigits? (value : Nat) : Text → Option Nat
  | [] => some value
  | c :: rest =>
    match c.anyDigitValue? with
    | some d => spacedDigits? (10 * value + d) rest
    | none =>
      match rest with
      | [] => none
      | next :: rest' =>
        if c = '_' then
          next.anyDigitValue?.bind fun d => spacedDigits? (10 * value + d) rest'
        else none

/-- The value of digits that begin with a digit. -/
def Text.natural? : Text → Option Nat
  | [] => none
  | c :: rest => c.anyDigitValue?.bind fun d => spacedDigits? d rest

/-- A blank that may stand around an integer. -/
def CodePoint.isIntegerBlank (c : CodePoint) : Bool := c.isBlank && !c.between 0x1C 0x1F

/-- The integer that a text stands for. -/
def Text.integer? (t : Text) : Option Int :=
  let trimmed := t.dropWhile CodePoint.isIntegerBlank
  match (trimmed.reverse.dropWhile CodePoint.isIntegerBlank).reverse with
  | [] => none
  | c :: rest =>
    if c = '-' then (natural? rest).map fun n => -(n : Int)
    else if c = '+' then (natural? rest).map fun n => (n : Int)
    else (natural? (c :: rest)).map fun n => (n : Int)

end StructuredText
