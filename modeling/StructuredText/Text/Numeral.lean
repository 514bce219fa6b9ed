/-
# Decimal numerals

Writing natural numbers and integers in decimal, and the number that a run of digits
stands for.
-/
import StructuredText.Text.CodePoint

namespace StructuredText

namespace CodePoint

/-- The digit of a number below ten. -/
def ofDigit (n : Nat) : CodePoint := ofNat (0x30 + n)

/-- An ASCII digit. -/
def isDigit (c : CodePoint) : Bool := c.between 0x30 0x39

/-- The number that a decimal digit stands for. -/
def digitValue (c : CodePoint) : Nat := c.val - 0x30

/-- The number that a hexadecimal digit stands for, in either case. -/
def hexValue? (c : CodePoint) : Option Nat :=
  if c.between 0x30 0x39 then some (c.val - 0x30)
  else if c.between 0x41 0x46 then some (c.val - 0x41 + 10)
  else if c.between 0x61 0x66 then some (c.val - 0x61 + 10)
  else none

/-- The lower-case hexadecimal digit of a number below sixteen. -/
def ofHexDigit (n : Nat) : CodePoint := ofNat (if n < 10 then 0x30 + n else 0x57 + n)

end CodePoint

namespace Text

/-- Puts the decimal digits of a number in front of a text. -/
def prependDigits (n : Nat) (rest : Text) : Text :=
  if n < 10 then .ofDigit n :: rest
  else prependDigits (n / 10) (.ofDigit (n % 10) :: rest)

/-- A natural number in decimal. -/
def ofNat (n : Nat) : Text := prependDigits n []

/-- An integer in decimal, with a minus sign if it is negative. -/
def ofInt : Int → Text
  | .ofNat n => ofNat n
  | .negSucc n => '-' :: ofNat (n + 1)

/-- The number that a run of decimal digits stands for. -/
def digitsValue (digits : Text) : Nat := digits.foldl (fun n d => 10 * n + d.digitValue) 0

/-- The number that a run of hexadecimal digits stands for. -/
def hexValue? (digits : Text) : Option Nat :=
  digits.foldlM (fun n d => d.hexValue?.map (16 * n + ·)) 0

/-- A number in four lower-case hexadecimal digits. -/
def ofHex4 (n : Nat) : Text :=
  [.ofHexDigit (n / 0x1000 % 16), .ofHexDigit (n / 0x100 % 16), .ofHexDigit (n / 0x10 % 16),
    .ofHexDigit (n % 16)]

end Text

end StructuredText
