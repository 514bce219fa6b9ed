/-
# Double precision numbers

The 64-bit binary floating point numbers, exactly, without any machine arithmetic.  A
finite magnitude is its pattern of exponent and fraction bits, read as a natural number:
larger patterns are larger magnitudes.  Every magnitude is a whole number of units of
`2 ^ (-1074)`.

* `Magnitude.units` is the magnitude in those units;
* `Magnitude.nearest?` rounds a quotient to the nearest magnitude, ties to the even one;
* `Magnitude.ofDecimal?` rounds a decimal number, `Double.ofLiteral` a written one.
-/
import StructuredText.Text.Numeral

namespace StructuredText

/-- The quotient rounded to the nearest whole number, a tie going to the even one. -/
def roundDiv (num den : Nat) : Nat :=
  let q := num / den
  let r := num % den
  if 2 * r < den then q
  else if den < 2 * r then q + 1
  else q + q % 2

/-- The size of a finite double. -/
structure Magnitude where
  /-- Eleven exponent bits followed by fifty-two fraction bits. -/
  bits : Nat
  /-- The last exponent is kept for infinity and for what is not a number. -/
  finite : bits < 2047 * Nat.pow 2 52
deriving DecidableEq

namespace Magnitude

/-- No size at all. -/
def zero : Magnitude := ⟨0, by decide⟩

/-- The magnitude in units of `2 ^ (-1074)`. -/
def units (m : Magnitude) : Nat :=
  let exponent := m.bits / Nat.pow 2 52
  let fraction := m.bits % Nat.pow 2 52
  if exponent = 0 then fraction else (Nat.pow 2 52 + fraction) * Nat.pow 2 (exponent - 1)

/-- The pattern of bits nearest to `num / den` units.  Fifty-three leading binary digits
are kept, and the carry of a rounding upwards runs into the exponent by itself. -/
def nearestBits (num den : Nat) : Nat :=
  let dropped := Nat.log2 (num / den) - 52
  dropped * Nat.pow 2 52 + roundDiv num (den * Nat.pow 2 dropped)

/-- The magnitude nearest to `num / den` units, if it is finite. -/
def nearest? (num den : Nat) : Option Magnitude :=
  if h : nearestBits num den < 2047 * Nat.pow 2 52 then some ⟨nearestBits num den, h⟩ else none

/-- The magnitude nearest to `mantissa * 10 ^ exponent`, if it is finite.  Exponents far
beyond every finite magnitude on either side are settled without computing the power. -/
def ofDecimal? (mantissa : Nat) (exponent : Int) : Option Magnitude :=
  if mantissa = 0 then some zero
  else if 400 < exponent then none
  else if exponent + (Nat.log2 mantissa + 1) < -400 then some zero
  else
    match exponent with
    | .ofNat e => nearest? (mantissa * Nat.pow 10 e * Nat.pow 2 1074) 1
    | .negSucc e => nearest? (mantissa * Nat.pow 2 1074) (Nat.pow 10 (e + 1))

end Magnitude

/-- A double precision number. -/
inductive Double
  /-- A finite number; zero has both signs. -/
  | finite (negative : Bool) (magnitude : Magnitude)
  | infinite (negative : Bool)
  | notANumber
deriving DecidableEq

namespace Double

/-- Neither infinite nor not a number. -/
def isFinite : Double → Bool
  | finite _ _ => true
  | _ => false

/-- A decimal exponent as written: a sign that may be missing, then digits. -/
def exponentValue : Text → Int
  | [] => 0
  | c :: digits =>
    if c = '-' then -(Text.digitsValue digits)
    else if c = '+' then Text.digitsValue digits
    else Text.digitsValue (c :: digits)

/-- The double nearest to a decimal literal without sign. -/
def ofUnsignedLiteral (negative : Bool) (literal : Text) : Double :=
  let whole := literal.takeWhile CodePoint.isDigit
  let afterWhole := literal.dropWhile CodePoint.isDigit
  let afterPoint := if afterWhole.head? = some '.' then afterWhole.tail else []
  let fraction := afterPoint.takeWhile CodePoint.isDigit
  let afterFraction :=
    if afterWhole.head? = some '.' then afterPoint.dropWhile CodePoint.isDigit else afterWhole
  let exponent := exponentValue afterFraction.tail
  match Magnitude.ofDecimal? (Text.digitsValue (whole ++ fraction)) (exponent - fraction.length) with
  | some m => finite negative m
  | none => infinite negative

/-- The double nearest to a decimal literal: a sign, digits, a fraction and an exponent, of
which sign, fraction and exponent may be missing.  Beyond the largest finite double it is
infinite. -/
def ofLiteral : Text → Double
  | [] => ofUnsignedLiteral false []
  | c :: rest =>
    if c = '-' then ofUnsignedLiteral true rest
    else if c = '+' then ofUnsignedLiteral false rest
    else ofUnsignedLiteral false (c :: rest)

end Double

end StructuredText
