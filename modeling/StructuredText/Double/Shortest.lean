/-
# The shortest decimal text of a double

Of the decimal numbers that read back as a given double, the one with the fewest digits is
written, and of those the nearest.  For one digit, two digits and so on, the decimal grid
with that many digits has one point just below the double and one just above; if any point
of the grid reads back, one of these two does.  Seventeen digits are always enough.

* `Magnitude.shortest` gives digits and exponent;
* `Double.toText` lays them out, positionally between `1e-4` and `1e16`.
-/
import StructuredText.Double

namespace StructuredText

/-- A decimal number `digits * 10 ^ exponent`. -/
structure Decimal where
  /-- The digits, as one number. -/
  digits : Nat
  /-- The power of ten of the last digit. -/
  exponent : Int
deriving DecidableEq

namespace Decimal

/-- The same number without trailing zeros. -/
def trimmed (d : Decimal) : Decimal :=
  if _h : d.digits ≠ 0 ∧ d.digits % 10 = 0 then trimmed ⟨d.digits / 10, d.exponent + 1⟩ else d
termination_by d.digits
decreasing_by omega

end Decimal

/-- How many decimal digits a number has; zero has one. -/
def decimalLength (n : Nat) : Nat :=
  let low := Nat.log2 n * 30102 / 100000
  if Nat.pow 10 (low + 1) ≤ n then low + 2 else low + 1

namespace Magnitude

/-- Whether a decimal number reads back as the magnitude. -/
def readsBack (m : Magnitude) (d : Decimal) : Bool := ofDecimal? d.digits d.exponent == some m

/-- The power of ten of the leading digit. -/
def leadingExponent (m : Magnitude) : Int :=
  (decimalLength (m.units * Nat.pow 10 400 / Nat.pow 2 1074) : Int) - 401

/-- The magnitude in units of a power of ten, as a fraction. -/
def overPowerOfTen (m : Magnitude) : Int → Nat × Nat
  | .ofNat e => (m.units, Nat.pow 10 e * Nat.pow 2 1074)
  | .negSucc e => (m.units * Nat.pow 10 (e + 1), Nat.pow 2 1074)

/-- The nearer of the two neighbours on a decimal grid that reads back, if one does.  A tie
goes to the even neighbour. -/
def onGrid? (m : Magnitude) (exponent : Int) : Option Decimal :=
  let (num, den) := m.overPowerOfTen exponent
  let below : Decimal := ⟨num / den, exponent⟩
  let above : Decimal := ⟨num / den + 1, exponent⟩
  if m.readsBack ⟨roundDiv num den, exponent⟩ then some ⟨roundDiv num den, exponent⟩
  else if m.readsBack below then some below
  else if m.readsBack above then some above
  else none

/-- The magnitude written out in full. -/
def exact (m : Magnitude) : Decimal := ⟨m.units * Nat.pow 5 1074, -1074⟩

/-- The shortest decimal number that reads back as the magnitude. -/
def shortest (m : Magnitude) : Decimal :=
  ((List.range 17).findSome? fun (more : Nat) => m.onGrid? (m.leadingExponent - more)).getD m.exact

end Magnitude

namespace Decimal

/-- A run of zeros. -/
def zeros (n : Nat) : Text := List.replicate n '0'

/-- An exponent of ten: a sign and at least two digits. -/
def exponentText (e : Int) : Text :=
  let digits := Text.ofNat e.natAbs
  (if e < 0 then '-' else '+') :: (zeros (2 - digits.length) ++ digits)

/-- A decimal number as text.  With a leading digit between `10 ^ (-4)` and `10 ^ 15` it is
positional and always has a fraction; otherwise it has one digit before the point and an
exponent. -/
def toText (d : Decimal) : Text :=
  let digits := Text.ofNat d.digits
  let leading : Int := d.exponent + digits.length - 1
  if d.digits = 0 then "0.0"
  else if -4 ≤ leading ∧ leading < 16 then
    if 0 ≤ d.exponent then digits ++ zeros d.exponent.toNat ++ (".0" : Text)
    else if 0 ≤ leading then
      digits.take (leading.toNat + 1) ++ ("." : Text) ++ digits.drop (leading.toNat + 1)
    else ("0." : Text) ++ zeros (-leading - 1).toNat ++ digits
  else
    digits.take 1 ++ (if digits.length = 1 then [] else ("." : Text) ++ digits.drop 1) ++
      ("e" : Text) ++ exponentText leading

end Decimal

namespace Double

/-- The shortest text that reads back as a magnitude. -/
def magnitudeText (m : Magnitude) : Text := m.shortest.trimmed.toText

/-- The text of a number.  A finite one has the shortest text that reads back, and zero keeps
its sign. -/
def toText : Double → Text
  | finite negative m => if negative then '-' :: magnitudeText m else magnitudeText m
  | infinite negative => if negative then "-Infinity" else "Infinity"
  | notANumber => "NaN"

end Double

end StructuredText
