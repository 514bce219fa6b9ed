/-
# Limits of repeating a text

How often a text can be repeated, and why it cannot be repeated more often.  Counts and lengths
are signed numbers of 64 bits, and a text has to fit into memory.

* `Text.checkRepeat` tells whether a text can be repeated;
* `Text.isMachineInteger` tells which counts there are at all.
-/
import StructuredText.Text.CodePoint

namespace StructuredText.Text

/-- The greatest signed number of 64 bits. -/
def greatestMachineInteger : Nat := 9223372036854775807

/-- Whether a number fits into a signed number of 64 bits. -/
def isMachineInteger (n : Int) : Bool :=
  -(greatestMachineInteger : Int) - 1 ≤ n && n ≤ (greatestMachineInteger : Int)

/-- How many code points a text in memory can have at the very most. -/
def greatestLength : Nat := 34359738368

/-- Why a text cannot be repeated. -/
inductive RepeatFault
  /-- The count does not fit into a machine integer. -/
  | countTooLarge
  /-- The length of the result does not fit into a machine integer. -/
  | lengthTooLarge
  /-- There is no memory for the result. -/
  | outOfMemory
deriving DecidableEq

/-- The wording of a fault; running out of memory has none. -/
def RepeatFault.message : RepeatFault → Text
  | countTooLarge => "cannot fit 'int' into an index-sized integer"
  | lengthTooLarge => "repeated string is too long"
  | outOfMemory => []

/-- Whether a text can be repeated so many times; a negative count counts as none. -/
def checkRepeat (count : Int) (t : Text) : Except RepeatFault Unit :=
  let length := count.toNat * t.length
  if !isMachineInteger count then .error .countTooLarge
  else if greatestMachineInteger < length then .error .lengthTooLarge
  else if greatestLength < length then .error .outOfMemory
  else .ok ()

end StructuredText.Text
