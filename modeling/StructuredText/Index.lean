/-
# Indices from either end

An index into a list may count from the front, starting at zero, or from the end, starting at
minus one.
-/
import StructuredText.Text.Repeat

namespace StructuredText

/-- Why an index names no element. -/
inductive IndexFault
  /-- The list has no such element. -/
  | outOfRange
  /-- No list could have such an element. -/
  | noIndex
deriving DecidableEq

/-- The wording of a refusal. -/
def IndexFault.message : IndexFault → Text
  | outOfRange => "list index out of range"
  | noIndex => "cannot fit 'int' into an index-sized integer"

/-- The position in a list of some length that an index stands for. -/
def position? (length : Nat) (index : Int) : Option Nat :=
  let fromFront := if index < 0 then index + length else index
  if 0 ≤ fromFront ∧ fromFront < length then some fromFront.toNat else none

/-- The element of an index, from either end. -/
def element? {α : Type} (xs : List α) (index : Int) : Except IndexFault α :=
  if Text.isMachineInteger index then
    match (position? xs.length index).bind (xs[·]?) with
    | some x => .ok x
    | none => .error .outOfRange
  else .error .noIndex

end StructuredText
