/-
# Sorted keys

The members of every object, at every depth, in ascending order of their keys.  Keys are
compared code point by code point.
-/
import StructuredText.Json.Value

namespace StructuredText.Json

/-- Members in ascending order of their keys. -/
def sortMembers (members : List Member) : List Member :=
  members.mergeSort fun a b => decide (a.1 ≤ b.1)

mutual

/-- The value with the members of every object sorted. -/
def Value.sortKeys : Value → Value
  | .array items => .array (sortKeysOfItems items)
  | .object members => .object (sortMembers (sortKeysOfMembers members))
  | v => v
termination_by structural v => v

/-- Items with the members of every object sorted. -/
def sortKeysOfItems : List Value → List Value
  | [] => []
  | v :: rest => v.sortKeys :: sortKeysOfItems rest
termination_by structural items => items

/-- Members in their order, with the members of every object inside sorted. -/
def sortKeysOfMembers : List (Text × Value) → List (Text × Value)
  | [] => []
  | (key, v) :: rest => (key, v.sortKeys) :: sortKeysOfMembers rest
termination_by structural members => members

end

mutual

/-- How many containers stand inside each other. -/
def Value.levels : Value → Nat
  | .array items => levelsOfItems items + 1
  | .object members => levelsOfMembers members + 1
  | _ => 0
termination_by structural v => v

/-- The most levels of any item. -/
def levelsOfItems : List Value → Nat
  | [] => 0
  | v :: rest => max v.levels (levelsOfItems rest)
termination_by structural items => items

/-- The most levels of any member. -/
def levelsOfMembers : List (Text × Value) → Nat
  | [] => 0
  | (_, v) :: rest => max v.levels (levelsOfMembers rest)
termination_by structural members => members

end

end StructuredText.Json
