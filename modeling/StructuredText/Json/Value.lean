/-
# JSON values

A JSON value, with integers told from numbers that have a fraction or an exponent, and with
the members of an object in the order in which they were first written.
-/
import StructuredText.Double

namespace StructuredText.Json

/-- A JSON value. -/
inductive Value
  | null
  | bool (b : Bool)
  | int (n : Int)
  | float (x : Double)
  | string (s : Text)
  | array (items : List Value)
  | object (members : List (Text × Value))
deriving Inhabited

/-- A member of an object. -/
abbrev Member := Text × Value

/-- The kinds of JSON values; both sorts of number are of one kind. -/
inductive Kind
  | null | bool | number | string | array | object
deriving DecidableEq

namespace Kind

/-- Every kind. -/
def all : List Kind := [null, bool, number, string, array, object]

/-- The name of a kind. -/
def name : Kind → String
  | null => "null"
  | bool => "bool"
  | number => "number"
  | string => "string"
  | array => "array"
  | object => "object"

end Kind

namespace Value

/-- The kind of a value. -/
def kind : Value → Kind
  | null => .null
  | bool _ => .bool
  | int _ | float _ => .number
  | string _ => .string
  | array _ => .array
  | object _ => .object

/-- Arrays and objects hold other values. -/
def isContainer (v : Value) : Bool := v.kind = .array ∨ v.kind = .object

/-- How many values stand directly inside. -/
def childCount : Value → Nat
  | array items => items.length
  | object members => members.length
  | _ => 0

/-- Only containers with something inside can be opened. -/
def isExpandable (v : Value) : Bool := v.isContainer && 0 < v.childCount

end Value

/-- The members after one more was read: a key met before keeps its place and takes the new
value. -/
def putMember (key : Text) (value : Value) : List Member → List Member
  | [] => [(key, value)]
  | (k, v) :: rest => if k = key then (k, value) :: rest else (k, v) :: putMember key value rest

/-- The members of an object, from all that were written. -/
def membersOf (written : List Member) : List Member :=
  written.foldl (fun members (key, value) => putMember key value members) []

/-- The value of a member, if there is one of that key. -/
def member? (key : Text) (members : List Member) : Option Value :=
  (members.find? (·.1 = key)).map (·.2)

/-- Something handed over as JSON that may be none. -/
inductive Candidate
  | json (value : Value)
  | foreign (typeName : Text)
deriving Inhabited

/-- A thing that is no JSON value. -/
structure NotJson where
  typeName : Text

/-- Names the type that is none of JSON. -/
def NotJson.message (e : NotJson) : Text := ("不是 JSON 值: " : Text) ++ e.typeName

/-- The value handed over, if it is one. -/
def Candidate.value : Candidate → Except NotJson Value
  | json v => .ok v
  | foreign typeName => .error ⟨typeName⟩

end StructuredText.Json
