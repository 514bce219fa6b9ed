/-
# Journals

Not every error ends the reading of a document.  One about namespaces or identifiers is
entered in a journal, and so are warnings; a document is refused if the last entry is an
error, and what is reported is the first error.

* `Journal.refusal?` gives the verdict at the end of a document;
* `Journal.firstOr` gives the fault to report where reading cannot go on.
-/
import StructuredText.Xml.Fault

namespace StructuredText.Xml

/-- What was met so far without stopping at it. -/
structure Journal where
  /-- The first error. -/
  first : Option Fault := none
  /-- The number of errors entered. -/
  errors : Nat := 0
  /-- The number of warnings entered. -/
  warnings : Nat := 0
  /-- Whether the last entry is an error. -/
  endsInError : Bool := false
  /-- What is left of the text at the last place from which columns are counted differently, and
  by how much they are ahead on its line. -/
  shift : Option (Text × Int) := none
  /-- The entity that is being read: where its faults are placed, and its text. -/
  inside : Option (Place × Text) := none
  /-- The cost of the entities read so far. -/
  cost : Nat := 0
  /-- The entities that were read as content, each with its cost. -/
  known : List (Text × Nat) := []

namespace Journal

/-! ## Entries -/

/-- How many errors, and how many warnings, are entered at most. -/
def maxEntries : Nat := 100

/-- How many columns a place is counted ahead, the place being told by what is left of the text
there.  A line feed sets the count right. -/
def ahead (j : Journal) (rest : Text) : Int :=
  match j.shift with
  | none => 0
  | some (place, n) =>
    if (place.take (place.length - rest.length)).contains ('\n' : CodePoint) then 0 else n

/-- The place where a fault is told, if this is left of what is being read.  What is wrong in an
entity is placed after the reference to it. -/
def faultPlace (j : Journal) (rest : Text) : Place :=
  match j.inside with
  | none => .before rest
  | some (place, _) => place

/-- The first error: the one entered first or else a new one. -/
def firstOr (j : Journal) (complaint : Complaint) (rest : Text) : Fault :=
  match j.first with
  | some fault => fault
  | none =>
    let place := j.faultPlace rest
    match place with
    | .before rest => ⟨complaint, place, j.ahead rest⟩
    | .known _ => ⟨complaint, place, 0⟩

/-- The journal with one more error, unless it holds too many. -/
def enterError (j : Journal) (complaint : Complaint) (rest : Text) : Journal :=
  if j.errors < maxEntries then
    { j with first := some (j.firstOr complaint rest), errors := j.errors + 1, endsInError := true }
  else j

/-- The journal with one more warning, unless it holds too many. -/
def enterWarning (j : Journal) : Journal :=
  if j.warnings < maxEntries then
    { j with warnings := j.warnings + 1, endsInError := false }
  else j

/-- The fault for which a document is refused that was read to its end. -/
def refusal? (j : Journal) : Option Fault := if j.endsInError then j.first else none

/-! ## Columns -/

/-- The journal from a place on at which columns move ahead.  Inside an entity none are
counted. -/
def moveColumns (j : Journal) (n : Int) (rest : Text) : Journal :=
  if n = 0 ∨ j.inside.isSome then j else { j with shift := some (rest, j.ahead rest + n) }

/-- The journal after a text of which the bytes were counted: only those on its last line
matter. -/
def countBytes (j : Journal) (text rest : Text) : Journal :=
  let tail := (text.reverse.takeWhile fun (c : CodePoint) => c != '\n').reverse
  j.moveColumns (Utf8.byteCount tail - tail.length : Nat) rest

/-! ## Entities -/

/-- The place in what is being read, be it the document or an entity. -/
def placeBefore (j : Journal) (rest : Text) : Place :=
  match j.inside with
  | none => .before rest
  | some (_, whole) => .known (Position.ofRest whole rest)

/-- The cost at which a document is refused. -/
def maxCost : Nat := 1000000

/-- The cost of a reference beside that of what it stands for. -/
def referenceCost : Nat := 20

/-- The cost of an entity that was read before. -/
def knownCost? (j : Journal) (entity : Text) : Option Nat :=
  (j.known.find? (·.1 = entity)).map (·.2)

end Journal

end StructuredText.Xml
