/-
# Scanning XML

A scan reads something from the front of a text and keeps a journal.  What it leaves is always
an end of the text, and a scan that fails tells where by what was left there.  Scans are put
together with `do`, so each of them leaves an end of its text by construction.
-/
import StructuredText.Xml.Character
import StructuredText.Xml.Journal

namespace StructuredText.Xml

/-- An end of a text. -/
abbrev Remainder (t : Text) := { r : Text // r <:+ t }

/-- The result of scanning a text, with the journal kept on the way. -/
abbrev Scanned (α : Type) (t : Text) := Except Fault (α × Remainder t × Journal)

/-- Something that can be read from the front of a text. -/
def Scan (α : Type) := Journal → (t : Text) → Scanned α t

namespace Scan

variable {α β : Type}

instance : Monad Scan where
  pure a := fun j t => .ok (a, ⟨t, List.suffix_refl t⟩, j)
  bind scan next := fun j t =>
    match scan j t with
    | .error fault => .error fault
    | .ok (a, ⟨r, h⟩, j) =>
      match next a j r with
      | .error fault => .error fault
      | .ok (b, ⟨r', h'⟩, j) => .ok (b, ⟨r', h'.trans h⟩, j)

/-- Fails where the scan stands, or at the first error if there was one before. -/
def fail (complaint : Complaint) : Scan α := fun j t => .error (j.firstOr complaint t)

/-- Enters an error where the scan stands, and goes on. -/
def note (complaint : Complaint) : Scan Unit := fun j t =>
  .ok ((), ⟨t, List.suffix_refl t⟩, j.enterError complaint t)

/-- Enters a warning. -/
def warn : Scan Unit := fun j t => .ok ((), ⟨t, List.suffix_refl t⟩, j.enterWarning)

/-- Counts the bytes of a text that was just passed. -/
def countBytes (text : Text) : Scan Unit := fun j t =>
  .ok ((), ⟨t, List.suffix_refl t⟩, j.countBytes text t)

/-- Moves the columns from here on ahead. -/
def moveColumns (n : Int) : Scan Unit := fun j t =>
  .ok ((), ⟨t, List.suffix_refl t⟩, j.moveColumns n t)

/-- Adds to the cost of entities, or fails if that makes it too high. -/
def charge (n : Nat) : Scan Unit := fun j t =>
  if Journal.maxCost < j.cost + n then .error (j.firstOr .entitiesTooLong t)
  else .ok ((), ⟨t, List.suffix_refl t⟩, { j with cost := j.cost + n })

/-- Reads another text, of which faults are told at a given place. -/
def readAt (place : Journal → Text → Place) (other : Text) (scan : Scan α) : Scan α := fun j t =>
  match scan { j with inside := some (place j t, other) } other with
  | .error fault => .error fault
  | .ok (a, _, inner) => .ok (a, ⟨t, List.suffix_refl t⟩, { inner with inside := j.inside })

/-- Reads the text of an entity in the place of a reference that was just passed. -/
def within (other : Text) (scan : Scan α) : Scan α := readAt Journal.placeBefore other scan

/-- Reads a piece of text once more.  Its faults are told where the scan stands. -/
def again (other : Text) (scan : Scan α) : Scan α := readAt Journal.faultPlace other scan

/-- Reads the text of an entity, if it was not read before.  Either way its cost is charged. -/
def readOnce (entity other : Text) (scan : Scan α) (otherwise : α) : Scan α := fun j t =>
  match j.knownCost? entity with
  | some cost => (do charge (cost + Journal.referenceCost); return otherwise) j t
  | none =>
    match (do let a ← within other scan; charge (Utf8.byteCount other); return a) j t with
    | .error fault => .error fault
    | .ok (a, rest, inner) =>
      .ok (a, rest, { inner with
        cost := inner.cost + Journal.referenceCost
        known := (entity, inner.cost - j.cost) :: inner.known })

/-- The place where this is left of what is being read. -/
def placeBefore (rest : Text) : Scan Place := fun j t =>
  .ok (j.placeBefore rest, ⟨t, List.suffix_refl t⟩, j)

/-- Fails unless the text ends here.  After an error that was passed over, nothing is looked
for. -/
def expectEnd (complaint : Complaint) : Scan Unit := fun j t =>
  if t.isEmpty ∨ j.first.isSome then .ok ((), ⟨t, List.suffix_refl t⟩, j)
  else .error (j.firstOr complaint t)

/-- What is left of the text. -/
def remaining : Scan Text := fun j t => .ok (t, ⟨t, List.suffix_refl t⟩, j)

/-- The next code point, which stays where it is. -/
def peek : Scan (Option CodePoint) := fun j t => .ok (t.head?, ⟨t, List.suffix_refl t⟩, j)

/-- Passes one code point. -/
def skip : Scan Unit := fun j t => .ok ((), ⟨t.drop 1, List.drop_suffix 1 t⟩, j)

/-- Passes code points of a class, and gives them. -/
def takeWhile (p : CodePoint → Bool) : Scan Text := fun j t =>
  .ok (t.takeWhile p, ⟨t.dropWhile p, List.dropWhile_suffix p⟩, j)

/-- Passes blanks and tells whether there were any. -/
def blanks : Scan Bool := do return !(← takeWhile isXmlBlank).isEmpty

/-- Whether the text goes on in a given way, which is then passed. -/
def accept (word : Text) : Scan Bool := fun j t =>
  if word.isPrefixOf t then
    .ok (true, ⟨t.drop word.length, List.drop_suffix word.length t⟩, j)
  else .ok (false, ⟨t, List.suffix_refl t⟩, j)

/-- Whether the text goes on in one of some ways, of which the first that fits is passed. -/
def acceptAny : List Text → Scan Bool
  | [] => return false
  | word :: others => do if ← accept word then return true else acceptAny others

/-- Whether the text goes on in a given way, which is not passed. -/
def isNext (word : Text) : Scan Bool := fun j t =>
  .ok (word.isPrefixOf t, ⟨t, List.suffix_refl t⟩, j)

/-- Passes a given word or fails. -/
def expect (word : Text) (complaint : Complaint) : Scan Unit := do
  unless (← accept word) do fail complaint

/-- Passes one code point after another.  At each one, `next` tells what is wrong with it, or
that the scan ends before it, or what to scan after it. -/
def loopFrom {σ : Type} (next : σ → CodePoint → Text → Except Complaint (Option (Scan σ)))
    (whole : Text) (state : σ) (j : Journal) (t : Text) (h : t <:+ whole) : Scanned σ whole :=
  match t with
  | [] => .ok (state, ⟨[], h⟩, j)
  | c :: r =>
    match next state c r with
    | .error complaint => .error (j.firstOr complaint (c :: r))
    | .ok none => .ok (state, ⟨c :: r, h⟩, j)
    | .ok (some scan) =>
      match scan j r with
      | .error fault => .error fault
      | .ok (state, ⟨r', h'⟩, j) =>
        loopFrom next whole state j r' (h'.trans ((List.suffix_cons c r).trans h))
termination_by t.length
decreasing_by
  have := h'.length_le
  simp
  omega

/-- Passes code points one after another as long as `next` allows. -/
def loop {σ : Type} (next : σ → CodePoint → Text → Except Complaint (Option (Scan σ)))
    (state : σ) : Scan σ :=
  fun j t => loopFrom next t state j t (List.suffix_refl t)

end Scan

end StructuredText.Xml
