/-
# Lines

Cutting a text at its line feeds, putting lines together again, one spelling for line
ends, and the line and column of a place.
-/
import StructuredText.Text.CodePoint

namespace StructuredText

namespace Text

/-- The pieces of a text between the places where a separator stands, one more than there
are separators. -/
def splitOn (separator : CodePoint) (t : Text) : List Text :=
  t.foldr (fun (c : CodePoint) pieces =>
    if c = separator then [] :: pieces
    else
      match pieces with
      | [] => [[c]]
      | piece :: rest => (c :: piece) :: rest) [[]]

/-- The lines of a text: the pieces between its line feeds. -/
def lines (t : Text) : List Text := splitOn '\n' t

/-- Lines put together, with a line feed between each two. -/
def unlines (ls : List Text) : Text := join ['\n'] ls

/-- Line ends in one spelling: a line feed right after a carriage return is dropped, then
every carriage return becomes a line feed. -/
def unifyLineEnds (t : Text) : Text :=
  (((' ' : CodePoint) :: t).zip t).filterMap fun (before, c) =>
    if before = '\r' ∧ c = '\n' then none else some (if c = '\r' then '\n' else c)

end Text

/-- A place in a text, counted from one. -/
structure Position where
  /-- One more than the number of line feeds before. -/
  line : Nat
  /-- One more than the number of code points since the last line feed. -/
  column : Nat
deriving DecidableEq

/-- The place after a given beginning of a text. -/
def Position.after (before : Text) : Position where
  line := 1 + before.count ('\n' : CodePoint)
  column := 1 + (before.reverse.takeWhile fun (c : CodePoint) => c ≠ '\n').length

/-- The place in a whole text at which a given remainder starts. -/
def Position.ofRest (whole rest : Text) : Position :=
  .after (whole.take (whole.length - rest.length))

end StructuredText
