/-
# Merging lines

A laid-out statement often has a fragment on every line.  Lines are read from top to bottom,
and a line takes in the next one where one of three rules allows it and the outcome is short
enough:

* after a comma, unless a comment follows;
* after a line that is just a clause keyword, unless a clause or a comment follows;
* in a chain of joins and conditions, before a line that begins with `ON` or `AND`.
-/
import StructuredText.Text.Blank
import StructuredText.Text.Lines
import StructuredText.Text.Upper

namespace StructuredText.Sql

/-- The keywords that open a clause. -/
def clauseKeywords : List Text :=
  ["SELECT", "FROM", "WHERE", "GROUP BY", "ORDER BY", "HAVING", "LIMIT", "OFFSET", "WITH", "AS"]

/-- A merged line is shorter than this. -/
def maxLine : Nat := 120

/-- Whether a text holds another one somewhere. -/
def holds (part : Text) : Text → Bool
  | [] => part.isEmpty
  | c :: t => part.isPrefixOf (c :: t) || holds part t

/-- A line that is a comment. -/
def isComment (line : Text) : Bool := Text.isPrefixOf "--" line

/-- A line that opens a list goes on with the next item. -/
def continuesList (line next : Text) : Bool :=
  line.getLast? == some ',' && !next.isEmpty && !isComment next

/-- A line that is just a clause keyword goes on with its first argument. -/
def continuesKeyword (line next : Text) : Bool :=
  !next.isEmpty && !isComment next && clauseKeywords.contains line.trim.toUpper &&
    !clauseKeywords.any fun keyword => keyword.isPrefixOf next.toUpper

/-- A join or a condition goes on with a condition. -/
def continuesCondition (line next : Text) : Bool :=
  let upper := line.toUpper
  let upperNext := next.toUpper
  (holds "JOIN" upper || Text.isPrefixOf "AND " upper || Text.isPrefixOf "ON " upper) &&
    (Text.isPrefixOf "ON " upperNext || Text.isPrefixOf "AND " upperNext)

/-- A line with the next one taken in. -/
def mergedLine (line next : Text) : Text := line ++ (" " : Text) ++ next

/-- The line that comes of two, if a rule allows to merge them and the outcome is short. -/
def merge? (line next : Text) : Option Text :=
  if (continuesList line next || continuesKeyword line next || continuesCondition line next) &&
      (mergedLine line next).trim.length < maxLine then
    some (mergedLine line next)
  else none

/-- The lines that were finished, the last first, and the line that may still take in more. -/
structure MergeState where
  finished : List Text
  current : Text

/-- Reads one more line. -/
def MergeState.next (s : MergeState) (line : Text) : MergeState :=
  match merge? s.current line.trim with
  | some merged => ⟨s.finished, merged⟩
  | none => ⟨s.current :: s.finished, line.trimEnd⟩

/-- The lines after merging. -/
def mergeLines : List Text → List Text
  | [] => []
  | first :: rest =>
    let s := rest.foldl MergeState.next ⟨[], first.trimEnd⟩
    (s.current :: s.finished).reverse

end StructuredText.Sql
