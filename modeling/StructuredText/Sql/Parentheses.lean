/-
# Short groups on one line

Line breaks next to a parenthesis are dropped, and a group whose inside is short is written on
one line.  A group begins at the first opening parenthesis after the end of the one before, and
ends at the next closing one.
-/
import StructuredText.Text.Blank
import StructuredText.Text.Lines

namespace StructuredText.Sql

/-- The inside of a group on one line is shorter than this. -/
def maxGroup : Nat := 100

/-- Whether the blanks at the front of a text hold a line feed. -/
def startsWithBreak (t : Text) : Bool :=
  (t.takeWhile CodePoint.isBlank).contains ('\n' : CodePoint)

/-- A text without the blanks at its front, if they hold a line feed. -/
def dropBreak (t : Text) : Text := if startsWithBreak t then t.trimStart else t

/-- The text without the line breaks that follow an opening parenthesis. -/
def joinAfterOpening (t : Text) : Text :=
  t.foldr (fun (c : CodePoint) rest => if c = '(' then c :: dropBreak rest else c :: rest) []

/-- The text without the line breaks that a closing parenthesis follows. -/
def joinBeforeClosing (t : Text) : Text :=
  (t.foldl (fun before (c : CodePoint) =>
    if c = ')' then c :: dropBreak before else c :: before) []).reverse

/-- A text with one space in place of the blanks at its front, if they hold a line feed. -/
def spaceForBreak (t : Text) : Text := if startsWithBreak t then ' ' :: t.trimStart else t

/-- The text with one space in place of each line break and the blanks around it. -/
def joinBreaks (t : Text) : Text :=
  (spaceForBreak (t.foldl (fun before (c : CodePoint) =>
    if c.isBlank then c :: before else c :: spaceForBreak before) [])).reverse

/-- The inside of a group without the blanks around it; of nothing but blanks, the last is
kept. -/
def innerText (inside : Text) : Text :=
  if inside.isBlank then inside.drop (inside.length - 1) else inside.trim

/-- A text up to a closing parenthesis, with the group in it on one line if it is short. -/
def joinGroup (t : Text) : Text :=
  let before := t.takeWhile fun (c : CodePoint) => c != '('
  match t.dropWhile fun (c : CodePoint) => c != '(' with
  | [] => t
  | opening :: inside =>
    let joined := joinBreaks (innerText inside)
    if inside.isEmpty || maxGroup ≤ joined.length then t else before ++ opening :: joined

/-- All pieces but the last changed. -/
def mapInit {α : Type} (f : α → α) : List α → List α
  | [] => []
  | [x] => [x]
  | x :: y :: rest => f x :: mapInit f (y :: rest)

/-- The text with every short group on one line. -/
def joinGroups (t : Text) : Text := Text.join [')'] (mapInit joinGroup (Text.splitOn ')' t))

/-- The text without line breaks next to parentheses and with short groups on one line. -/
def compactParentheses (t : Text) : Text := joinGroups (joinBeforeClosing (joinAfterOpening t))

end StructuredText.Sql
