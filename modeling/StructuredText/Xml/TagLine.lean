/-
# Tag lines

The textual side of laying out XML: blanks between tags are dropped, the text is cut between
every two adjacent tags, and each piece is put on a line of its own, indented by the number of
elements that seem to be open.  Which elements are open is told by the shape of the pieces
alone.

* `splitTagLines` cuts a text into pieces;
* `LineShape.of` tells the shape of a piece;
* `placeLines` puts the pieces on lines, `indentLines` with an indent for each level.
-/
import StructuredText.Text.Blank
import StructuredText.Text.Lines
import StructuredText.Text.Word

namespace StructuredText.Xml

/-! ## Cutting -/

/-- The text without the blanks that stand between a closing and an opening bracket. -/
def closeGaps (t : Text) : Text :=
  t.foldr (fun (c : CodePoint) rest =>
    let next := Text.trimStart rest
    if c = '>' ∧ next.head? = some '<' then c :: next else c :: rest) []

/-- The pieces of a text that is cut wherever an opening bracket follows a closing one. -/
def cutAtBoundaries (t : Text) : List Text :=
  t.foldr (fun (c : CodePoint) pieces =>
    match pieces with
    | [] => [[c]]
    | piece :: rest =>
      if c = '>' ∧ piece.head? = some '<' then [c] :: piece :: rest
      else (c :: piece) :: rest) [[]]

/-- The pieces between adjacent tags. -/
def splitTagLines (t : Text) : List Text := cutAtBoundaries (closeGaps t).trim

/-! ## Shapes -/

/-- The shape of a piece of text that should stand on a line of its own. -/
inductive LineShape
  /-- Something and an end tag, as in an element that holds text only. -/
  | closedInline
  /-- An end tag. -/
  | closing
  /-- A start tag, perhaps with text after it. -/
  | opening
  /-- Anything else. -/
  | other
deriving DecidableEq

/-- Whether a text, read backwards, holds the start of an end tag with something before it on
the same line, and no closing bracket ahead of that. -/
def holdsEndTagBackwards : Text → Bool
  | letter :: slash :: bracket :: before :: rest =>
    (letter.isWord && slash == '/' && bracket == '<' && before != '\n') ||
      (letter != '>' && holdsEndTagBackwards (slash :: bracket :: before :: rest))
  | _ => false

/-- Whether a piece ends in an end tag with something before it on the same line. -/
def isClosedInline (piece : Text) : Bool :=
  match piece.reverse with
  | [] => false
  | last :: before => last == '>' && holdsEndTagBackwards before

/-- Whether a piece begins with an end tag. -/
def isClosing : Text → Bool
  | bracket :: slash :: letter :: _ => bracket == '<' && slash == '/' && letter.isWord
  | _ => false

/-- Whether a piece begins with a start tag that does not close itself, with no line break
after it. -/
def isOpening : Text → Bool
  | bracket :: letter :: rest =>
    let inside := (letter :: rest).takeWhile fun (c : CodePoint) => c != '>'
    let after := (letter :: rest).dropWhile fun (c : CodePoint) => c != '>'
    bracket == '<' && letter.isWord && !after.isEmpty &&
      inside.getLast? != some '/' && !after.contains ('\n' : CodePoint)
  | _ => false

/-- The shape of a piece. -/
def LineShape.of (piece : Text) : LineShape :=
  if isClosedInline piece then closedInline
  else if isClosing piece then closing
  else if isOpening piece then opening
  else other

/-- The depth of a line after some depth; surplus end tags stay at zero. -/
def LineShape.depthBefore (shape : LineShape) (depth : Nat) : Nat :=
  match shape with
  | closing => depth - 1
  | _ => depth

/-- The depth after a line that stands at some depth. -/
def LineShape.depthAfter (shape : LineShape) (depth : Nat) : Nat :=
  match shape with
  | opening => depth + 1
  | _ => depth

/-! ## Indenting -/

/-- The pieces, each with its depth, from some depth on. -/
def withDepths : Nat → List Text → List (Nat × Text)
  | _, [] => []
  | depth, piece :: rest =>
    let shape := LineShape.of piece
    let own := shape.depthBefore depth
    (own, piece) :: withDepths (shape.depthAfter own) rest

/-- The pieces on lines of their own, each behind the margin of its depth, without the blanks
around the whole. -/
def placeLines (margin : Nat → Text) (pieces : List Text) : Text :=
  (Text.unlines ((withDepths 0 pieces).map fun (depth, piece) => margin depth ++ piece)).trim

/-- The pieces on lines of their own, each behind as many indents as its depth. -/
def indentLines (pieces : List Text) (indent : Text) : Text :=
  placeLines (Text.times · indent) pieces

/-- The indent of one level, unless another is asked for. -/
def standardIndent : Text := "  "

end StructuredText.Xml
