/-
# Reindenting XML texts

A text that is a well-formed document is laid out anew, one tag a line; any other text is
refused with its first fault.  Documents are judged as bytes, so a text that has none is no
document either.

* `inspect` judges a text;
* `layOut` lays it out with any margins, `reindent` with an indent for each level.
-/
import StructuredText.Text.Utf8
import StructuredText.Xml.Document
import StructuredText.Xml.TagLine

namespace StructuredText.Xml

/-- Why a text is refused. -/
inductive Refusal
  /-- The text holds a lone surrogate, so there are no bytes of it. -/
  | unencodable (e : Utf8.EncodeError)
  | illFormed (d : Diagnostic)

/-- The wording of a refusal, with the place of the fault. -/
def Refusal.summary : Refusal → Text
  | unencodable e => e.message
  | illFormed d => d.summary

/-- Accepts a text that is a well-formed document. -/
def inspect (text : Text) : Except Refusal Unit := do
  let _ ← (Utf8.encode text).mapError .unencodable
  match check text with
  | some diagnostic => throw (.illFormed diagnostic)
  | none => return ()

/-- Lays out a document anew, each line behind the margin of its depth.  Blank input gives an
empty text. -/
def layOut (margin : Nat → Text) (text : Text) : Except Refusal Text := do
  if text.isBlank then return []
  let unified := text.unifyLineEnds
  inspect unified.trim
  return placeLines margin (splitTagLines unified)

/-- Lays out a document anew, each line behind as many indents as its depth. -/
def reindent (text indent : Text) : Except Refusal Text := layOut (Text.times · indent) text

end StructuredText.Xml
