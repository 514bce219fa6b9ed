/-
# Editors

What a text editor keeps of the text that is put into it: every kind of line end becomes a line
feed, and a blank that must not break becomes a plain one.
-/
import StructuredText.Text.Lines

namespace StructuredText.Desktop

/-- A code point that an editor takes for a line end: the line and paragraph separators, and the
two code points by which rich text marks the ends of frames. -/
def isEditorLineEnd (c : CodePoint) : Bool :=
  c.val == 0x2028 || c.val == 0x2029 || c.val == 0xFDD0 || c.val == 0xFDD1

/-- How an editor keeps a code point. -/
def keptCodePoint (c : CodePoint) : CodePoint :=
  if isEditorLineEnd c then '\n' else if c.val = 0xA0 then ' ' else c

/-- What an editor keeps of a text. -/
def keptText (t : Text) : Text := t.unifyLineEnds.map keptCodePoint

end StructuredText.Desktop
