/-
# Release

The name and the version under which the program goes.
-/
import StructuredText.Text.CodePoint

namespace StructuredText.Release

/-- The name of the program. -/
def name : Text := "fmtkit"

/-- The version of the program. -/
def version : Text := "0.1.0"

end StructuredText.Release
