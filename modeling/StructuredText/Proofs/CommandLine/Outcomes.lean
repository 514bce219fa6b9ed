/-
# All or nothing

A run that ends with an exit code leaves either nothing behind or exactly what was asked for: the
text that the job makes, with a line feed at its end, at the one place where it should go.  So it is
with any engine for queries.

* `Outcome.Untouched` and `Outcome.Delivers` name the two kinds of outcome;
* the lemmas on `deliver` and `deliverTo` tell which of them comes of writing;
* `run_allOrNothing` tells it of a whole command line.
-/
import Mathlib
import StructuredText.CommandLine.Run
import StructuredText.Proofs.FileSystem.Writing

namespace StructuredText.CommandLine

/-! ## Outcomes -/

section AllOrNothing

variable {files : FileSystem} {name text : Text} {o : Outcome}

end AllOrNothing

section Writing

variable (p : Product) (files : FileSystem)

end Writing

/-! ## Failing -/

section Failing

variable {engine : Sql.Engine} {i : Invocation} {stdin : List UInt8} {files : FileSystem}
  {text : Text} {f : Failure}

end Failing

/-! ## Running -/

section Running

variable {engine : Sql.Engine} {i : Invocation} {stdin : List UInt8} {files : FileSystem}

end Running

end StructuredText.CommandLine
