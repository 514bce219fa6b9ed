/-
# The program

The command line program.  What it does is decided by `CommandLine.run`; here the files that it
names are looked up, and what comes of the run is written out.
-/
import StructuredText.CommandLine.Run

namespace StructuredText.Program

open CommandLine

/-- Everything that a stream still holds. -/
partial def readAll (stream : IO.FS.Stream) (read : ByteArray) : IO ByteArray := do
  let bytes ← stream.read 65536
  if bytes.isEmpty then return read else readAll stream (read ++ bytes)

/-- What stands under a name on disk, if anything does. -/
def entryOnDisk? (name : String) : IO (Option Entry) := do
  let path := (← IO.currentDir) / name
  if ← path.isDir then return some .directory
  if ← path.pathExists then return some (.file (← IO.FS.readBinFile path).toList)
  return none

/-- The names of the places on the way to a file, and of the file itself. -/
def namesOnTheWay (name : Text) : List Text :=
  let parts := FileName.parts name
  (List.range parts.length).map fun i =>
    ((parts.take (i + 1)).foldl Location.enter (Location.start name)).name

/-- The part of the disk that some names lead through. -/
def filesOnDisk (names : List Text) : IO FileSystem := do
  let entries ← (names.flatMap namesOnTheWay).mapM fun name => do
    return (← entryOnDisk? name.toString).map fun entry => (name, entry)
  return entries.filterMap id

/-- Writes a file where a run has changed it. -/
def writeBack (before after : FileSystem) (name : Text) : IO Unit := do
  match after.read name, before.read name with
  | .ok bytes, .ok old => if bytes ≠ old then write bytes
  | .ok bytes, .error _ => write bytes
  | .error _, _ => return
where
  /-- Writes the bytes of the file. -/
  write (bytes : List UInt8) : IO Unit := do
    IO.FS.writeBinFile ((← IO.currentDir) / name.toString) ⟨bytes.toArray⟩

/-- Runs the program on the words of a command line. -/
def run (words : List Text) : IO UInt32 := do
  let (input, output) := match Invocation.ofWords words with
    | .ok i => (i.input, i.output)
    | .error _ => ([], [])
  let files ← filesOnDisk [input, output]
  let stdin ← if input = "-" then readAll (← IO.getStdin) .empty else pure .empty
  let outcome := CommandLine.run Sql.standardEngine words stdin.toList files
  writeBack files outcome.files output
  (← IO.getStdout).putStr outcome.output.toString
  (← IO.getStderr).putStr outcome.messages.toString
  match outcome.ending with
  | .exit code => return code.number.toUInt32
  | .aborted cause => throw (IO.userError (message cause))
where
  /-- What is told of a run that broke off. -/
  message : Abort → String
    | .unencodable => "the text holds a lone surrogate"
    | .unnameable f => f.message.toString
    | .indentMissing => "the indent is no number"
    | .indentTooLarge f => f.message.toString

end StructuredText.Program

/-- Runs the program. -/
def main (args : List String) : IO UInt32 :=
  StructuredText.Program.run (args.map StructuredText.Text.ofString)
