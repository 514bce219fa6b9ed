/-
# Invocations

What a command line asks for: a job with its settings, the file to read and the file to write.
Words are read from left to right, so that of several faults the first one is told, and a
request for help is answered in its place.  The last of several values of an option counts.

* `Job.set` enters one option into a job;
* `Draft.read` reads the words of a command;
* `Invocation.ofWords` reads a whole command line.
-/
import StructuredText.Json.Fault
import StructuredText.CommandLine.Word

namespace StructuredText.CommandLine

/-! ## Jobs -/

/-- The settings for JSON texts.  Style or width are missing where the value given was just the
end mark, which counts as no value at all. -/
structure JsonJob where
  style : Option Json.Style := some .pretty
  width : Option Json.IndentWidth := some .two
  sortKeys : Bool := false
  escapeNonAscii : Bool := false
  validate : Bool := false

/-- The settings for XML texts.  The indent, in blanks, is missing where the value given was just
the end mark. -/
structure XmlJob where
  indentUnit : Option Int := some 2

/-- The settings for queries.  Case or width are missing where the value given was just the end
mark. -/
structure SqlJob where
  keywordCase : Option Sql.KeywordCase := some .upper
  width : Option Json.IndentWidth := some .two
  compact : Bool := true

/-- What is to be done with a text. -/
inductive Job
  | json (settings : JsonJob)
  | xml (settings : XmlJob)
  | sql (settings : SqlJob)

namespace Job

/-- The job of a command before any option was read. -/
def ofCommand : Command → Job
  | .json => json {}
  | .xml => xml {}
  | .sql => sql {}

/-- An integer given to an option.  An integer of too many digits is none. -/
def readInteger (s : Switch) (value : Text) : Except UsageFault Int :=
  let digits := value.countP fun c => c.anyDigitValue?.isSome
  match value.integer? with
  | some n => if digits ≤ Json.maxIntegerDigits then .ok n else .error (.noInteger s value)
  | none => .error (.noInteger s value)

/-- The indentation width given to an option, unless it is just the end mark. -/
def readWidth (s : Switch) (value : Text) : Except UsageFault (Option Json.IndentWidth) := do
  if value = endMark then return none
  let n ← readInteger s value
  let some width := Json.IndentWidth.ofColumns? n | throw (.noChoice s (Text.ofInt n))
  return some width

/-- The indent given to an option, unless it is just the end mark. -/
def readUnit (s : Switch) (value : Text) : Except UsageFault (Option Int) :=
  if value = endMark then .ok none else (readInteger s value).map some

/-- The style given to an option, unless it is just the end mark. -/
def readStyle (s : Switch) (value : Text) : Except UsageFault (Option Json.Style) := do
  if value = endMark then return none
  let some style := Json.Style.ofName? value | throw (.noChoice s value.shown)
  return some style

/-- The case of keywords given to an option, unless it is just the end mark. -/
def readCase (s : Switch) (value : Text) : Except UsageFault (Option Sql.KeywordCase) := do
  if value = endMark then return none
  let named (k : Sql.KeywordCase) : Bool := (k.name?.getD "preserve" : Text) = value
  let some keywordCase := Sql.KeywordCase.all.find? named | throw (.noChoice s value.shown)
  return some keywordCase

/-- Enters an option with its value. -/
def set (s : Switch) (value : Text) : Job → Except UsageFault Job
  | json j =>
    match s with
    | .style => return json { j with style := ← readStyle s value }
    | .indent => return json { j with width := ← readWidth s value }
    | .sortKeys => return json { j with sortKeys := true }
    | .escapeUnicode => return json { j with escapeNonAscii := true }
    | .validate => return json { j with validate := true }
    | _ => return json j
  | xml j =>
    match s with
    | .indentUnit => return xml { j with indentUnit := ← readUnit s value }
    | _ => return xml j
  | sql j =>
    match s with
    | .keywordCase => return sql { j with keywordCase := ← readCase s value }
    | .indent => return sql { j with width := ← readWidth s value }
    | .noCompact => return sql { j with compact := false }
    | _ => return sql j

end Job

/-! ## Reading the words of a command -/

/-- What a command line asks for.  A lone minus sign is the standard input, and no name at all
the standard output. -/
structure Invocation where
  input : Text := "-"
  output : Text := []
  job : Job

/-- Why a command line asks for no job. -/
inductive Stop
  /-- Help was asked for, on a command or on the program. -/
  | help (command : Option Command)
  /-- A word is at fault, of a command or before any. -/
  | fault (command : Option Command) (f : UsageFault)

/-- What the words of a command have asked for so far, and those that nobody asked for, the last
one first. -/
structure Draft where
  command : Command
  input : Option Text := none
  output : Text := []
  job : Job
  leftover : List Text := []

namespace Draft

/-- Sets a word aside. -/
def leave (word : Text) (d : Draft) : Draft := { d with leftover := word :: d.leftover }

/-- A draft, or the fault of its command. -/
def attempt {α : Type} (command : Command) (x : Except UsageFault α) : Except Stop α :=
  x.mapError (.fault (some command))

/-- Enters an option with its value. -/
def set (s : Switch) (value : Text) (d : Draft) : Except Stop Draft :=
  match s with
  | .help => .error (.help (some d.command))
  | .output => .ok { d with output := if value = endMark then [] else value }
  | s => do return { d with job := ← attempt d.command (d.job.set s value) }

/-- Enters the options of one word, of which only the last has a value. -/
def setAll (value : Text) : List Switch → Draft → Except Stop Draft
  | [], d => .ok d
  | s :: rest, d => do setAll value rest (← d.set s (if rest.isEmpty then value else []))

/-- Enters an option, together with the options of its word.  One that takes a value takes the text
that follows if none is attached; whether it does is told besides. -/
def enter (s : Switch) (attached : Attachment) (following : Option Text) (d : Draft) :
    Except Stop (Draft × Bool) := do
  let (switches, value) ← attempt d.command (s.unfold (Command.switches d.command) attached)
  match value, (switches.getLast?.getD s).takesValue, following with
  | some value, _, _ => return (← setAll value switches d, false)
  | none, false, _ => return (← setAll [] switches d, false)
  | none, true, some value => return (← setAll value switches d, true)
  | none, true, none =>
    throw (.fault (some d.command) (.valueMissing (switches.getLast?.getD s)))

/-- Reads words, in their order.  The first word of its own is the file, together with the end
mark right before it or right behind it. -/
def read : List Word → Draft → Except Stop Draft
  | [], d => .ok d
  | .plain t :: rest, d =>
    match d.input, rest with
    | none, .endOfOptions :: rest => read rest { d with input := some t }
    | none, rest => read rest { d with input := some t }
    | some _, rest => read rest (d.leave t)
  | .endOfOptions :: rest, d =>
    match d.input, rest with
    | none, .plain t :: rest => read rest { d with input := some t }
    | none, rest => read rest d
    | some _, rest => read rest (d.leave endMark)
  | .unknown t :: rest, d => read rest (d.leave t)
  | .switch s attached :: .plain t :: rest, d => do
    let (d, taken) ← d.enter s attached (some t)
    if taken then read rest d else read (.plain t :: rest) d
  | .switch s attached :: rest, d => do
    let (d, _) ← d.enter s attached none
    read rest d

/-- Reads the words of a command. -/
def ofWords (command : Command) (words : List Text) : Except Stop Draft := do
  let read ← attempt command (Word.readAll (Command.switches command) words)
  Draft.read read { command, job := .ofCommand command }

end Draft

/-! ## Reading a command line -/

namespace Invocation

/-- What a draft asks for, if no word was left over. -/
def ofDraft (before : List Text) (d : Draft) : Except Stop Invocation :=
  match before ++ d.leftover.reverse with
  | [] => .ok { input := d.input.getD "-", output := d.output, job := d.job }
  | words => .error (.fault none (.unrecognized words))

/-- Reads the words from the command on, when some were set aside before it. -/
def ofCommandWords (before : List Text) : List Text → Except Stop Invocation
  | [] => .error (.fault none .commandMissing)
  | word :: rest =>
    match Command.ofName? word with
    | none => .error (.fault none (.unknownCommand word))
    | some command => do ofDraft before (← Draft.ofWords command rest)

/-- Reads words up to the command; those of them that look like options are set aside.  An end
mark is taken for the command if more words follow. -/
def ofWordsAfter (before : List Text) : List Text → Except Stop Invocation
  | [] => .error (.fault none .commandMissing)
  | word :: rest =>
    if word = endMark then
      if rest.isEmpty then .error (.fault none .commandMissing)
      else ofCommandWords before (word :: rest)
    else
      match Word.read? (Command.switches none) word with
      | .error f => .error (.fault none f)
      | .ok (.switch s attached) =>
        match s.unfold (Command.switches none) attached with
        | .error f => .error (.fault none f)
        | .ok _ => .error (.help none)
      | .ok (.unknown t) => ofWordsAfter (before ++ [t]) rest
      | .ok _ => ofCommandWords before (word :: rest)

/-- Reads a command line. -/
def ofWords (words : List Text) : Except Stop Invocation := ofWordsAfter [] words

end Invocation

end StructuredText.CommandLine
