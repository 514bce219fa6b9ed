/-
# Running a command line

A whole run as a function: from the words of the command line, the bytes of the standard input
and the files to an exit code, the texts of both outputs and the files afterwards.  A run reads,
then performs its job, then writes; whatever fails, nothing after it happens.  Queries are laid out
by an engine, which is exchangeable here too.

* `Job.perform` is what a job makes of a text;
* `run` is the run.
-/
import StructuredText.FileSystem
import StructuredText.Text.Utf8
import StructuredText.Json.Reformat
import StructuredText.Json.Table
import StructuredText.Json.Tree
import StructuredText.Xml.Reindent
import StructuredText.Sql.Format
import StructuredText.CommandLine.Help
import StructuredText.CommandLine.Invocation

namespace StructuredText.CommandLine

/-! ## Outcomes -/

/-- The exit codes of the program. -/
inductive ExitCode
  | success | formatError | usageError
deriving DecidableEq

/-- The number of an exit code. -/
def ExitCode.number : ExitCode → Nat
  | success => 0
  | formatError => 1
  | usageError => 2

/-- Why a run breaks off without an exit code. -/
inductive Abort
  /-- The text to be written holds a lone surrogate, so there are no bytes for it. -/
  | unencodable
  /-- The name given for a file can be the name of none. -/
  | unnameable (f : NameFault)
  /-- The indent was left without a number. -/
  | indentMissing
  /-- There can be no indent of so many blanks. -/
  | indentTooLarge (f : Text.RepeatFault)
deriving DecidableEq

/-- How a run ends. -/
inductive Ending
  | exit (code : ExitCode)
  | aborted (cause : Abort)
deriving DecidableEq

/-- Why a run stops before it writes anything. -/
inductive Failure
  /-- An exit code, and what is told. -/
  | reported (code : ExitCode) (message : Text)
  | aborted (cause : Abort)

/-- What comes of a run. -/
structure Outcome where
  ending : Ending
  /-- What was written to the standard output. -/
  output : Text
  /-- What was told on the standard error output. -/
  messages : Text
  /-- The files afterwards. -/
  files : FileSystem

/-- A line about something that went well. -/
def successLine (message : Text) : Text := Text.concat ["  [OK] ", message, "\n"]

/-- A line about something that failed. -/
def errorLine (message : Text) : Text := Text.concat ["  [ERROR] ", message, "\n"]

/-- The outcome of a run that stops before it writes: no output, and no file touched. -/
def Failure.outcome (files : FileSystem) : Failure → Outcome
  | reported code message => ⟨.exit code, [], errorLine message, files⟩
  | aborted cause => ⟨.aborted cause, [], [], files⟩

/-! ## Performing a job -/

/-- What a job makes of a text: another text, and what is told besides. -/
structure Product where
  text : Text
  messages : Text := []

/-- A value that an option was left without, as told in messages. -/
def noValue : Text := "[]"

/-- The formatting options of a job. -/
def JsonJob.options (j : JsonJob) : Except Json.OptionError Json.FormatOptions := do
  let some style := j.style | throw (.unknownStyle noValue)
  let some width := j.width | throw (.unknownWidth noValue)
  return { style, width, sortKeys := j.sortKeys, escapeNonAscii := j.escapeNonAscii }

/-- The view of a formatted document that a style shows. -/
def view (style : Json.Style) (r : Json.Reformatted) : Except Json.DigitFault Text :=
  match style, r.document with
  | .table, some v => (Json.Table.ofValue v).map (·.render "\t")
  | .tree, some v => ((Json.Node.ofValue v).render "  ").map Text.unlines
  | _, _ => .ok r.text

/-- Checks or formats a JSON text.  A failure comes as told in messages. -/
def JsonJob.perform (j : JsonJob) (text : Text) : Except Text Product :=
  if j.validate then
    let (ok, message) := Json.validate text
    let line := Text.join (" " : Text) message.lines
    if ok then .ok { text := [], messages := successLine line } else .error line
  else do
    let options ← j.options.mapError Json.OptionError.message
    let formatted ← (Json.reformat options text).mapError fun refusal =>
      ("JSON 错误: " : Text) ++ (refusal.diagnostic text).summary
    let text ← (view options.style formatted).mapError Json.DigitFault.message
    return { text }

/-- The margins of an XML text: for each level as many blanks as the job asks for, or none if it
asks for less than none. -/
def XmlJob.margin (j : XmlJob) : Except Abort (Nat → Text) := do
  let some indent := j.indentUnit | throw .indentMissing
  (Text.checkRepeat indent " ").mapError .indentTooLarge
  return fun depth => Text.spaces (depth * indent.toNat)

/-- Lays out an XML text anew.  The indent is made first, whatever the text is. -/
def XmlJob.perform (j : XmlJob) (text : Text) : Except Failure Product := do
  let margin ← j.margin.mapError .aborted
  let laidOut ← (Xml.layOut margin text).mapError fun refusal =>
    .reported .formatError (("XML 错误: " : Text) ++ refusal.summary)
  return { text := laidOut }

/-- Formats a query.  A missing width is noticed only where there is something to lay out. -/
def SqlJob.perform (engine : Sql.Engine) (j : SqlJob) (text : Text) : Except Text Product :=
  match j.keywordCase, j.width with
  | none, _ => .error (Sql.FormatError.unknownCase noValue).message
  | some keywordCase, some width => do
    let request : Sql.FormatRequest :=
      { text, caseName := keywordCase.name?.map Text.ofString, indentWidth := width.columns,
        compact := j.compact }
    return { text := ← (Sql.formatWith engine request).mapError Sql.FormatError.message }
  | some _, none =>
    if text.isBlank then .ok { text := [] }
    else .error (Sql.FormatError.notLaidOut (.refused "indent_width requires an integer")).message

/-- What a job makes of a text. -/
def Job.perform (engine : Sql.Engine) (job : Job) (text : Text) : Except Failure Product :=
  match job with
  | json j => (j.perform text).mapError (.reported .formatError)
  | xml j => j.perform text
  | sql j => (j.perform engine text).mapError (.reported .formatError)

/-! ## Reading and writing -/

/-- Goes on with a name that can be the name of a file. -/
def checkName (name : Text) : Except Failure Unit :=
  match NameFault.of? name with
  | some f => .error (.aborted (.unnameable f))
  | none => .ok ()

/-- The text to work on, with its line ends in one spelling. -/
def Invocation.readInput (i : Invocation) (stdin : List UInt8) (files : FileSystem) :
    Except Failure Text := do
  let refuse (message : Text) : Failure :=
    .reported .usageError (("读取失败: " : Text) ++ message)
  let bytes ←
    if i.input = "-" then pure stdin
    else do
      checkName i.input
      (files.read i.input).mapError fun e => refuse (e.message i.input)
  let text ← (Utf8.decode bytes).mapError fun e => refuse e.message
  return text.unifyLineEnds

/-- A text as it is written out: with a line feed at its end, unless it is empty. -/
def ended (text : Text) : Text :=
  if text.isEmpty ∨ text.getLast? = some '\n' then text else text ++ [CodePoint.ofChar '\n']

/-- Writes a product to the standard output. -/
def deliver (p : Product) (files : FileSystem) : Outcome :=
  match Utf8.encode p.text with
  | .ok _ => ⟨.exit .success, ended p.text, p.messages, files⟩
  | .error _ => ⟨.aborted .unencodable, [], p.messages, files⟩

/-- Writes a product to a file.  The file is there, and empty, before the text is turned into
bytes. -/
def deliverTo (name : Text) (p : Product) (files : FileSystem) : Outcome :=
  match files.write name [], Utf8.encode (ended p.text) with
  | .error e, _ =>
    let line := errorLine (("写入失败: " : Text) ++ e.message name)
    ⟨.exit .usageError, [], p.messages ++ line, files⟩
  | .ok emptied, .error _ => ⟨.aborted .unencodable, [], p.messages, emptied⟩
  | .ok emptied, .ok bytes =>
    let line := successLine (("已写入: " : Text) ++ name)
    ⟨.exit .success, [], p.messages ++ line, FileSystem.put name bytes emptied⟩

/-! ## The run -/

/-- What a command line that asks for a job has to write, if it gets so far. -/
def Invocation.produce (engine : Sql.Engine) (i : Invocation) (stdin : List UInt8)
    (files : FileSystem) : Except Failure Product := do
  i.job.perform engine (← i.readInput stdin files)

/-- What comes of a command line that asks for a job. -/
def Invocation.run (engine : Sql.Engine) (i : Invocation) (stdin : List UInt8)
    (files : FileSystem) : Outcome :=
  match i.produce engine stdin files with
  | .error f => f.outcome files
  | .ok product =>
    if i.output.isEmpty then deliver product files
    else
      match NameFault.of? i.output with
      | some f => ⟨.aborted (.unnameable f), [], product.messages, files⟩
      | none => deliverTo i.output product files

/-- A message as it can be told: a lone surrogate is written by its number. -/
def tellable (message : Text) : Text :=
  message.flatMap fun c => if c.isSurrogate then ("\\u" : Text) ++ Text.ofHex4 c.val else [c]

/-- What comes of a command line, with messages that may hold lone surrogates. -/
def Outcome.ofWords (engine : Sql.Engine) (words : List Text) (stdin : List UInt8)
    (files : FileSystem) : Outcome :=
  match Invocation.ofWords words with
  | .ok i => i.run engine stdin files
  | .error (.help c) => ⟨.exit .success, help c, [], files⟩
  | .error (.fault c f) => ⟨.exit .usageError, [], f.report c, files⟩

/-- What comes of a command line. -/
def run (engine : Sql.Engine) (words : List Text) (stdin : List UInt8) (files : FileSystem) :
    Outcome :=
  let outcome := Outcome.ofWords engine words stdin files
  { outcome with messages := tellable outcome.messages }

end StructuredText.CommandLine
