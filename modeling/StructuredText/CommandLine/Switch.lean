/-
# Commands and their options

The three commands of the program, the options that each of them takes, and the faults that a
use of them can have.

* `Command.switches` lists the options of a command in the order in which they are described;
* `UsageFault.message` words each fault.
-/
import StructuredText.Json.Options
import StructuredText.Sql.Layout
import StructuredText.Text.Shown

namespace StructuredText.CommandLine

/-! ## Options -/

/-- The options of all commands. -/
inductive Switch
  | help | output | style | indent | sortKeys | escapeUnicode | validate | indentUnit
  | keywordCase | noCompact
deriving DecidableEq

namespace Switch

/-- The names of an option, a short one before a long one. -/
def names : Switch → List Text
  | help => ["-h", "--help"]
  | output => ["-o", "--output"]
  | style => ["--style"]
  | indent => ["--indent"]
  | sortKeys => ["--sort-keys"]
  | escapeUnicode => ["--escape-unicode"]
  | validate => ["--validate"]
  | indentUnit => ["--indent-unit"]
  | keywordCase => ["--keyword-case"]
  | noCompact => ["--no-compact"]

/-- An option either takes one value or stands alone. -/
def takesValue : Switch → Bool
  | output | style | indent | indentUnit | keywordCase => true
  | help | sortKeys | escapeUnicode | validate | noCompact => false

/-- An option as told in messages. -/
def title (s : Switch) : Text := Text.join ("/" : Text) s.names

/-- The values that an option is limited to, as told in messages. -/
def choices : Switch → List Text
  | style => Json.Style.all.map fun s => Text.shown s.name
  | indent => Json.IndentWidth.all.map fun w => Text.ofNat w.columns
  | keywordCase => Sql.KeywordCase.all.map fun k => Text.shown (k.name?.getD "preserve")
  | _ => []

end Switch

/-! ## Commands -/

/-- What the program can be asked to do. -/
inductive Command
  | json | xml | sql
deriving DecidableEq

namespace Command

/-- Every command. -/
def all : List Command := [json, xml, sql]

/-- The word that asks for a command. -/
def name : Command → String
  | json => "json"
  | xml => "xml"
  | sql => "sql"

/-- The command of a word. -/
def ofName? (name : Text) : Option Command := all.find? fun c => (c.name : Text) = name

/-- The options of a command, or those that may stand before it. -/
def switches : Option Command → List Switch
  | none => [.help]
  | some json => [.help, .output, .style, .indent, .sortKeys, .escapeUnicode, .validate]
  | some xml => [.help, .output, .indentUnit]
  | some sql => [.help, .output, .keywordCase, .indent, .noCompact]

end Command

/-! ## Faults -/

/-- What is wrong with the words of a command line. -/
inductive UsageFault
  | commandMissing
  | unknownCommand (word : Text)
  | valueMissing (s : Switch)
  /-- A value was attached to an option that takes none. -/
  | valueAttached (s : Switch) (value : Text)
  | noInteger (s : Switch) (value : Text)
  /-- The value is none of the choices; it comes as told in messages. -/
  | noChoice (s : Switch) (shown : Text)
  /-- The word is the beginning of several names of options. -/
  | ambiguous (word : Text) (names : List Text)
  | unrecognized (words : List Text)
deriving DecidableEq

/-- The wording of a fault. -/
def UsageFault.message : UsageFault → Text
  | commandMissing => "the following arguments are required: command"
  | unknownCommand word =>
    Text.concat ["argument command: invalid choice: ", word.shown, " (choose from ",
      Text.join (", " : Text) (Command.all.map fun c => Text.shown c.name), ")"]
  | valueMissing s => Text.concat ["argument ", s.title, ": expected one argument"]
  | valueAttached s value =>
    Text.concat ["argument ", s.title, ": ignored explicit argument ", value.shown]
  | noInteger s value => Text.concat ["argument ", s.title, ": invalid int value: ", value.shown]
  | noChoice s shown =>
    Text.concat ["argument ", s.title, ": invalid choice: ", shown, " (choose from ",
      Text.join (", " : Text) s.choices, ")"]
  | ambiguous word names =>
    Text.concat ["ambiguous option: ", word, " could match ", Text.join (", " : Text) names]
  | unrecognized words =>
    Text.concat ["unrecognized arguments: ", Text.join (" " : Text) words]

end StructuredText.CommandLine
