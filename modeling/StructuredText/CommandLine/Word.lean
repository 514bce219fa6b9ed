/-
# Words of a command line

What each word of a command line is, before anything is made of it: the name of an option, with
a value attached or without, or a word of its own.  A long name may be cut short as long as it
stays clear which one is meant, and from the first lone `--` on every word is a word of its own.

* `Word.read?` reads one word, `Word.readAll` the words of a command;
* `Switch.unfold` takes apart short names that share a word.
-/
import StructuredText.Text.Integer
import StructuredText.CommandLine.Switch

namespace StructuredText.CommandLine

/-- What stands behind the name of an option, in the same word. -/
inductive Attachment
  | nothing
  /-- A text behind a short name, with an equals sign between them or without. -/
  | toShort (text : Text)
  /-- A text behind a long name and an equals sign. -/
  | toLong (text : Text)
deriving DecidableEq

/-- What a word is. -/
inductive Word
  /-- A word of its own: a command, a file or the value of an option. -/
  | plain (text : Text)
  /-- The mark from which on there are no more options. -/
  | endOfOptions
  /-- An option, and what is attached to its name. -/
  | switch (s : Switch) (attached : Attachment)
  /-- Something that looks like an option and is none. -/
  | unknown (text : Text)
deriving DecidableEq

/-- The mark from which on there are no more options. -/
def endMark : Text := "--"

namespace Word

/-- The names of some options, each with its option. -/
def namesOf (known : List Switch) : List (Text × Switch) :=
  known.flatMap fun s => s.names.map fun name => (name, s)

/-- The option of a name. -/
def named? (known : List Switch) (name : Text) : Option Switch :=
  ((namesOf known).find? fun (n, _) => n = name).map (·.2)

/-- Whether a word begins like a long name. -/
def looksLong (word : Text) : Bool := Text.isPrefixOf "--" word

/-- A word cut at its first equals sign. -/
def splitAtEquals (word : Text) : Text × Attachment :=
  let name := word.takeWhile fun (c : CodePoint) => c ≠ '='
  match word.drop name.length with
  | [] => (name, .nothing)
  | _ :: value => (name, if looksLong name then .toLong value else .toShort value)

/-- A minus sign with digits, perhaps with a point before the last of them.  Such a word is no
option, also with a line feed behind it. -/
def isNegativeNumber (word : Text) : Bool :=
  let digits (t : Text) : Bool := t.all fun c => c.anyDigitValue?.isSome
  let line := if word.getLast? = some '\n' then word.dropLast else word
  match line with
  | [] => false
  | sign :: number =>
    let whole := number.takeWhile fun (c : CodePoint) => c ≠ '.'
    let ending := number.drop whole.length
    sign == '-' && digits whole && digits ending.tail &&
      (if ending.isEmpty then !whole.isEmpty else !ending.tail.isEmpty)

/-- The options that a word may stand for, each under its full name: a long name cut short, or
a short name with a value right behind it. -/
def candidates (known : List Switch) (word : Text) : List (Text × Word) :=
  if looksLong word then
    let (start, attached) := splitAtEquals word
    (namesOf known).filterMap fun (name, s) =>
      if start.isPrefixOf name then some (name, switch s attached) else none
  else
    (namesOf known).filterMap fun (name, s) =>
      if name = word.take 2 then some (name, switch s (.toShort (word.drop 2))) else none

/-- Reads a word that begins with a minus sign and is no name as it stands. -/
def readIndirect (known : List Switch) (word : Text) : Except UsageFault Word :=
  match candidates known word with
  | [] => .ok (if isNegativeNumber word || word.contains ' ' then plain word else unknown word)
  | [(_, meant)] => .ok meant
  | several => .error (.ambiguous word (several.map (·.1)))

/-- Reads a word, when some options are known.  The name as it stands comes first, then what
stands before an equals sign. -/
def read? (known : List Switch) (word : Text) : Except UsageFault Word :=
  let (name, attached) := splitAtEquals word
  if word.head? ≠ some '-' ∨ word.length = 1 then .ok (plain word)
  else
    match named? known word, named? known name with
    | some s, _ => .ok (switch s .nothing)
    | none, some s => .ok (switch s attached)
    | none, none => readIndirect known word

/-- Reads the words of a command. -/
def readAll (known : List Switch) : List Text → Except UsageFault (List Word)
  | [] => .ok []
  | word :: rest =>
    if word = endMark then .ok (endOfOptions :: rest.map plain)
    else do
      let first ← read? known word
      return first :: (← readAll known rest)

end Word

/-- Takes apart what is attached to a short name: the value of an option that takes one,
otherwise short names of further options.  Answers with all options of the word and the value
of the last one. -/
def Switch.unfoldShort (known : List Switch) (s : Switch) :
    Text → Except UsageFault (List Switch × Option Text)
  | [] => if s.takesValue then .ok ([s], some []) else .error (.valueAttached s [])
  | c :: more =>
    if s.takesValue then .ok ([s], some (c :: more))
    else
      match Word.named? known ['-', c], more with
      | none, _ => .error (.valueAttached s (c :: more))
      | some next, [] => .ok ([s, next], none)
      | some next, _ :: _ => do
        let (others, value) ← next.unfoldShort known more
        return (s :: others, value)

/-- The options that a word stands for, and the value attached to the last one. -/
def Switch.unfold (known : List Switch) (s : Switch) :
    Attachment → Except UsageFault (List Switch × Option Text)
  | .nothing => .ok ([s], none)
  | .toShort text => s.unfoldShort known text
  | .toLong value =>
    if s.takesValue then .ok ([s], some value) else .error (.valueAttached s value)

end StructuredText.CommandLine
