/-
# Reformatting JSON texts

From one text of a document to another: reading, sorting on request, writing.  The same
reading serves the minified form and the check of a text.

* `reformat` answers blank input with an empty text and no document;
* `validate` tells what kind of document a text holds, or where it fails.
-/
import StructuredText.Text.Blank
import StructuredText.Json.Parser
import StructuredText.Json.Sorting
import StructuredText.Json.Printer

namespace StructuredText.Json

/-- How many containers may stand inside each other where documents are read and where keys
are sorted. -/
structure NestingLimits where
  reading : Nat
  sorting : Nat

/-- The limits in force. -/
def NestingLimits.standard : NestingLimits := ⟨maxReadLevels, 500⟩

/-- A text written anew, with the document it holds if there is one. -/
structure Reformatted where
  text : Text
  document : Option Value

/-- Why a text could not be written anew. -/
inductive Refusal
  | unreadable (fault : Fault)
  | unwritable (layout : Layout) (cause : Unwritable)

/-- The refusal as a diagnostic about the whole text. -/
def Refusal.diagnostic (whole : Text) : Refusal → Diagnostic
  | unreadable fault => fault.diagnostic whole
  | unwritable layout cause => { subject := .json, message := cause.message layout }

/-- The document in the order of keys that is asked for. -/
def arrange (limits : NestingLimits) (o : FormatOptions) (v : Value) : Except Fault Value :=
  if o.sorting then
    if limits.sorting < v.levels then .error .tooDeepToSort else .ok v.sortKeys
  else .ok v

/-- Writes a text anew within given limits. -/
def reformatWithin (limits : NestingLimits) (o : FormatOptions) (text : Text) :
    Except Refusal Reformatted := do
  if text.isBlank then return ⟨[], none⟩
  let read ← (parseWithin limits.reading text).mapError .unreadable
  let shaped ← (arrange limits o read).mapError .unreadable
  let written ← (serialize o shaped).mapError (.unwritable o.layout)
  return ⟨written, some shaped⟩

/-- Writes a text anew. -/
def reformat (o : FormatOptions) (text : Text) : Except Refusal Reformatted :=
  reformatWithin .standard o text

/-- Writes a text anew without any blank outside strings, within given limits. -/
def minifyWithin (limits : NestingLimits) (text : Text) : Except Refusal Reformatted :=
  reformatWithin limits { style := .minified } text

/-- Writes a text anew without any blank outside strings. -/
def minify (text : Text) : Except Refusal Reformatted := minifyWithin .standard text

/-! ## Checking -/

/-- What a valid document is told to be. -/
def Value.description (v : Value) : Text :=
  match v with
  | .object members =>
    Text.concat ["有效的 JSON 对象，包含 ", Text.ofNat members.length, " 个键"]
  | .array items =>
    Text.concat ["有效的 JSON 数组，包含 ", Text.ofNat items.length, " 个元素"]
  | _ => Text.concat ["有效的 JSON 值 (类型: ", v.kind.name, ")"]

/-- What is told of a text that is no document. -/
def Fault.report (whole : Text) (fault : Fault) : Text :=
  match fault.position? whole with
  | none => Text.concat ["JSON 语法错误:\n", fault.message]
  | some p =>
    Text.concat ["JSON 语法错误:\n行 ", Text.ofNat p.line, ", 列 ", Text.ofNat p.column, ": ",
      fault.message]

/-- Whether a text is a document within given limits, with a description or the reason why not. -/
def validateWithin (limits : NestingLimits) (text : Text) : Bool × Text :=
  match parseWithin limits.reading text with
  | .ok v => (true, v.description)
  | .error fault => (false, fault.report text)

/-- Whether a text is a document, with a description or the reason why not. -/
def validate (text : Text) : Bool × Text := validateWithin .standard text

end StructuredText.Json
