/-
# Formatting queries

A query is laid out by an engine and then, if wanted, compacted: lines that belong together
are merged and short groups joined.  The engine is exchangeable; all that is fixed here is
when it is called, with what, and what becomes of its answer.

* `compact` is the compaction alone;
* `formatWith` formats with any engine, `format` with the one of this library.
-/
import StructuredText.Sql.Layout
import StructuredText.Sql.Lines
import StructuredText.Sql.Parentheses

namespace StructuredText.Sql

/-- A query with lines merged and short groups joined. -/
def compact (t : Text) : Text := compactParentheses (Text.unlines (mergeLines t.lines))

/-- What an engine is asked to lay out. -/
structure LayoutRequest where
  text : Text
  indentWidth : Int
  keywordCase : KeywordCase
deriving DecidableEq

/-- Lays out a query, or fails. -/
abbrev Engine := LayoutRequest → Except LayoutFailure Text

/-- The engine of this library. -/
def standardEngine : Engine := fun r => layOut r.indentWidth r.keywordCase r.text

/-- What is asked for: a query, the name of a case for its keywords, an indentation width, and
whether to compact. -/
structure FormatRequest where
  text : Text
  caseName : Option Text := some "upper"
  indentWidth : Int := 2
  compact : Bool := true

/-- Why a query was not formatted. -/
inductive FormatError
  | unknownCase (name : Text)
  | notLaidOut (failure : LayoutFailure)
deriving DecidableEq

/-- The wording of a refusal. -/
def FormatError.message : FormatError → Text
  | unknownCase name => ("不支持的关键字大小写: " : Text) ++ name
  | notLaidOut (.refused explanation) => ("SQL 排版失败: " : Text) ++ explanation
  | notLaidOut (.margin f) => f.message

/-- The case of a name; no name keeps keywords as they are. -/
def KeywordCase.ofName (name : Option Text) : Except FormatError KeywordCase :=
  match name with
  | none => .ok .preserve
  | some name =>
    match all.find? fun k => k.name?.map Text.ofString = some name with
    | some k => .ok k
    | none => .error (.unknownCase name)

/-- What the engine is asked for; nothing at all for a blank query. -/
def FormatRequest.layoutRequest? (r : FormatRequest) : Except FormatError (Option LayoutRequest) := do
  let keywordCase ← KeywordCase.ofName r.caseName
  if r.text.isBlank then return none
  return some ⟨r.text, r.indentWidth, keywordCase⟩

/-- Formats a query with an engine. -/
def formatWith (engine : Engine) (r : FormatRequest) : Except FormatError Text := do
  match ← r.layoutRequest? with
  | none => return []
  | some request =>
    let laidOut ← (engine request).mapError .notLaidOut
    return if r.compact then Sql.compact laidOut.trim else laidOut.trim

/-- Formats a query. -/
def format (r : FormatRequest) : Except FormatError Text := formatWith standardEngine r

end StructuredText.Sql
