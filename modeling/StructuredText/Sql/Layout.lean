/-
# Laying out a query

A query on several lines: a line for each clause, join and condition, and a line for each
item of a list, under the first one.  A query is read as words, literals, signs and blanks;
words that make up a keyword are put together and written in the case that is asked for.

* `tokens` reads a query;
* `units` finds the keywords;
* `layOut` writes it anew.
-/
import StructuredText.Text.Blank
import StructuredText.Text.Numeral
import StructuredText.Text.Repeat

namespace StructuredText.Sql

/-- How keywords are written. -/
inductive KeywordCase
  | upper | lower | capitalize | preserve
deriving DecidableEq

namespace KeywordCase

/-- Every case. -/
def all : List KeywordCase := [upper, lower, capitalize, preserve]

/-- The name of a case; keeping keywords as they are has none. -/
def name? : KeywordCase → Option String
  | upper => some "upper"
  | lower => some "lower"
  | capitalize => some "capitalize"
  | preserve => none

/-- What a case is called on screen. -/
def label : KeywordCase → String
  | upper => "大写"
  | lower => "小写"
  | capitalize => "首字母大写"
  | preserve => "保持不变"

/-- An ASCII letter in upper case. -/
def upperLetter (c : CodePoint) : CodePoint :=
  if c.between 0x61 0x7A then .ofNat (c.val - 0x20) else c

/-- A keyword in a case. -/
def apply (k : KeywordCase) (keyword : Text) : Text :=
  match k with
  | upper => keyword.map upperLetter
  | lower => keyword.map CodePoint.toAsciiLower
  | capitalize =>
    (keyword.take 1).map upperLetter ++ (keyword.drop 1).map CodePoint.toAsciiLower
  | preserve => keyword

end KeywordCase

/-! ## Tokens -/

/-- A piece of a query. -/
inductive Token
  | word (text : Text)
  | literal (text : Text)
  | sign (c : CodePoint)
  | blank (text : Text)
deriving DecidableEq

/-- A code point that stands for itself. -/
def isSign (c : CodePoint) : Bool := ("(),=<>;" : Text).contains c

/-- A code point of a word. -/
def isWordPart (c : CodePoint) : Bool := !c.isBlank && !isSign c && c != '\''

/-- The pieces of a query.  A string runs from quote to quote; a doubled quote inside it thus
is read as two strings side by side, which are written as they were. -/
def tokens (t : Text) : List Token :=
  match t with
  | [] => []
  | c :: r =>
    if c = '\'' then
      let inside := r.takeWhile fun (d : CodePoint) => d != '\''
      let after := r.dropWhile fun (d : CodePoint) => d != '\''
      .literal (c :: inside ++ after.take 1) :: tokens (after.drop 1)
    else if c.isBlank then
      .blank (c :: r.takeWhile CodePoint.isBlank) :: tokens (r.dropWhile CodePoint.isBlank)
    else if isSign c then .sign c :: tokens r
    else .word (c :: r.takeWhile isWordPart) :: tokens (r.dropWhile isWordPart)
termination_by t.length
decreasing_by
  · have := (List.dropWhile_suffix (l := r) fun (d : CodePoint) => d != '\'').length_le
    simp only [List.length_drop, List.length_cons]
    omega
  · have := (List.dropWhile_suffix (l := r) CodePoint.isBlank).length_le
    simp only [List.length_cons]
    omega
  · simp
  · have := (List.dropWhile_suffix (l := r) isWordPart).length_le
    simp only [List.length_cons]
    omega

/-! ## Keywords -/

/-- What a keyword does to the layout. -/
inductive Role
  /-- Opens the list of columns. -/
  | select
  /-- Stands between the opening of a list and its first item. -/
  | distinct
  /-- Opens a list on a new line, outside any condition. -/
  | listClause
  /-- Opens a new line outside any condition. -/
  | clause
  /-- Opens a new line. -/
  | source
  /-- Opens a new line, and conditions after it are indented. -/
  | condition
  /-- Opens a new line, unless it belongs to a range. -/
  | conjunction
  /-- Opens a new line. -/
  | disjunction
  /-- Opens a range. -/
  | range
  /-- A list between parentheses follows. -/
  | membership
  /-- Does nothing. -/
  | plain
deriving DecidableEq

/-- The keywords as words in lower case, longer ones before those that they begin with. -/
def keywords : List (List Text × Role) := [
  (["left", "outer", "join"], .source),
  (["left", "join"], .source),
  (["inner", "join"], .source),
  (["join"], .source),
  (["from"], .source),
  (["group", "by"], .listClause),
  (["order", "by"], .listClause),
  (["having"], .clause),
  (["limit"], .clause),
  (["offset"], .clause),
  (["where"], .condition),
  (["and"], .conjunction),
  (["or"], .disjunction),
  (["between"], .range),
  (["in"], .membership),
  (["select"], .select),
  (["distinct"], .distinct),
  (["not", "null"], .plain),
  (["null"], .plain),
  (["is"], .plain),
  (["on"], .plain),
  (["as"], .plain),
  (["asc"], .plain),
  (["desc"], .plain)]

/-- A keyword or any other piece of a query. -/
inductive QueryUnit
  | keyword (role : Role) (written : Text)
  | other (token : Token)
deriving DecidableEq

/-- The text of a keyword made of given words at the front of some tokens, with the number of
tokens that it takes. -/
def keywordText? : List Text → List Token → Option (Text × Nat)
  | [], _ => none
  | [w], .word text :: _ => if text.map CodePoint.toAsciiLower = w then some (text, 1) else none
  | w :: ws, .word text :: .blank gap :: rest =>
    if text.map CodePoint.toAsciiLower = w then
      (keywordText? ws rest).map fun (more, n) => (text ++ gap ++ more, n + 2)
    else none
  | _, _ => none

/-- The keyword at the front of some tokens. -/
def keywordAt? (ts : List Token) : Option (Role × Text × Nat) :=
  keywords.findSome? fun (ws, role) =>
    (keywordText? ws ts).map fun (text, n) => (role, text, n)

/-- Tokens with the keywords found; some tokens at the front belong to the keyword before. -/
def unitsFrom (taken : Nat) : List Token → List QueryUnit
  | [] => []
  | t :: rest =>
    match taken with
    | taken + 1 => unitsFrom taken rest
    | 0 =>
      match keywordAt? (t :: rest) with
      | some (role, text, n) => .keyword role text :: unitsFrom (n - 1) rest
      | none => .other t :: unitsFrom 0 rest

/-- A query as keywords and other pieces. -/
def units (t : Text) : List QueryUnit := unitsFrom 0 (tokens t)

/-! ## Writing -/

/-- What an open parenthesis belongs to. -/
inductive Group
  /-- Arguments side by side. -/
  | arguments
  /-- Items one below the other, at a column. -/
  | items (column : Nat)
deriving DecidableEq

/-- What was written so far, backwards, and what follows from it. -/
structure Page where
  written : Text := []
  /-- Where the next code point will stand on its line. -/
  column : Nat := 0
  /-- The column of the items of the list that was opened last. -/
  listColumn : Nat := 0
  /-- The next piece is the first item of a list. -/
  listOpens : Bool := false
  /-- Conditions are indented. -/
  inCondition : Bool := false
  /-- The next conjunction belongs to a range. -/
  inRange : Bool := false
  /-- A parenthesis that comes next opens a list. -/
  membership : Bool := false
  /-- Blanks that come next are dropped. -/
  skipBlanks : Bool := false
  groups : List Group := []

namespace Page

/-- Writes a text without line breaks. -/
def put (p : Page) (text : Text) : Page :=
  { p with
    written := text.reverse ++ p.written
    column := p.column + text.length
    listColumn := if p.listOpens then p.column else p.listColumn
    listOpens := false
    skipBlanks := false
    membership := false }

/-- Starts a new line at a column; blanks at the end of the line before are dropped. -/
def newLine (p : Page) (column : Nat) : Page :=
  { p with
    written := Text.spaces column ++ ("\n" : Text) ++ Text.trimStart p.written
    column }

/-- Writes a comma.  Among arguments a space follows, elsewhere a new line. -/
def comma (p : Page) : Page :=
  let after := match p.groups with
    | .arguments :: _ => p.put ", "
    | .items column :: _ => (p.put ",").newLine column
    | [] => (p.put ",").newLine p.listColumn
  { after with skipBlanks := true }

/-- The column where lines begin, if there can be as many blanks before it. -/
def margin (p : Page) (indentWidth : Nat) : Except Text.RepeatFault Nat := do
  if !p.inCondition then return 0
  Text.checkRepeat indentWidth " "
  return indentWidth

/-- Opens a parenthesis.  Columns inside it are told from the margin. -/
def openGroup (p : Page) (indentWidth : Nat) : Except Text.RepeatFault Page := do
  let _ ← p.margin indentWidth
  let opened := p.put "("
  return { opened with
    groups := (if p.membership then .items opened.column else .arguments) :: p.groups }

/-- Writes a keyword. -/
def putKeyword (p : Page) (indentWidth : Nat) (role : Role) (text : Text) :
    Except Text.RepeatFault Page := do
  match role with
  | .select => return { p.put text with listOpens := true }
  | .distinct =>
    return { ({ p with listOpens := false } : Page).put text with listOpens := p.listOpens }
  | .listClause => return { (p.newLine 0).put text with listOpens := true, inCondition := false }
  | .clause => return { (p.newLine 0).put text with inCondition := false }
  | .source => return (p.newLine 0).put text
  | .condition => return { (p.newLine 0).put text with inCondition := true }
  | .conjunction =>
    if p.inRange then return { p.put text with inRange := false }
    else return (p.newLine (← p.margin indentWidth)).put text
  | .disjunction => return (p.newLine (← p.margin indentWidth)).put text
  | .range => return { p.put text with inRange := true }
  | .membership => return { p.put text with membership := true }
  | .plain => return p.put text

/-- Writes a piece of a query. -/
def putUnit (indentWidth : Nat) (keywordCase : KeywordCase) (p : Page) :
    QueryUnit → Except Text.RepeatFault Page
  | .keyword role text => p.putKeyword indentWidth role (keywordCase.apply text)
  | .other (.blank text) =>
    if p.skipBlanks then .ok p
    else
      .ok { p with
        written := text.reverse ++ p.written
        column := p.column + text.length }
  | .other (.word text) => .ok (p.put text)
  | .other (.literal text) => .ok (p.put text)
  | .other (.sign c) =>
    if c = ',' then .ok p.comma
    else if c = '(' then p.openGroup indentWidth
    else if c = ')' then .ok { p.put [c] with groups := p.groups.drop 1 }
    else .ok (p.put [c])

end Page

/-- Why a query was not laid out. -/
inductive LayoutFailure
  /-- The engine refuses the request, with an explanation. -/
  | refused (explanation : Text)
  /-- There can be no indent of the width that was asked for. -/
  | margin (f : Text.RepeatFault)
deriving DecidableEq

/-- How many parentheses may be open inside each other. -/
def maxParentheses : Nat := 100

/-- The wording of a refusal of the width. -/
def widthRefused : Text := "indent_width requires a positive integer"

/-- The wording of a refusal of too many parentheses. -/
def depthRefused : Text :=
  Text.concat ["Maximum grouping depth exceeded (", Text.ofNat maxParentheses, ")."]

/-- The most parentheses that are open inside each other. -/
def parenthesisDepth (ts : List Token) : Nat :=
  (ts.foldl (fun (now, most) t =>
    if t = .sign '(' then (now + 1, max most (now + 1))
    else if t = .sign ')' then (now - 1, most)
    else (now, most)) (0, 0)).2

/-- A query on several lines. -/
def layOut (indentWidth : Int) (keywordCase : KeywordCase) (text : Text) :
    Except LayoutFailure Text := do
  if indentWidth ≤ 0 then throw (.refused widthRefused)
  if maxParentheses < parenthesisDepth (tokens text) then throw (.refused depthRefused)
  let page ← ((units text.trim).foldlM (Page.putUnit indentWidth.toNat keywordCase) {}).mapError
    .margin
  return Text.trim page.written.reverse

end StructuredText.Sql
