/-
# Formatting options

How a JSON text is to be written: a style, an indentation width, and whether keys are sorted
and code points beyond ASCII escaped.
-/
import StructuredText.Text.Numeral

namespace StructuredText.Json

/-- The styles of writing.  `table` and `tree` name views of a document; as text they are
written like `pretty`. -/
inductive Style
  | pretty | compact | sorted | minified | table | tree
deriving DecidableEq

namespace Style

/-- Every style, in the order in which they are offered. -/
def all : List Style := [pretty, compact, sorted, minified, table, tree]

/-- The name by which a style is asked for. -/
def name : Style → String
  | pretty => "pretty"
  | compact => "compact"
  | sorted => "sorted"
  | minified => "minified"
  | table => "table"
  | tree => "tree"

/-- What a style is called on screen. -/
def label : Style → String
  | pretty => "美化（展开）"
  | compact => "紧凑"
  | sorted => "键名排序"
  | minified => "压缩"
  | table => "表格"
  | tree => "交互树"

/-- The style of a name. -/
def ofName? (name : Text) : Option Style := all.find? fun s => (s.name : Text) = name

end Style

/-- The indentation widths. -/
inductive IndentWidth
  | two | four | eight
deriving DecidableEq

namespace IndentWidth

/-- Every width. -/
def all : List IndentWidth := [two, four, eight]

/-- How many columns one level is indented. -/
def columns : IndentWidth → Nat
  | two => 2
  | four => 4
  | eight => 8

/-- What a width is called on screen. -/
def label (w : IndentWidth) : String := toString w.columns ++ " 空格"

/-- The width with a number of columns. -/
def ofColumns? (n : Int) : Option IndentWidth := all.find? fun w => (w.columns : Int) = n

end IndentWidth

/-- How to write a JSON text. -/
structure FormatOptions where
  style : Style := .pretty
  width : IndentWidth := .two
  sortKeys : Bool := false
  escapeNonAscii : Bool := false
deriving DecidableEq

/-- Why options were refused. -/
inductive OptionError
  | unknownStyle (name : Text)
  /-- The width comes as it was written. -/
  | unknownWidth (columns : Text)
deriving DecidableEq

/-- Names the refused option. -/
def OptionError.message : OptionError → Text
  | unknownStyle name => ("不支持的格式风格: " : Text) ++ name
  | unknownWidth columns => ("不支持的缩进宽度: " : Text) ++ columns

namespace FormatOptions

/-- Keys are sorted on request, and always in the sorted style. -/
def sorting (o : FormatOptions) : Bool := o.sortKeys || o.style = .sorted

/-- Options from a style's name and a number of columns; of two faults the style is told. -/
def ofFields (style : Text) (columns : Int) (sortKeys escapeNonAscii : Bool) :
    Except OptionError FormatOptions := do
  let some style := Style.ofName? style | throw (.unknownStyle style)
  let some width := IndentWidth.ofColumns? columns | throw (.unknownWidth (Text.ofInt columns))
  return { style, width, sortKeys, escapeNonAscii }

end FormatOptions

end StructuredText.Json
