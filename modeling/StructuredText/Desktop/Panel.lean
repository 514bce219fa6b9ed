/-
# Panels

A panel of the desktop program: an editor for the input, the options of one kind of formatting,
a row of buttons, and an editor for the output.  A panel answers to single actions of its user;
what it shows is a function of the actions so far.

* `Tool.process` is the formatting under the options of a panel;
* `Panel.run` formats the input;
* `Panel.respond` is the answer to any action.
-/
import StructuredText.FileSystem
import StructuredText.Samples
import StructuredText.Text.Gbk
import StructuredText.Text.Utf8
import StructuredText.Json.Reformat
import StructuredText.Xml.Reindent
import StructuredText.Sql.Format
import StructuredText.Desktop.Editor
import StructuredText.Desktop.Grid
import StructuredText.Desktop.Outline

namespace StructuredText.Desktop

/-! ## Options -/

/-- The pages of the output of JSON texts: the text, a table or a tree. -/
inductive Page
  | text | table | tree
deriving DecidableEq

/-- The options for JSON texts, and the views of the last document that had one. -/
structure JsonTool where
  style : Json.Style := .pretty
  width : Json.IndentWidth := .two
  sortKeys : Bool := false
  escapeNonAscii : Bool := false
  page : Page := .text
  grid : Grid := .empty
  outline : Option Outline := none

namespace JsonTool

/-- The width matters in every style but the minified one. -/
def widthEnabled (t : JsonTool) : Bool := t.style ≠ .minified

/-- Sorting can be chosen in every style that does not sort anyway. -/
def sortKeysEnabled (t : JsonTool) : Bool := t.style ≠ .sorted

/-- The options as they stand. -/
def options (t : JsonTool) : Json.FormatOptions where
  style := t.style
  width := t.width
  sortKeys := t.sortKeys
  escapeNonAscii := t.escapeNonAscii

/-- Turns to the view of a document that the style shows.  A view that shows an integer with too
many digits is broken off, and not turned to. -/
def showDocument (document : Option Json.Value) (t : JsonTool) :
    JsonTool × Option Json.DigitFault :=
  match t.style, document with
  | .table, some v =>
    match Json.Table.ofValue v with
    | .ok table => ({ t with grid := t.grid.fill table, page := .table }, none)
    | .error fault => (t, some fault)
  | .tree, some v =>
    match Outline.grow (.ofValue v) with
    | .ok (o, none) => ({ t with outline := some o, page := .tree }, none)
    | .ok (o, some fault) => ({ t with outline := some o }, some fault)
    | .error fault => ({ t with outline := none }, some fault)
  | _, _ => (t, none)

/-- Opens the item at a path of the tree that was shown last. -/
def expandItem (path : List Nat) (t : JsonTool) : JsonTool × Option Json.DigitFault :=
  match t.outline with
  | none => (t, none)
  | some o =>
    let (o, fault) := o.expandAt path
    ({ t with outline := some o }, fault)

/-- Closes the item at a path of the tree that was shown last. -/
def collapseItem (path : List Nat) (t : JsonTool) : JsonTool :=
  { t with outline := t.outline.map (Outline.collapseAt path) }

end JsonTool

/-- The indentation of XML texts, by whole blanks. -/
structure XmlTool where
  indent : Nat := 2

namespace XmlTool

/-- The least indentation. -/
def least : Nat := 1

/-- The greatest indentation. -/
def greatest : Nat := 8

/-- Sets the indentation, to the nearest one that can be chosen. -/
def setIndent (columns : Int) (t : XmlTool) : XmlTool :=
  { t with indent := max least (min greatest columns.toNat) }

end XmlTool

/-- The options for queries. -/
structure SqlTool where
  keywordCase : Sql.KeywordCase := .upper
  width : Json.IndentWidth := .two
  compact : Bool := true

/-- What a panel is for.  A plain panel formats nothing. -/
inductive Tool
  | plain
  | json (t : JsonTool)
  | xml (t : XmlTool)
  | sql (t : SqlTool)

/-! ## Formatting -/

/-- What comes of formatting. -/
inductive Processed
  /-- The panel formats nothing. -/
  | unsupported
  /-- The text was refused, by whom and with what words. -/
  | refused (origin message : Text)
  /-- The text, and the document it holds if it is JSON. -/
  | formatted (text : Text) (document : Option Json.Value)

namespace Tool

/-- Formats a text under the options as they stand. -/
def process (text : Text) : Tool → Processed
  | plain => .unsupported
  | json t =>
    match Json.reformat t.options text with
    | .ok r => .formatted r.text r.document
    | .error refusal => .refused "JSON" (refusal.diagnostic text).summary
  | xml t =>
    match Xml.reindent text (Text.spaces t.indent) with
    | .ok laidOut => .formatted laidOut none
    | .error (.illFormed diagnostic) => .refused "XML" diagnostic.summary
    | .error (.unencodable e) => .refused "UnicodeEncodeError" e.message
  | sql t =>
    let request : Sql.FormatRequest :=
      { text, caseName := t.keywordCase.name?.map Text.ofString, indentWidth := t.width.columns,
        compact := t.compact }
    match Sql.format request with
    | .ok laidOut => .formatted laidOut none
    | .error e => .refused "ValueError" e.message

/-- Turns back to the text, as before every formatting. -/
def turnToText : Tool → Tool
  | json t => json { t with page := .text }
  | t => t

/-- Changes the options for JSON texts, which may be broken off. -/
def tryOnJson (change : JsonTool → JsonTool × Option Json.DigitFault) :
    Tool → Tool × Option Json.DigitFault
  | json t =>
    let (t, fault) := change t
    (json t, fault)
  | t => (t, none)

/-- Turns to the view of a document that the options ask for. -/
def showDocument (document : Option Json.Value) : Tool → Tool × Option Json.DigitFault :=
  tryOnJson (JsonTool.showDocument document)

/-- The sample that can be loaded. -/
def sample? : Tool → Option Text
  | plain => none
  | json _ => some Samples.json
  | xml _ => some Samples.xml
  | sql _ => some Samples.sql

end Tool

/-! ## Panels -/

/-- What a panel tells about the last thing that was done. -/
inductive Status
  | ready | inputMissing | formatted
  | refused (origin : Text)
  | sampleLoaded | cleared | copied
  | imported (name : Text)
  | exported (name : Text)

/-- The wording of a status. -/
def Status.message : Status → Text
  | ready => "就绪"
  | inputMissing => "请先输入文本"
  | formatted => "格式化完成"
  | refused origin => ("出错: " : Text) ++ origin
  | sampleLoaded => "已加载示例"
  | cleared => "已清空"
  | copied => "已复制到剪贴板"
  | imported name => ("已导入: " : Text) ++ name
  | exported name => ("已导出: " : Text) ++ name

/-- A panel. -/
structure Panel where
  tool : Tool
  input : Text := []
  output : Text := []
  /-- How long the input is, in code points and in bytes, where that is told. -/
  inputSize : Option (Nat × Nat) := none
  /-- How long the formatted text is, where that is told. -/
  outputSize : Option Nat := none
  status : Status := .ready

/-- Why an action was broken off. -/
inductive Interruption
  /-- The panel formats nothing. -/
  | unsupported
  /-- A text holds a lone surrogate, so there are no bytes to count or to write. -/
  | unencodable (e : Utf8.EncodeError)
  /-- The name given for a file can be the name of none. -/
  | unnameable (f : NameFault)
  /-- The document has an integer with too many digits where one is shown. -/
  | unwritable (f : Json.DigitFault)

/-- The wording of an interruption. -/
def Interruption.message : Interruption → Text
  | unsupported => []
  | unencodable e => e.message
  | unnameable f => f.message
  | unwritable f => f.message

namespace Panel

/-- The length of the input, as it is told. -/
def inputSizeLabel (p : Panel) : Text :=
  match p.inputSize with
  | none => []
  | some (points, bytes) =>
    Text.concat [Text.ofNat points, " 字符 / ", Text.ofNat bytes, " 字节"]

/-- The length of the formatted text, as it is told. -/
def outputSizeLabel (p : Panel) : Text :=
  match p.outputSize with
  | none => []
  | some points => Text.concat [Text.ofNat points, " 字符"]

/-- Puts a text into the input editor, and counts it. -/
def putInput (t : Text) (p : Panel) : Panel × Option Interruption :=
  let kept := keptText t
  match Utf8.encode kept with
  | .ok bytes => ({ p with input := kept, inputSize := some (kept.length, bytes.length) }, none)
  | .error e => ({ p with input := kept }, some (.unencodable e))

/-- Puts a text into the output editor. -/
def putOutput (t : Text) (p : Panel) : Panel := { p with output := keptText t }

/-- Shows a refusal. -/
def showRefusal (origin message : Text) (p : Panel) : Panel :=
  { p.putOutput (Text.concat ["错误 [", origin, "]: ", message]) with
    outputSize := none, status := .refused origin }

/-- Formats the input.  The page stays as it is if there is none. -/
def run (p : Panel) : Panel × Option Interruption :=
  if p.input.isBlank then
    ({ p.putOutput [] with outputSize := none, status := .inputMissing }, none)
  else
    let turned := { p with tool := p.tool.turnToText }
    match p.tool.process p.input with
    | .unsupported => (turned, some .unsupported)
    | .refused origin message => (turned.showRefusal origin message, none)
    | .formatted text document =>
      match turned.tool.showDocument document with
      | (tool, none) =>
        ({ turned.putOutput text with
          tool, outputSize := some text.length, status := .formatted }, none)
      | (tool, some fault) => ({ turned.putOutput text with tool }, some (.unwritable fault))

end Panel

/-! ## Actions -/

/-- The buttons of a panel. -/
inductive Button
  | format | swap | clear | copy | exportFile | importFile | loadSample
deriving DecidableEq

namespace Button

/-- Every button. -/
def all : List Button := [format, swap, clear, copy, exportFile, importFile, loadSample]

/-- What is written on a button. -/
def caption : Button → String
  | format => "▶  格式化"
  | swap => "⇅ 交换"
  | clear => "清空"
  | copy => "复制"
  | exportFile => "导出文件"
  | importFile => "导入文件"
  | loadSample => "加载示例"

/-- The button with a caption. -/
def ofCaption? (caption : Text) : Option Button := all.find? fun b => (b.caption : Text) = caption

end Button

/-- What a user can do on a panel.  What a panel has no control for changes nothing. -/
inductive Action
  | enter (text : Text)
  /-- A button is pressed; where a dialog asks for a file, its name is given, or none. -/
  | press (b : Button) (fileName : Text)
  | chooseStyle (s : Json.Style)
  | chooseWidth (w : Json.IndentWidth)
  | chooseCase (k : Sql.KeywordCase)
  | checkSortKeys (on : Bool)
  | checkEscape (on : Bool)
  | checkCompact (on : Bool)
  | setIndent (columns : Int)
  | expand (path : List Nat)
  | collapse (path : List Nat)

/-- What all panels share: the files and the clipboard. -/
structure Desk where
  files : FileSystem := []
  clipboard : Option Text := none

/-- A dialog that is shown. -/
inductive Dialog
  | openFile (title start filter : Text)
  | saveFile (title start filter : Text)
  | warning (title text : Text)
  | information (title text : Text)

/-- The files that the dialogs offer. -/
def fileFilter : Text := "文本文件 (*.txt *.json *.xml *.sql);;所有文件 (*)"

/-- What comes of an action. -/
structure Response where
  panel : Panel
  desk : Desk
  dialogs : List Dialog := []
  interruption : Option Interruption := none

/-- Goes on with the panel, unless the action was broken off. -/
def Response.andThen (f : Panel → Panel) (r : Response) : Response :=
  if r.interruption.isSome then r else { r with panel := f r.panel }

namespace Tool

/-- Changes the options for JSON texts. -/
def onJson (change : JsonTool → JsonTool) : Tool → Tool
  | json t => json (change t)
  | t => t

/-- Changes the options for XML texts. -/
def onXml (change : XmlTool → XmlTool) : Tool → Tool
  | xml t => xml (change t)
  | t => t

/-- Changes the options for queries. -/
def onSql (change : SqlTool → SqlTool) : Tool → Tool
  | sql t => sql (change t)
  | t => t

/-- Sets the indentation width, of JSON texts or of queries. -/
def setWidth (w : Json.IndentWidth) (t : Tool) : Tool :=
  (t.onJson ({ · with width := w })).onSql ({ · with width := w })

end Tool

namespace Panel

/-- Changes the options of a panel. -/
def onTool (change : Tool → Tool) (p : Panel) : Panel := { p with tool := change p.tool }

/-- Puts a text into the input editor, as an action of its own. -/
def enter (t : Text) (desk : Desk) (p : Panel) : Response :=
  let (panel, interruption) := p.putInput t
  { panel, desk, interruption }

/-- Loads the sample. -/
def loadSample (desk : Desk) (p : Panel) : Response :=
  match p.tool.sample? with
  | none => { panel := p, desk }
  | some sample =>
    (p.enter sample desk).andThen fun p => { p.putOutput [] with status := .sampleLoaded }

/-- Exchanges input and output. -/
def swap (desk : Desk) (p : Panel) : Response :=
  (p.enter p.output desk).andThen (putOutput p.input)

/-- Empties both editors. -/
def clear (desk : Desk) (p : Panel) : Response :=
  (p.enter [] desk).andThen fun p =>
    { p.putOutput [] with outputSize := none, inputSize := none, status := .cleared }

/-- Copies the output to the clipboard, unless it is empty. -/
def copy (desk : Desk) (p : Panel) : Response :=
  if p.output.isEmpty then { panel := p, desk }
  else { panel := { p with status := .copied }, desk := { desk with clipboard := some p.output } }

/-- The text of bytes in a file: of UTF-8 if they are, otherwise of GBK. -/
def textOf (bytes : List UInt8) : Text :=
  match Utf8.decode bytes with
  | .ok text => text.unifyLineEnds
  | .error _ => (Gbk.decode bytes).unifyLineEnds

/-- Reads a file into the input editor. -/
def importFile (name : Text) (desk : Desk) (p : Panel) : Response :=
  let asked := Dialog.openFile "导入文件" [] fileFilter
  if name.isEmpty then { panel := p, desk, dialogs := [asked] }
  else
    match NameFault.of? name, desk.files.read name with
    | some f, _ =>
      { panel := p, desk, dialogs := [asked], interruption := some (.unnameable f) }
    | none, .error e =>
      { panel := p, desk, dialogs := [asked, .warning "导入失败" (e.message name)] }
    | none, .ok bytes =>
      { (p.enter (textOf bytes) desk).andThen fun p =>
          { p with status := .imported (FileName.lastPart name) } with
        dialogs := [asked] }

/-- Writes the output to a file.  The file is there, and empty, before the text is turned into
bytes. -/
def exportFile (name : Text) (desk : Desk) (p : Panel) : Response :=
  let asked := Dialog.saveFile "导出文件" "output.txt" fileFilter
  if p.output.isEmpty then { panel := p, desk, dialogs := [.information "提示" "输出为空"] }
  else if name.isEmpty then { panel := p, desk, dialogs := [asked] }
  else
    match NameFault.of? name, desk.files.write name [], Utf8.encode p.output with
    | some f, _, _ =>
      { panel := p, desk, dialogs := [asked], interruption := some (.unnameable f) }
    | none, .error e, _ =>
      { panel := p, desk, dialogs := [asked, .warning "导出失败" (e.message name)] }
    | none, .ok emptied, .error e =>
      { panel := p, desk := { desk with files := emptied }, dialogs := [asked],
        interruption := some (.unencodable e) }
    | none, .ok emptied, .ok bytes =>
      { panel := { p with status := .exported (FileName.lastPart name) },
        desk := { desk with files := FileSystem.put name bytes emptied }, dialogs := [asked] }

/-- The answer to a button. -/
def press (b : Button) (fileName : Text) (desk : Desk) (p : Panel) : Response :=
  match b with
  | .format =>
    let (panel, interruption) := p.run
    { panel, desk, interruption }
  | .swap => p.swap desk
  | .clear => p.clear desk
  | .copy => p.copy desk
  | .exportFile => p.exportFile fileName desk
  | .importFile => p.importFile fileName desk
  | .loadSample => p.loadSample desk

/-- The answer to an action. -/
def respond (a : Action) (desk : Desk) (p : Panel) : Response :=
  let change (f : Tool → Tool) : Response := { panel := p.onTool f, desk }
  match a with
  | .enter t => p.enter t desk
  | .press b fileName => p.press b fileName desk
  | .chooseStyle s => change (Tool.onJson ({ · with style := s }))
  | .chooseWidth w => change (Tool.setWidth w)
  | .chooseCase k => change (Tool.onSql ({ · with keywordCase := k }))
  | .checkSortKeys on => change (Tool.onJson ({ · with sortKeys := on }))
  | .checkEscape on => change (Tool.onJson ({ · with escapeNonAscii := on }))
  | .checkCompact on => change (Tool.onSql ({ · with compact := on }))
  | .setIndent columns => change (Tool.onXml (XmlTool.setIndent columns))
  | .expand path =>
    let (tool, fault) := p.tool.tryOnJson (JsonTool.expandItem path)
    { panel := { p with tool }, desk, interruption := fault.map .unwritable }
  | .collapse path => change (Tool.onJson (JsonTool.collapseItem path))

end Panel

end StructuredText.Desktop
