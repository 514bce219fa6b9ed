/-
# The view of a panel

What a panel looks like: above the input a row that tells its size, below it the options and
the buttons, and the output with a row of its own.

* `Tool.optionsView` is the view of the options;
* `Tool.outputView` is the view of the output, which has pages for JSON texts;
* `Panel.view` is the view of a panel.
-/
import StructuredText.Desktop.Panel
import StructuredText.Desktop.Widget

namespace StructuredText.Desktop

/-- The letters of editors, grids and outlines. -/
def editorFont : Font where
  family := "Consolas"
  points := 10
  substitute := some .monospace

/-- An editor. -/
def editorView (hint : Text) (readOnly : Bool) : Widget :=
  .control (.editor hint readOnly) { font := some editorFont, leastHeight := some 100 }

/-- A list to choose from, with one of its entries chosen. -/
def choicesView (all : List Choice) (chosen : Choice) (look : Look) : Widget :=
  .control (.choices all (all.idxOf chosen)) look

/-- The list of the indentation widths. -/
def widthView (w : Json.IndentWidth) (enabled : Bool) : Widget :=
  choicesView (Json.IndentWidth.all.map .width) (.width w) { width := some 80, enabled }

/-- A box to check. -/
def checkView (caption : Text) (isOn enabled : Bool) : Widget :=
  .control (.check caption isOn) { enabled }

/-- The distance between two options. -/
def optionGap : Place := .space 16

/-! ## Options -/

/-- The row of the options for JSON texts. -/
def JsonTool.optionsRow (t : JsonTool) : Arrangement := .row [
  (Widget.text "风格:" {}).place,
  (choicesView (Json.Style.all.map .style) (.style t.style) { width := some 140 }).place,
  optionGap,
  (Widget.text "缩进:" {}).place,
  (widthView t.width t.widthEnabled).place,
  optionGap,
  (checkView "排序键名" t.sortKeys t.sortKeysEnabled).place,
  (checkView "Unicode 转义" t.escapeNonAscii true).place,
  .spring]

/-- The row of the options for XML texts. -/
def XmlTool.optionsRow (t : XmlTool) : Arrangement := .row [
  (Widget.text "缩进:" {}).place,
  (Widget.control (.number XmlTool.least XmlTool.greatest t.indent) { width := some 60 }).place,
  (Widget.text "空格" {}).place,
  .spring]

/-- The row of the options for queries. -/
def SqlTool.optionsRow (t : SqlTool) : Arrangement := .row [
  (Widget.text "关键字:" {}).place,
  (choicesView (Sql.KeywordCase.all.map .keywordCase) (.keywordCase t.keywordCase)
    { width := some 120 }).place,
  optionGap,
  (Widget.text "缩进:" {}).place,
  (widthView t.width true).place,
  optionGap,
  (checkView "压缩行数" t.compact true).place,
  .spring]

namespace Tool

/-- The options.  Those for JSON texts are framed. -/
def optionsView : Tool → Arrangement
  | plain => .column []
  | json t =>
    .column [(Widget.area (.group "JSON 选项") {} (.column [.nested t.optionsRow])).place]
  | xml t => .column [.nested t.optionsRow]
  | sql t => .column [.nested t.optionsRow]

/-! ## Input and output -/

/-- What the input shows while it is empty. -/
def hint : Tool → Text
  | plain => "在此输入或粘贴文本…"
  | json _ => "粘贴 JSON 文本，例如:\n\x7b\"name\": \"test\", \"value\": 123, \"list\": [1, 2, 3]\x7d"
  | xml _ => "粘贴 XML 文本，例如:\n<note><to>Tove</to><from>Jani</from><body>Hello</body></note>"
  | sql _ => "粘贴 SQL 语句，例如:\nselect id, name from users where active = 1 order by name"

/-- The editor for the output. -/
def outputEditor : Widget := editorView "结果将显示在此…" true

/-- The output.  For JSON texts it has pages. -/
def outputView : Tool → Widget
  | json t =>
    let shown := match t.page with
      | .text => 0
      | .table => 1
      | .tree => 2
    let look : Look := { font := some editorFont }
    .pages shown {} [outputEditor, .control (.grid 24) look, .control (.outline ["键", "值"]) look]
  | _ => outputEditor

/-- What the panel of a tool is for. -/
def areaKind : Tool → AreaKind
  | plain => .plainPanel
  | json _ => .jsonPanel
  | xml _ => .xmlPanel
  | sql _ => .sqlPanel

end Tool

/-! ## Buttons -/

/-- How a button looks.  The one that formats stands out. -/
def Button.look : Button → Look
  | format =>
    { height := some 34
      sheet := some (Text.concat [
        "QPushButton\x7bbackground:#0078d4;color:#fff;font-weight:bold;",
        "font-size:13px;border-radius:4px;padding:0 22px\x7d",
        "QPushButton:hover\x7bbackground:#106ebe\x7d",
        "QPushButton:pressed\x7bbackground:#005a9e\x7d"]) }
  | swap | clear => { height := some 30 }
  | copy => { width := some 70 }
  | exportFile | importFile | loadSample => { width := some 90 }

/-- A button in its place. -/
def Button.place (b : Button) : Place := (Widget.button b.caption b.look).place

/-! ## Panels -/

namespace Panel

/-- The row above the input.  The button for samples is there if there is one. -/
def inputRow (p : Panel) : Arrangement :=
  .row ([(Widget.text "输入:" {}).place, .spring, (Widget.text p.inputSizeLabel {}).place] ++
    (if p.tool.sample?.isSome then [Button.loadSample.place] else []) ++
    [Button.importFile.place])

/-- The row of the buttons that change both editors. -/
def buttonRow : Arrangement :=
  .row [Button.format.place, Button.swap.place, Button.clear.place, .spring]

/-- The row above the output. -/
def outputRow (p : Panel) : Arrangement :=
  .row [(Widget.text "输出:" {}).place, .spring, (Widget.text p.outputSizeLabel {}).place,
    Button.copy.place, Button.exportFile.place]

/-- A panel on screen.  The editors share the spare room. -/
def view (p : Panel) : Widget :=
  .area p.tool.areaKind {} (.line .column (some ⟨10, 8, 10, 6⟩) (some 6) [
    .nested p.inputRow,
    .widget (editorView p.tool.hint false) (some 3),
    .nested p.tool.optionsView,
    .nested buttonRow,
    .nested p.outputRow,
    .widget p.tool.outputView (some 3),
    (Widget.text p.status.message { sheet := some "color:#666;font-size:11px" }).place])

end Panel

end StructuredText.Desktop
