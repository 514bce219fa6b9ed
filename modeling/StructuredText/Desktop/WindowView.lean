/-
# The view of the main window

What the window looks like: the sidebar, the first page with its cards, and the panels.

* `Window.sidebarView` is the view of the sidebar;
* `Window.homeView` is the view of the first page;
* `Window.view` is the view of the window.
-/
import StructuredText.Desktop.PanelView
import StructuredText.Desktop.Window
import StructuredText.Release

namespace StructuredText.Desktop

/-- A window of its own on the desktop. -/
structure Frame where
  title : Text
  size : Extent
  leastSize : Extent
  content : Widget

/-- What the program is called beside its name. -/
def programTitle : Text := "格式化工具箱"

namespace Window

/-! ## The sidebar -/

/-- A button of the sidebar. -/
def sidebarButton (caption sheet : Text) : Widget :=
  .button caption { sheet := some sheet, height := some 38, showsHand := true }

/-- The sidebar. -/
def sidebarView (w : Window) : Widget :=
  let sheet := Text.concat [
    "background: qlineargradient(x1:0,y1:0,x2:0,y2:1,",
    "stop:0 #1a1f2e, stop:1 #232939);"]
  let title : Widget := .text (("  " : Text) ++ Release.name) {
    sheet := some (Text.concat [
      "color:#ffffff; font-size:20px; font-weight:bold; ",
      "padding-left:10px; background:transparent;"]) }
  let subtitle : Widget := .text (("    " : Text) ++ programTitle) {
    sheet := some "color:#707d8f; font-size:12px; background:transparent;" }
  let buttons := sidebarCaptions.zipWith sidebarButton w.sidebarSheets
  .area .plain { width := some 210, sheet := some sheet }
    (.line .column (some ⟨0, 20, 0, 16⟩) (some 0)
      ([title.place, subtitle.place, .space 14] ++ buttons.map Widget.place ++ [.spring]))

/-! ## The first page -/

/-- The card of a feature. -/
def cardView (f : Feature) (sheet : Text) : Widget :=
  let bar : Widget := .control .bar {
    height := some 4
    sheet := some (Text.concat ["background:", f.color, "; border-radius:2px; border:none;"]) }
  let title : Widget := .text f.title {
    sheet := some (Text.concat [
      "font-size:15px; font-weight:bold; color:#1e2433; ",
      "background:transparent; border:none;"]) }
  let description : Widget := .control (.label f.description true) {
    sheet := some (Text.concat [
      "font-size:12px; color:#6b7a8d; ", "background:transparent; border:none;"]) }
  .area .card
    { name := some "featureCard", sheet := some sheet, leastSize := some ⟨220, 120⟩,
      showsHand := true, spreads := true }
    (.line .column (some ⟨18, 16, 18, 16⟩) (some 8)
      [bar.place, title.place, description.place, .spring])

/-- The first page. -/
def homeView (w : Window) : Widget :=
  let title : Widget := .text Release.name {
    sheet := some "font-size:28px; font-weight:bold; color:#1e2433;" }
  let subtitle : Widget := .text "选择一种格式开始使用" {
    sheet := some "font-size:14px; color:#6b7a8d; margin-bottom:8px;" }
  .area .plain {} (.line .column (some ⟨36, 32, 36, 32⟩) (some 12)
    [title.place, subtitle.place, .nested (.cells 16 (features.zipWith cardView w.cardSheets)),
      .spring])

/-! ## The window -/

/-- The pages, of which one is shown. -/
def pagesView (w : Window) : Widget :=
  .pages w.page
    { name := some "contentArea",
      sheet := some "#contentArea\x7bbackground:#f0f2f5; border:none;\x7d" }
    (w.homeView :: w.panels.map Panel.view)

/-- The window on screen. -/
def view (w : Window) : Frame where
  title := Text.concat [Release.name, " — ", programTitle]
  size := ⟨1100, 720⟩
  leastSize := ⟨900, 580⟩
  content := .area .plain {} (.line .row (some ⟨0, 0, 0, 0⟩) (some 0)
    [w.sidebarView.place, .widget w.pagesView (some 1)])

end Window

end StructuredText.Desktop
