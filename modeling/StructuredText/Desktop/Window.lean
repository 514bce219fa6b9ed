/-
# The main window

The window of the desktop program: a sidebar with a button for each page, and the pages.  The
first page has a card for each of the others, which are the panels.
-/
import StructuredText.Desktop.Panel

namespace StructuredText.Desktop

/-! ## Features -/

/-- What the window offers: a panel under a name, with a description and a color. -/
structure Feature where
  title : Text
  description : Text
  color : Text
  tool : Tool

/-- Everything that the window offers, in its order. -/
def features : List Feature := [
  ⟨"JSON 格式化", "美化、紧凑、排序、压缩，表格 / 交互树视图", "#0078d4", .json {}⟩,
  ⟨"XML 格式化", "良构性校验并按标签层级重新缩进", "#107c10", .xml {}⟩,
  ⟨"SQL 格式化", "关键字大小写、子句缩进，合并过短的行", "#ca5010", .sql {}⟩]

/-- What is written on the buttons of the sidebar, the one to the first page first. -/
def sidebarCaptions : List Text :=
  "  主页" :: features.map fun f => ("  " : Text) ++ f.title

/-! ## Looks -/

/-- How a button of the sidebar looks. -/
structure ButtonLook where
  color : Text
  background : Text
  weight : Text
  hover : Text

/-- How the button to the page that is shown looks. -/
def activeLook : ButtonLook := ⟨"#ffffff", "#0078d4", "bold", "#106ebe"⟩

/-- How any other button looks. -/
def restingLook (bold : Bool) : ButtonLook :=
  ⟨"#b0b8c4", "transparent", if bold then "bold" else "normal", "rgba(255,255,255,0.07)"⟩

/-- The style sheet of a button of the sidebar. -/
def ButtonLook.sheet (l : ButtonLook) : Text :=
  Text.concat [
    "\n    QPushButton \x7b\n",
    "        text-align:left; padding:0 20px 0 22px;\n",
    "        border:none; border-radius:6px;\n",
    "        margin:1px 10px; color:", l.color, ";\n",
    "        background:", l.background, ";\n",
    "        font-size:13px; font-weight:", l.weight, ";\n",
    "    \x7d\n",
    "    QPushButton:hover \x7b background:", l.hover, "; color:#e0e4ea; \x7d\n"]

/-- The style sheet of a card, which stands out under the pointer. -/
def cardSheet (color : Text) (hovered : Bool) : Text :=
  if hovered then
    Text.concat ["#featureCard\x7bbackground:#f8fbff; border:2px solid ", color,
      "; border-radius:10px;\x7d"]
  else "#featureCard\x7bbackground:#ffffff; border:1px solid #dfe2e8; border-radius:10px;\x7d"

/-! ## The window -/

/-- The window. -/
structure Window where
  /-- The page that is shown, the first one being zero. -/
  page : Nat := 0
  /-- Which cards the pointer has entered and not left. -/
  hovered : List Bool := features.map fun _ => false
  panels : List Panel := features.map fun f => { tool := f.tool }
  desk : Desk := {}

/-- What a user can do in the window. -/
inductive WindowAction
  | pressSidebar (i : Nat)
  | pressCard (i : Nat)
  | enterCard (i : Nat)
  | leaveCard (i : Nat)

namespace Window

/-- The style sheets of the buttons of the sidebar.  The button to the first page is bold also
when another page is shown. -/
def sidebarSheets (w : Window) : List Text :=
  sidebarCaptions.mapIdx fun i _ =>
    (if i = w.page then activeLook else restingLook (i = 0)).sheet

/-- The style sheets of the cards. -/
def cardSheets (w : Window) : List Text :=
  features.zipWith (fun f hovered => cardSheet f.color hovered) w.hovered

/-- Turns to a page. -/
def turnTo (page : Nat) (w : Window) : Window :=
  if page < sidebarCaptions.length then { w with page } else w

/-- The window after an action. -/
def act (a : WindowAction) (w : Window) : Window :=
  match a with
  | .pressSidebar i => w.turnTo i
  | .pressCard i => w.turnTo (i + 1)
  | .enterCard i => { w with hovered := w.hovered.set i true }
  | .leaveCard i => { w with hovered := w.hovered.set i false }

/-- The panel that is shown, if the page is one. -/
def shownPanel? (w : Window) : Option Panel :=
  match w.page with
  | 0 => none
  | i + 1 => w.panels[i]?

/-- The window after an action on the panel that is shown, with the answer of the panel. -/
def onPanel (a : Action) (w : Window) : Window × Option Response :=
  match w.shownPanel? with
  | none => (w, none)
  | some p =>
    let r := p.respond a w.desk
    ({ w with panels := w.panels.set (w.page - 1) r.panel, desk := r.desk }, some r)

end Window

end StructuredText.Desktop
