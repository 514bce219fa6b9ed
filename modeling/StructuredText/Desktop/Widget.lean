/-
# Widgets

What is on screen, as far as it is described before a user touches it: controls, areas that
hold others, and how those are arranged.

* `Widget` is a control, an area with an arrangement in it, or a stack of pages;
* `Arrangement` places widgets in a row, in a column, or in the cells of a table.
-/
import StructuredText.Json.Options
import StructuredText.Sql.Layout

namespace StructuredText.Desktop

/-! ## Looks -/

/-- A width and a height. -/
structure Extent where
  width : Nat
  height : Nat
deriving DecidableEq

/-- What takes the place of a family of letters that is missing. -/
inductive Substitute
  | monospace | sansSerif
deriving DecidableEq

/-- Letters of a family, in a size. -/
structure Font where
  family : Text
  points : Nat
  bold : Bool := false
  substitute : Option Substitute := none
deriving DecidableEq

/-- What can be chosen about the look of any widget; what is left open follows from its kind. -/
structure Look where
  /-- The name by which a style sheet speaks of the widget. -/
  name : Option Text := none
  sheet : Option Text := none
  font : Option Font := none
  width : Option Nat := none
  height : Option Nat := none
  leastHeight : Option Nat := none
  leastSize : Option Extent := none
  /-- Whether the pointer turns into a hand above the widget. -/
  showsHand : Bool := false
  /-- Whether the widget takes all the width there is, and no more height than it needs. -/
  spreads : Bool := false
  enabled : Bool := true
deriving DecidableEq

/-! ## Controls -/

/-- What can be chosen from a list. -/
inductive Choice
  | style (s : Json.Style)
  | width (w : Json.IndentWidth)
  | keywordCase (k : Sql.KeywordCase)
deriving DecidableEq

/-- What a choice is called on screen. -/
def Choice.label : Choice → Text
  | style s => s.label
  | width w => w.label
  | keywordCase k => k.label

/-- A widget with no others in it. -/
inductive Control
  | label (text : Text) (wraps : Bool)
  | button (caption : Text)
  | check (caption : Text) (isOn : Bool)
  | choices (all : List Choice) (chosen : Nat)
  | number (least greatest value : Nat)
  /-- An editor, with what it shows while it is empty. -/
  | editor (hint : Text) (readOnly : Bool)
  /-- A grid of cells that cannot be edited, where whole rows are selected. -/
  | grid (rowHeight : Nat)
  /-- An outline of two columns, of which the first is as wide as its texts. -/
  | outline (headings : List Text)
  | bar
deriving DecidableEq

/-- What an area is for. -/
inductive AreaKind
  | plain
  | group (title : Text)
  | card
  | plainPanel | jsonPanel | xmlPanel | sqlPanel
deriving DecidableEq

/-! ## Arrangements -/

/-- The distances from the edges. -/
structure Margins where
  left : Nat
  top : Nat
  right : Nat
  bottom : Nat
deriving DecidableEq

/-- Whether things stand side by side or one above the other. -/
inductive Direction
  | row | column
deriving DecidableEq

mutual

/-- A widget. -/
inductive Widget
  | control (c : Control) (look : Look)
  | area (kind : AreaKind) (look : Look) (content : Arrangement)
  | pages (shown : Nat) (look : Look) (all : List Widget)

/-- How widgets stand together. -/
inductive Arrangement
  | line (direction : Direction) (margins : Option Margins) (gap : Option Nat)
    (places : List Place)
  /-- One row of cells, which are equally wide. -/
  | cells (gap : Nat) (widgets : List Widget)

/-- A place in a line. -/
inductive Place
  /-- A widget, and the share of spare room that it takes. -/
  | widget (w : Widget) (share : Option Nat)
  | nested (a : Arrangement)
  | spring
  | space (pixels : Nat)

end

namespace Widget

/-- A text on screen. -/
def text (content : Text) (look : Look) : Widget := control (.label content false) look

/-- A button. -/
def button (caption : Text) (look : Look) : Widget := control (.button caption) look

/-- The place of a widget that takes no share of spare room. -/
def place (w : Widget) : Place := .widget w none

end Widget

namespace Arrangement

/-- Places side by side. -/
def row (places : List Place) : Arrangement := line .row none none places

/-- Places one above the other. -/
def column (places : List Place) : Arrangement := line .column none none places

end Arrangement

end StructuredText.Desktop
