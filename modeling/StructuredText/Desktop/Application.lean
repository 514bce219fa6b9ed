/-
# The application

How the desktop program starts: what it asks of the desktop, the icon that it draws, and the
window that it shows.  It ends as the handling of events does.

* `startUp` is what is asked for, in its order;
* `Session.start` is what is to be seen of a run.
-/
import StructuredText.Desktop.WindowView

namespace StructuredText.Desktop

/-! ## Drawings -/

/-- A step in drawing a picture. -/
inductive Stroke
  | clear
  | smoothEdges
  /-- The color of outlines and letters; none is drawn without it. -/
  | pen (color : Option Text)
  | brush (color : Text)
  | roundedBox (size : Extent) (radius : Nat)
  | letters (f : Font)
  /-- A text in the middle of a box. -/
  | centered (size : Extent) (text : Text)
  | finish
deriving DecidableEq

/-- A picture, by the steps of its drawing. -/
structure Picture where
  size : Extent
  strokes : List Stroke
deriving DecidableEq

/-- The color that stands out. -/
def accentColor : Text := "#0078d4"

/-- The icon: white braces on a blue box. -/
def icon : Picture :=
  let size : Extent := ⟨64, 64⟩
  { size
    strokes := [
      .clear, .smoothEdges,
      .pen none, .brush accentColor, .roundedBox size 12,
      .pen (some "#ffffff"), .letters { family := "Consolas", points := 26, bold := true },
      .centered size "\x7b \x7d", .finish] }

/-! ## Colors -/

/-- What a color is for. -/
inductive ColorRole
  | window | windowText | base | alternateBase | text | button | buttonText
  | highlight | highlightedText
deriving DecidableEq

/-- The color for each role. -/
def palette : List (ColorRole × Text) := [
  (.window, "#f0f2f5"), (.windowText, "#1e2433"), (.base, "#ffffff"),
  (.alternateBase, "#f5f6f8"), (.text, "#1e2433"), (.button, "#e8eaed"),
  (.buttonText, "#1e2433"), (.highlight, accentColor), (.highlightedText, "#ffffff")]

/-- The letters of the program. -/
def applicationFont : Font where
  family := "Microsoft YaHei UI"
  points := 11
  substitute := some .sansSerif

/-! ## Starting -/

/-- What the program asks of the desktop. -/
inductive Request
  /-- Sizes are scaled on screens with small pixels. -/
  | scaleSizes
  /-- Pictures are drawn finer on screens with small pixels. -/
  | scalePictures
  | connect
  | setName (name : Text)
  | setDisplayName (name : Text)
  | setVersion (version : Text)
  | setIcon (picture : Picture)
  | setStyle (name : Text)
  | setFont (f : Font)
  | setColors (colors : List (ColorRole × Text))
  | handleEvents

/-- All that is asked for, in its order.  Scaling is chosen before there is a connection. -/
def startUp : List Request := [
  .scaleSizes, .scalePictures, .connect,
  .setName Release.name, .setDisplayName (Text.concat [Release.name, " ", programTitle]),
  .setVersion Release.version,
  .setIcon icon, .setStyle "Fusion", .setFont applicationFont, .setColors palette, .handleEvents]

/-- What is to be seen of a run of the program. -/
structure Session where
  requests : List Request
  /-- The windows that are shown when the handling of events begins. -/
  shown : List Frame
  exitCode : Int

/-- A run, in which the handling of events ends with a code. -/
def Session.start (code : Int) : Session where
  requests := startUp
  shown := [Window.view {}]
  exitCode := code

end StructuredText.Desktop
