/-
# Outlines

A tree of items on screen that shows the nodes of a document.  The items below an item are made
when it is opened for the first time, so three things are kept of each item: whether it is open
on screen, whether the items below it were made, and the flag of the node that it shows.  No item
can be made for an integer with too many digits.  That breaks the making off, and what was made by
then stays.

* `Outline.grow` makes the item of a node, with the items below as far as nodes are open;
* `Outline.expand` and `Outline.collapse` open and close an item, `Outline.expandAt` and
  `Outline.collapseAt` do so below;
* `Outline.node` is the node that an item shows, with all that is remembered below it.
-/
import StructuredText.Json.Tree

namespace StructuredText.Desktop

open Json

/-- An item with the items below it.  What it shows of the value was written when it was made. -/
inductive Outline
  | item (node : Node) (summary : Text) (isOpen populated : Bool) (children : List Outline)

namespace Outline

/-! ## Items -/

/-- The node of an item, where nothing is remembered of the nodes below. -/
def ownNode : Outline → Node
  | item node _ _ _ _ => node

/-- Whether the item is open on screen. -/
def isOpen : Outline → Bool
  | item _ _ isOpen _ _ => isOpen

/-- Whether the making of the items below was begun. -/
def populated : Outline → Bool
  | item _ _ _ populated _ => populated

/-- The items below. -/
def children : Outline → List Outline
  | item _ _ _ _ children => children

/-- The text of the first column. -/
def label (o : Outline) : Text := o.ownNode.label.getD "(root)"

/-- The text of the second column. -/
def summary : Outline → Text
  | item _ summary _ _ _ => summary

/-- The color of the second column; containers have none. -/
def color (o : Outline) : Option Text :=
  match o.ownNode.value.kind with
  | .null => some "#808080"
  | .string => some "#16a34a"
  | .number => some "#d97706"
  | .bool => some "#2563eb"
  | .array | .object => none

/-- Whether the item can be opened, and shows so. -/
def showsIndicator (o : Outline) : Bool := o.ownNode.isExpandable

mutual

/-- The node that an item shows, with what is remembered of the nodes below.  Nodes below an
item exist once the making of items below it was begun, also where it did not get so far. -/
def node : Outline → Node
  | item n _ _ populated children =>
    let below := memories children ++ (n.children.drop children.length).map (·.memory)
    { n with memory := .mk n.expanded (if populated then some below else none) }
termination_by structural o => o

/-- What is remembered of the nodes of some items. -/
def memories : List Outline → List Memory
  | [] => []
  | o :: rest => o.node.memory :: memories rest
termination_by structural os => os

end

/-! ## Making items -/

/-- Makes an item of each of some nodes in turn.  The first fault ends it; an item that was
begun is kept. -/
def growEach {α : Type} (grow : α → Except DigitFault (Outline × Option DigitFault)) :
    List α → List Outline × Option DigitFault
  | [] => ([], none)
  | n :: rest =>
    match grow n with
    | .error fault => ([], some fault)
    | .ok (o, some fault) => ([o], some fault)
    | .ok (o, none) =>
      let (items, fault) := growEach grow rest
      (o :: items, fault)

/-- The item of a node, and the fault by which the making was broken off further below.  If the
node is open then the items below it are made, each in the same way, and after that the item is
opened. -/
def grow (n : Node) : Except DigitFault (Outline × Option DigitFault) := do
  let summary ← n.summary
  if n.expanded then
    let (items, fault) := growEach (fun ⟨child, _⟩ => grow child) n.children.attach
    return (item n summary fault.isNone true items, fault)
  else return (item n summary false false [], none)
termination_by sizeOf n.value
decreasing_by exact Node.sizeOf_value_of_mem_children ‹_›

/-- Makes the items below an item, unless that was begun before. -/
def populate : Outline → Outline × Option DigitFault
  | item n summary isOpen populated children =>
    if populated then (item n summary isOpen populated children, none)
    else
      let (items, fault) := growEach grow n.children
      (item n summary isOpen true items, fault)

/-! ## Opening and closing -/

/-- Sets the flag of the node of an item. -/
def flag (expanded : Bool) : Outline → Outline
  | item n summary isOpen populated children =>
    item (n.setExpanded expanded) summary isOpen populated children

/-- Sets whether an item is open on screen. -/
def setOpen (isOpen : Bool) : Outline → Outline
  | item n summary _ populated children => item n summary isOpen populated children

/-- Opens an item, and with it its node once the items below are there.  Nothing happens to an
item that is open. -/
def expand (o : Outline) : Outline × Option DigitFault :=
  if o.isOpen then (o, none)
  else
    let (opened, fault) := (o.setOpen true).populate
    (if fault.isSome then opened else opened.flag true, fault)

/-- Closes an item, and with it its node.  Nothing happens to an item that is closed. -/
def collapse (o : Outline) : Outline := if o.isOpen then (o.setOpen false).flag false else o

/-! ## Items below -/

/-- The item at the place that the positions lead to, if it was made. -/
def at? : List Nat → Outline → Option Outline
  | [], o => some o
  | i :: path, o => o.children[i]?.bind (at? path)

/-- The positions of a path of indices, each counted from either end. -/
def positions? : List Int → Outline → Except IndexFault (List Nat)
  | [], _ => .ok []
  | index :: path, o => do
    let i ← element? (List.range o.children.length) index
    let child ← element? o.children index
    return i :: (← positions? path child)

/-- Changes the item at a path of positions; a path that leads nowhere changes nothing. -/
def modify (change : Outline → Outline) : List Nat → Outline → Outline
  | [], o => change o
  | i :: path, item n summary isOpen populated children =>
    item n summary isOpen populated (children.modify i (modify change path))

/-- Opens the item at a path of positions. -/
def expandAt (path : List Nat) (o : Outline) : Outline × Option DigitFault :=
  (o.modify (fun found => found.expand.1) path, (o.at? path).bind fun found => found.expand.2)

/-- Closes the item at a path of positions. -/
def collapseAt (path : List Nat) (o : Outline) : Outline := o.modify collapse path

/-! ## What is visible -/

mutual

/-- The items that are visible, from top to bottom, when the item itself is. -/
def visible : Outline → List Outline
  | item n summary isOpen populated children =>
    item n summary isOpen populated children :: if isOpen then visibleOf children else []
termination_by structural o => o

/-- The visible items of some items and of those below. -/
def visibleOf : List Outline → List Outline
  | [] => []
  | o :: rest => o.visible ++ visibleOf rest
termination_by structural os => os

end

end Outline

end StructuredText.Desktop
