/-
# Trees

A JSON document seen as a tree whose nodes can be opened and closed one by one.  What is
remembered of a node is whether it is open and, once one of its children was changed, what is
remembered of them; everything else is read off the document.  An integer with too many digits has
no text, so there are no lines of a tree that shows one.

* `Node.children` are the nodes one level down;
* `Node.modify` changes the node at a path;
* `Node.visible` lists the open part of the tree, `Node.render` its lines.
-/
import StructuredText.Index
import StructuredText.Json.Printer

namespace StructuredText.Json

/-- What is remembered of a node. -/
inductive Memory
  | mk (expanded : Bool) (children : Option (List Memory))

namespace Memory

/-- Whether the node is open. -/
def expanded : Memory → Bool
  | mk expanded _ => expanded

/-- What is remembered of the children, if anything is. -/
def children : Memory → Option (List Memory)
  | mk _ children => children

end Memory

/-- A node of a tree. -/
structure Node where
  value : Value
  /-- The key or index under which the value stands. -/
  label : Option Text
  /-- How far the node is indented. -/
  depth : Int
  memory : Memory

namespace Node

/-- Nodes above this depth are open at first. -/
def openDepth : Int := 2

/-- A node nothing was done to yet. -/
def fresh (value : Value) (label : Option Text) (depth : Int) : Node :=
  ⟨value, label, depth, .mk (depth < openDepth && value.isExpandable) none⟩

/-- The root of the tree of a document. -/
def ofValue (value : Value) : Node := fresh value none 0

/-- Whether the node's flag says that it is open. -/
def expanded (n : Node) : Bool := n.memory.expanded

/-- Only a container with something inside can be opened. -/
def isExpandable (n : Node) : Bool := n.value.isExpandable

/-- The values inside a value, each under its key or index. -/
def entries : Value → List (Text × Value)
  | .array items => items.mapIdx fun i v => (Text.ofNat i, v)
  | .object members => members
  | _ => []

/-- The nodes one level down. -/
def children (n : Node) : List Node :=
  let plain := (entries n.value).map fun (label, v) => fresh v (some label) (n.depth + 1)
  match n.memory.children with
  | none => plain
  | some memories => plain.zipWith (fun child memory => { child with memory }) memories

/-- The node with its flag set. -/
def setExpanded (n : Node) (expanded : Bool) : Node :=
  { n with memory := Memory.mk expanded n.memory.children }

/-- The node opened if it was closed and closed if it was open; a node that cannot be opened
stays as it is. -/
def toggle (n : Node) : Node := if n.isExpandable then n.setExpanded (!n.expanded) else n

/-- The node with one of its children changed. -/
def withChild (n : Node) (i : Nat) (child : Node) : Node :=
  let memories := (n.children.map (·.memory)).set i child.memory
  { n with memory := Memory.mk n.expanded (some memories) }

/-- The node at a path of indices, each counted from either end. -/
def descend : List Int → Node → Except IndexFault Node
  | [], n => .ok n
  | index :: path, n => do descend path (← element? n.children index)

/-- The tree with the node at a path changed. -/
def modify (change : Node → Node) : List Int → Node → Except IndexFault Node
  | [], n => .ok (change n)
  | index :: path, n => do
    let child ← element? n.children index
    let changed ← modify change path child
    return n.withChild ((position? n.children.length index).getD 0) changed

/-- What a node shows of its value. -/
def summary (n : Node) : Except DigitFault Text :=
  match n.value with
  | .null => .ok "null"
  | .bool b => .ok (if b then "true" else "false")
  | .int i => integerText i
  | .float x => .ok x.toText
  | .string s => .ok (quote s)
  | .array [] => .ok "[]"
  | .array items => .ok (Text.concat ["Array [", Text.ofNat items.length, "]"])
  | .object [] => .ok "\x7b\x7d"
  | .object members => .ok (Text.concat ["Object \x7b", Text.ofNat members.length, "\x7d"])

/-- The marker before a node: closed, open, or neither. -/
def marker (n : Node) : Text :=
  if n.isExpandable then (if n.expanded then "▾ " else "▸ ") else "  "

/-- The line of a node, from what the node shows of its value. -/
def lineOf (indent : Text) (n : Node) (summary : Text) : Text :=
  let text := match n.label with
    | some label => label ++ (": " : Text) ++ summary
    | none => summary
  Text.times n.depth.toNat indent ++ n.marker ++ text

/-- The line of a node. -/
def line (indent : Text) (n : Node) : Except DigitFault Text := n.summary.map (n.lineOf indent)

/-- The first of the two things from which an element of a joined list was made. -/
theorem exists_of_mem_zipWith {α β γ : Type} {f : α → β → γ} {as : List α} {bs : List β} {c : γ}
    (h : c ∈ as.zipWith f bs) : ∃ a ∈ as, ∃ b, c = f a b := by
  induction as generalizing bs with
  | nil => simp at h
  | cons a as ih =>
    cases bs with
    | nil => simp at h
    | cons b bs =>
      rw [List.zipWith_cons_cons, List.mem_cons] at h
      rcases h with rfl | h
      · exact ⟨a, List.mem_cons_self, b, rfl⟩
      · obtain ⟨a', ha, b', hb⟩ := ih h
        exact ⟨a', List.mem_cons_of_mem _ ha, b', hb⟩

/-- The value of a child is one of those directly inside. -/
theorem exists_entry_of_mem_children {n child : Node} (h : child ∈ n.children) :
    ∃ e ∈ entries n.value, child.value = e.2 := by
  have plain : ∀ c ∈ (entries n.value).map (fun (label, v) => fresh v (some label) (n.depth + 1)),
      ∃ e ∈ entries n.value, c.value = e.2 := by
    intro c hc
    obtain ⟨e, he, rfl⟩ := List.mem_map.mp hc
    exact ⟨e, he, rfl⟩
  unfold children at h
  simp only at h
  split at h
  · exact plain child h
  · obtain ⟨c, hc, m, rfl⟩ := exists_of_mem_zipWith h
    exact plain c hc

/-- The values of the children stand inside the value of the node. -/
theorem sizeOf_value_of_mem_children {n child : Node} (h : child ∈ n.children) :
    sizeOf child.value < sizeOf n.value := by
  obtain ⟨e, he, hvalue⟩ := exists_entry_of_mem_children h
  rw [hvalue]
  cases hv : n.value <;> rw [hv] at he <;> simp only [entries, List.not_mem_nil] at he
  case array items =>
    obtain ⟨i, hi, rfl⟩ := List.mem_mapIdx.mp he
    have := List.sizeOf_lt_of_mem (List.getElem_mem hi)
    simp only [Value.array.sizeOf_spec]
    omega
  case object members =>
    have := List.sizeOf_lt_of_mem he
    have : sizeOf e.2 < sizeOf e := by cases e; simp only [Prod.mk.sizeOf_spec]; omega
    simp only [Value.object.sizeOf_spec]
    omega

/-- The open part of the tree below a node, the node itself first. -/
def visible (n : Node) : List Node :=
  n ::
    if n.expanded && n.isExpandable then
      n.children.attach.flatMap fun ⟨child, _⟩ => child.visible
    else []
termination_by sizeOf n.value
decreasing_by exact sizeOf_value_of_mem_children ‹_›

/-- The lines of the open part of the tree below a node, its own line first. -/
def render (indent : Text) (n : Node) : Except DigitFault (List Text) := n.visible.mapM (line indent)

end Node

/-- Why the lines of a tree are not written. -/
inductive ListingFault
  | unwritable (f : DigitFault)
  | unrepeatable (f : Text.RepeatFault)
deriving DecidableEq

namespace Node

/-- The line of a node, if the indent can be repeated as often as it needs it. -/
def line? (indent : Text) (n : Node) : Except ListingFault Text := do
  let line ← (n.line indent).mapError .unwritable
  (Text.checkRepeat n.depth indent).mapError .unrepeatable
  return line

/-- The lines of the open part of the tree, if the indent can be repeated as often as each of
them needs it. -/
def render? (indent : Text) (n : Node) : Except ListingFault (List Text) :=
  n.visible.mapM (line? indent)

end Node

end StructuredText.Json
