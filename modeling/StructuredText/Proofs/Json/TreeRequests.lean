/-
# Asking a tree

What can be asked of a tree of nodes that are made when they are asked for, and what it answers.

* `Node.renderLoop` lists the open part with a stack instead of recursion: nodes that are still to
  come stand on it, and a node that is taken off puts its children there if it is open;
* `Node.render?_eq_renderLoop`: it writes the same lines as the recursion, or fails likewise;
* `Node.perform` answers a request to the node at a path, `session` any number of requests.
-/
import Mathlib
import StructuredText.Json.Tree

namespace StructuredText.Json

/-! ## What stands inside -/

namespace Node

/-- Just what can be opened has something inside. -/
theorem isExpandable_eq (v : Value) : v.isExpandable = !(entries v).isEmpty := by
  cases v with
  | array items => cases items <;> simp [entries, Value.isExpandable, Value.isContainer,
      Value.childCount, Value.kind]
  | object members => cases members <;> simp [entries, Value.isExpandable, Value.isContainer,
      Value.childCount, Value.kind]
  | null | bool | int | float | string => rfl

/-- Nothing stands inside of what cannot be opened. -/
theorem entries_eq_nil {v : Value} (h : v.isExpandable = false) : entries v = [] := by
  rw [isExpandable_eq, Bool.not_eq_false'] at h
  exact List.isEmpty_iff.mp h

theorem length_entries (v : Value) : (entries v).length = v.childCount := by
  cases v with
  | array items => exact List.length_mapIdx
  | null | bool | int | float | string | object => rfl

end Node

/-! ## Listing with a stack -/

namespace Node

/-- The nodes that come right after a node: its children if it is open. -/
def opened (n : Node) : List Node := if n.expanded && n.isExpandable then n.children else []

/-- The open part of a tree is the root, then the open parts of what comes below it. -/
theorem visible_eq (n : Node) : n.visible = n :: n.opened.flatMap visible := by
  rw [visible, opened]
  split
  · rw [List.flatMap_subtype (g := visible) (fun _ _ => rfl), List.unattach_attach]
  · rfl

/-- What cannot be opened has no children anyway. -/
theorem opened_eq (n : Node) : n.opened = if n.expanded then n.children else [] := by
  rw [opened]
  cases hexpandable : n.isExpandable with
  | true => rw [Bool.and_true]
  | false =>
    have hentries : entries n.value = [] := entries_eq_nil hexpandable
    have hchildren : n.children = [] := by
      rw [children, hentries]
      split <;> simp
    rw [Bool.and_false, hchildren, ite_self, ite_self]

/-- Writes a line for each node on a stack and below, as far as it is open. -/
def renderLoop (indent : Text) (lines : List Text) :
    List Node → Except ListingFault (List Text)
  | [] => .ok lines
  | n :: stack => do
    let line ← n.line? indent
    renderLoop indent (lines ++ [line]) (n.opened ++ stack)
termination_by stack => (stack.flatMap visible).length
decreasing_by
  -- Each turn of the loop takes one node off what is still to be listed.
  rw [List.flatMap_cons, visible_eq n, List.flatMap_append]
  simp only [List.length_append, List.length_cons]
  omega

/-- The loop writes the lines of the open parts of the trees on the stack, in turn. -/
theorem renderLoop_eq (indent : Text) (lines : List Text) (stack : List Node) :
    renderLoop indent lines stack =
      ((stack.flatMap visible).mapM (line? indent)).map (lines ++ ·) := by
  induction lines, stack using renderLoop.induct with
  | case1 lines =>
    rw [renderLoop, List.flatMap_nil, List.mapM_nil]
    exact congrArg Except.ok (List.append_nil lines).symm
  | case2 lines n stack ih =>
    have hvisible : (n :: stack).flatMap visible = n :: (n.opened ++ stack).flatMap visible := by
      rw [List.flatMap_cons, visible_eq, List.flatMap_append, List.cons_append]
    rw [renderLoop, hvisible, List.mapM_cons]
    cases n.line? indent with
    | error fault => rfl
    | ok line =>
      show renderLoop indent (lines ++ [line]) (n.opened ++ stack) = _
      rw [ih]
      cases ((n.opened ++ stack).flatMap visible).mapM (line? indent) with
      | error fault => rfl
      | ok rest => exact congrArg Except.ok (List.append_cons lines line rest).symm

/-- **The loop is the recursion.** -/
theorem render?_eq_renderLoop (indent : Text) (n : Node) :
    n.render? indent = renderLoop indent [] [n] := by
  rw [renderLoop_eq, List.flatMap_singleton, render?]
  cases n.visible.mapM (line? indent) <;> rfl

end Node

/-! ## Requests -/

/-- What can be asked of a node. -/
inductive TreeStep
  /-- The lines of the open part below. -/
  | render (indent : Text)
  /-- To open it if it was closed, and to close it if it was open. -/
  | toggle
  /-- To set its flag. -/
  | set (expanded : Bool)
  /-- What it is. -/
  | node
  /-- What its children are. -/
  | children

/-- Something asked of the node at a path of indices, each counted from either end. -/
structure TreeRequest where
  path : List Int
  step : TreeStep

/-- What is told of a node. -/
structure NodeFields where
  label : Option Text
  depth : Int
  expanded : Bool
  kind : Kind
  isExpandable : Bool
  summary : Except DigitFault Text

/-- The answer to a request. -/
inductive TreeAnswer
  | lines (lines : Except ListingFault (List Text))
  | flag (expanded : Bool)
  | node (fields : NodeFields)
  | nodes (fields : List NodeFields)

/-- Whether a step has to do with the node alone and with nothing below. -/
def TreeStep.isLocal : TreeStep → Bool
  | toggle | set _ | node => true
  | render _ | children => false

/-- A number of requests in turn, with the answers to them. -/
def session {σ : Type} (perform : σ → TreeRequest → σ × Except IndexFault TreeAnswer) :
    σ → List TreeRequest → σ × List (Except IndexFault TreeAnswer)
  | s, [] => (s, [])
  | s, r :: rest =>
    let (next, answer) := perform s r
    let (last, answers) := session perform next rest
    (last, answer :: answers)

namespace Node

/-- What is told of a node. -/
def fields (n : Node) : NodeFields where
  label := n.label
  depth := n.depth
  expanded := n.expanded
  kind := n.value.kind
  isExpandable := n.isExpandable
  summary := n.summary

/-- The node once its children were made. -/
def remember (n : Node) : Node :=
  { n with memory := .mk n.expanded (some (n.children.map (·.memory))) }

/-- The node once the open part below it was made. -/
def rememberOpen (n : Node) : Node :=
  if n.expanded && n.isExpandable then
    { n with
      memory := .mk n.expanded
        (some (n.children.attach.map fun ⟨child, _⟩ => child.rememberOpen.memory)) }
  else n
termination_by sizeOf n.value
decreasing_by exact sizeOf_value_of_mem_children ‹_›

/-- The node after a step, with what it answers. -/
def act (n : Node) : TreeStep → Node × TreeAnswer
  | .render indent => (n.rememberOpen, .lines (renderLoop indent [] [n]))
  | .toggle => (n.toggle, .flag n.toggle.expanded)
  | .set expanded => (n.setExpanded expanded, .flag expanded)
  | .node => (n, .node n.fields)
  | .children => (n.remember, .nodes (n.children.map fields))

/-- The tree after a request, with its answer.  The nodes on the way are remembered. -/
def perform (root : Node) (r : TreeRequest) : Node × Except IndexFault TreeAnswer :=
  match root.modify (fun n => (n.act r.step).1) r.path, root.descend r.path with
  | .ok changed, .ok n => (changed, .ok (n.act r.step).2)
  | .error e, _ | _, .error e => (root, .error e)

end Node

end StructuredText.Json
