/-
# Outlines in step with their trees

An outline keeps three things of each item: whether it is open on screen, whether the items below it
were made, and the flag of its node.  They are changed by actions that call each other while items
are made, but after each opening or closing that goes through all of them agree, and what is visible
on screen is what the tree of nodes lists.  What does not go through is what would have to list an
integer with too many digits.

* `Outline.grow_eq` and `Outline.expand_eq`: which making of items goes through, and what it makes;
* `Outline.InStep` says that an item and all items below agree with their nodes;
* `InStep.children_node` and `InStep.visible_node`: the items below an item, and the visible ones,
  are those of the nodes;
* `Changes.modify` is one opening or closing, `OutlineSession.agrees_after` any number of them;
* `OutlineSession.mirrors_after`: the rows on screen are the nodes that the tree lists.
-/
import Mathlib
import StructuredText.Desktop.Outline
import StructuredText.Proofs.Json.LazyTree
import StructuredText.Proofs.Json.LongIntegers

namespace StructuredText.Desktop

open Json (DigitFault EagerTree Node Shows Value)

/-! ## Trees that list integers with too many digits -/

/-- A tree lists such an integer at its root, or below it if that is open. -/
theorem listsOverlong_iff {n : Node} :
    n.ListsOverlong ↔
      n.value.Overlong ∨ n.expanded = true ∧ ∃ child ∈ n.children, child.ListsOverlong := by
  have hopened : (∃ child ∈ n.opened, child.ListsOverlong) ↔
      n.expanded = true ∧ ∃ child ∈ n.children, child.ListsOverlong := by
    rw [Node.opened_eq]
    split <;> simp [*]
  rw [← hopened, Node.ListsOverlong, Node.visible_eq, List.exists_mem_cons_iff]
  simp only [List.mem_flatMap, Node.ListsOverlong]
  exact or_congr_right ⟨fun ⟨m, ⟨child, hchild, hm⟩, hlong⟩ => ⟨child, hchild, m, hm, hlong⟩,
    fun ⟨child, hchild, m, hm, hlong⟩ => ⟨m, ⟨child, hchild, hm⟩, hlong⟩⟩

/-- What stands inside of the value of a node stands inside of that of a node around it. -/
theorem mem_parts_of_at? {n m : Node} {path : List ℕ} (h : n.at? path = some m) {part : Value}
    (hpart : part ∈ m.value.parts) : part ∈ n.value.parts := by
  induction path generalizing n with
  | nil =>
    obtain rfl := Option.some.inj h
    exact hpart
  | cons i path ih =>
    obtain ⟨child, hchild, hrest⟩ := Option.bind_eq_some_iff.mp h
    obtain ⟨e, he, hvalue⟩ := Node.exists_entry_of_mem_children (List.mem_of_getElem? hchild)
    exact Node.mem_parts_of_mem_entries he (hvalue ▸ ih hrest)

namespace Outline

/-! ## Items and their nodes -/

theorem memories_eq (items : List Outline) :
    memories items = (items.map node).map (·.memory) := by
  induction items with
  | nil => rfl
  | cons o items ih => rw [memories, ih, List.map_cons, List.map_cons]

theorem visibleOf_eq (items : List Outline) : visibleOf items = items.flatMap visible := by
  induction items with
  | nil => rfl
  | cons o items ih => rw [visibleOf, ih, List.flatMap_cons]

/-- The node of an item is its own one but for what is remembered below. -/
theorem plain_node (o : Outline) : o.node.plain = o.ownNode.plain := by
  cases o
  rfl

theorem expanded_node (o : Outline) : o.node.expanded = o.ownNode.expanded := by
  cases o
  rfl

/-- The node of an item below which all items were made. -/
theorem node_item_true (n : Node) (summary : Text) (isOpen : Bool) {children : List Outline}
    (h : children.length = n.children.length) :
    (item n summary isOpen true children).node =
      { n with memory := .mk n.expanded (some ((children.map node).map (·.memory))) } := by
  rw [node, memories_eq, h, List.drop_length, List.map_nil, List.append_nil]
  rfl

/-! ## Making items -/

/-- An item before anything was done to it. -/
def closed (n : Node) : Outline := item n n.told false false []

/-- The item of a node with all items below it as far as nodes are open. -/
def grown (n : Node) : Outline :=
  if n.expanded then item n n.told true true (n.children.attach.map fun ⟨child, _⟩ => grown child)
  else closed n
termination_by sizeOf n.value
decreasing_by exact Node.sizeOf_value_of_mem_children ‹_›

theorem grown_of_expanded {n : Node} (h : n.expanded = true) :
    grown n = item n n.told true true (n.children.map grown) := by
  rw [grown, if_pos h, List.map_subtype fun _ _ => rfl, List.unattach_attach]

theorem grown_of_closed {n : Node} (h : ¬ n.expanded = true) : grown n = closed n := by
  rw [grown, if_neg h]

theorem growEach_map {α β : Type} (make : β → Except DigitFault (Outline × Option DigitFault))
    (f : α → β) (xs : List α) : growEach (make ∘ f) xs = growEach make (xs.map f) := by
  induction xs with
  | nil => rfl
  | cons x xs ih =>
    rw [List.map_cons, growEach, growEach, ih]
    rfl

/-- Making an item, written with the children alone. -/
theorem grow_unfold (n : Node) :
    grow n = n.summary.map fun summary =>
      if n.expanded then
        let (items, fault) := growEach grow n.children
        (item n summary fault.isNone true items, fault)
      else (item n summary false false [], none) := by
  have hbelow : growEach (fun child : { child // child ∈ n.children } => grow child.1)
      n.children.attach = growEach grow n.children := by
    rw [show (fun child : { child // child ∈ n.children } => grow child.1) = grow ∘ Subtype.val
      from rfl, growEach_map, List.attach_map_subtype_val]
  rw [grow]
  cases n.summary with
  | error fault => rfl
  | ok summary =>
    show (if n.expanded then _ else _) = Except.ok _
    rw [← hbelow]
    split <;> rfl

/-- By what the making of an item was broken off, if it was. -/
def faultOf : Except DigitFault (Outline × Option DigitFault) → Option DigitFault
  | .error fault => some fault
  | .ok (_, fault) => fault

/-- **Items are made one after another** until the first of them is broken off. -/
theorem growEach_eq {α : Type} {make : α → Except DigitFault (Outline × Option DigitFault)}
    {made : α → Outline} {p : α → Prop} {fault : DigitFault} {xs : List α}
    (hall : ∀ x ∈ xs, (¬ p x → make x = .ok (made x, none)) ∧
      (p x → faultOf (make x) = some fault)) :
    (¬ (∃ x ∈ xs, p x) → growEach make xs = (xs.map made, none)) ∧
      ((∃ x ∈ xs, p x) → (growEach make xs).2 = some fault) := by
  induction xs with
  | nil => simp [growEach]
  | cons x xs ih =>
    obtain ⟨hx, hxs⟩ := List.forall_mem_cons.mp hall
    obtain ⟨hnone, hsome⟩ := ih hxs
    rw [List.exists_mem_cons_iff, growEach]
    by_cases hp : p x
    · refine ⟨fun h => absurd (Or.inl hp) h, fun _ => ?_⟩
      have hfault := hx.2 hp
      rw [← hfault]
      cases hmake : make x with
      | error e => rfl
      | ok r =>
        obtain ⟨o, e⟩ := r
        cases e with
        | none =>
          rw [hmake] at hfault
          exact absurd hfault (by simp [faultOf])
        | some e => rfl
    · rw [hx.1 hp]
      constructor
      · intro h
        simp only [hnone fun hxs => h (Or.inr hxs), List.map_cons]
      · rintro (h | h)
        · exact absurd h hp
        · exact hsome h

theorem grow_of_overlong {n : Node} (h : n.value.Overlong) : grow n = .error .tooManyDigits := by
  rw [grow_unfold, Node.summary_eq, if_pos h]
  rfl

/-- **Making an item** goes through unless its tree lists an integer with too many digits. -/
theorem grow_eq (n : Node) :
    (¬ n.ListsOverlong → grow n = .ok (grown n, none)) ∧
      (n.ListsOverlong → faultOf (grow n) = some .tooManyDigits) := by
  induction hsize : sizeOf n.value using Nat.strong_induction_on generalizing n with
  | h size ih =>
    have hchildren : ∀ child ∈ n.children, (¬ child.ListsOverlong →
        grow child = .ok (grown child, none)) ∧
          (child.ListsOverlong → faultOf (grow child) = some .tooManyDigits) :=
      fun child hchild => ih _ (hsize ▸ Node.sizeOf_value_of_mem_children hchild) child rfl
    obtain ⟨hnone, hsome⟩ := growEach_eq hchildren
    rw [listsOverlong_iff]
    by_cases hlong : n.value.Overlong
    · rw [grow_of_overlong hlong]
      exact ⟨fun h => absurd (Or.inl hlong) h, fun _ => rfl⟩
    · rw [grow_unfold, Node.summary_eq, if_neg hlong]
      by_cases hexpanded : n.expanded = true
      · constructor
        · intro h
          have hbelow : ¬ ∃ child ∈ n.children, child.ListsOverlong :=
            fun hbelow => h (Or.inr ⟨hexpanded, hbelow⟩)
          rw [grown_of_expanded hexpanded, Except.map, if_pos hexpanded, hnone hbelow]
          rfl
        · intro h
          obtain ⟨-, hbelow⟩ := h.resolve_left hlong
          rw [Except.map, if_pos hexpanded]
          exact hsome hbelow
      · rw [grown_of_closed hexpanded, Except.map, if_neg hexpanded]
        exact ⟨fun _ => rfl, fun h => absurd (h.resolve_left hlong).1 hexpanded⟩

/-- The items below a node. -/
theorem growEach_children (n : Node) :
    (¬ (∃ child ∈ n.children, child.ListsOverlong) →
        growEach grow n.children = (n.children.map grown, none)) ∧
      ((∃ child ∈ n.children, child.ListsOverlong) →
        (growEach grow n.children).2 = some .tooManyDigits) :=
  growEach_eq fun child _ => grow_eq child

/-! ## Opening items -/

/-- An item that was opened, with all that was to be made below it. -/
def opened : Outline → Outline
  | item n summary isOpen populated children =>
    if isOpen then item n summary isOpen populated children
    else item (n.setExpanded true) summary true true
      (if populated then children else n.children.map grown)

/-- Whether opening an item meets an integer with too many digits: below an item that is closed
nothing was made, and a child of its node lists one. -/
def MeetsOverlong (o : Outline) : Prop :=
  (o.isOpen = false ∧ o.populated = false) ∧ ∃ child ∈ o.ownNode.children, child.ListsOverlong

/-- **Opening an item** goes through unless it meets such an integer. -/
theorem expand_eq (o : Outline) :
    (¬ o.MeetsOverlong → o.expand = (o.opened, none)) ∧
      (o.MeetsOverlong → o.expand.2 = some .tooManyDigits) := by
  obtain ⟨n, summary, isOpen, populated, children⟩ := o
  obtain ⟨hnone, hsome⟩ := growEach_children n
  cases isOpen with
  | true => exact ⟨fun _ => rfl, fun h => absurd h.1.1.symm Bool.false_ne_true⟩
  | false =>
    cases populated with
    | true => exact ⟨fun _ => rfl, fun h => absurd h.1.2.symm Bool.false_ne_true⟩
    | false =>
      have hexpand : (item n summary false false children).expand =
          let (items, fault) := growEach grow n.children
          (if fault.isSome then item n summary true true items
            else item (n.setExpanded true) summary true true items, fault) := rfl
      rw [hexpand]
      constructor
      · intro h
        rw [hnone fun hbelow => h ⟨⟨rfl, rfl⟩, hbelow⟩]
        rfl
      · intro h
        exact hsome h.2

/-- Opening an item whose first child is such an integer leaves it without items below. -/
theorem expand_closed_of_overlong {n child : Node} {rest : List Node}
    (hchildren : n.children = child :: rest) (hlong : child.value.Overlong) :
    (closed n).expand = (item n n.told true true [], some .tooManyDigits) := by
  have hnone : growEach grow n.children = ([], some .tooManyDigits) := by
    rw [hchildren, growEach, grow_of_overlong hlong]
  rw [closed, expand, setOpen, populate, hnone]
  rfl

/-! ## Agreement -/

/-- An item that agrees with its node, as do all items below: it tells of the node's value; it is
open just if the node is; the items below it are those of the children of the node if they were made,
and else there are none. -/
inductive InStep : Outline → Prop
  | mk {n : Node} {summary : Text} {isOpen populated : Bool} {children : List Outline}
      (own : n.memory.children = none) (told : n.summary = .ok summary) (flag : isOpen = n.expanded)
      (made : if populated then children.map (fun o => o.ownNode.plain) = n.children.map Node.plain
        else children = [] ∧ isOpen = false)
      (below : ∀ o ∈ children, InStep o) : InStep (.item n summary isOpen populated children)

/-- Only an integer with too many digits has nothing that tells of it. -/
theorem not_overlong_of_summary {n : Node} {summary : Text} (h : n.summary = .ok summary) :
    ¬ n.value.Overlong := by
  intro hlong
  rw [Node.summary_eq, if_pos hlong] at h
  exact absurd h (by simp)

theorem summary_of_not_overlong {n : Node} (h : ¬ n.value.Overlong) : n.summary = .ok n.told := by
  rw [Node.summary_eq, if_neg h]

/-- The children of a node of which nothing was remembered before. -/
theorem children_remembered {n : Node} (h : n.memory.children = none) (expanded : Bool)
    {nodes : List Node} (hnodes : nodes.map Node.plain = n.children.map Node.plain) :
    Node.children { n with memory := .mk expanded (some (nodes.map (·.memory))) } = nodes := by
  have hplain : Node.children { n with memory := .mk expanded (some (nodes.map (·.memory))) } =
      List.zipWith (fun child memory => { child with memory }) n.children
        (nodes.map (·.memory)) := by
    unfold Node.children
    rw [h]
    rfl
  rw [hplain]
  exact Node.zipWith_memory hnodes

theorem map_plain_node (items : List Outline) :
    (items.map node).map Node.plain = items.map fun o => o.ownNode.plain := by
  rw [List.map_map]
  exact List.map_congr_left fun o _ => plain_node o

theorem length_eq_of_plain {items : List Outline} {nodes : List Node}
    (h : items.map (fun o => o.ownNode.plain) = nodes.map Node.plain) :
    items.length = nodes.length := by
  simpa using congrArg List.length h

/-- **The items below an item** are those of the children of its node. -/
theorem InStep.children_node {o : Outline} (h : o.InStep) :
    o.children.map node = if o.populated then o.node.children else [] := by
  cases h with
  | @mk n summary isOpen populated children own told flag made below =>
    cases populated with
    | true =>
      have hlength := length_eq_of_plain made
      rw [← map_plain_node] at made
      rw [populated, if_pos rfl, node_item_true n summary isOpen hlength,
        children_remembered own _ made]
      rfl
    | false =>
      obtain ⟨rfl, -⟩ := made
      rfl

theorem InStep.isOpen_eq {o : Outline} (h : o.InStep) : o.isOpen = o.node.expanded := by
  cases h with
  | mk own told flag made below =>
    rw [expanded_node]
    exact flag

theorem InStep.populated_of_isOpen {o : Outline} (h : o.InStep) (hopen : o.isOpen = true) :
    o.populated = true := by
  cases h with
  | @mk n summary isOpen populated children own told flag made below =>
    cases populated with
    | true => rfl
    | false =>
      obtain rfl : isOpen = true := hopen
      exact absurd made.2 (by simp)

theorem InStep.summary_eq {o : Outline} (h : o.InStep) : o.node.summary = .ok o.summary := by
  cases h with
  | mk own told flag made below => exact told

/-- **The visible items** are those of the open part of the tree of nodes. -/
theorem InStep.visible_node {o : Outline} (h : o.InStep) :
    o.visible.map node = o.node.visible := by
  induction h with
  | @mk n summary isOpen populated children own told flag made below ih =>
    have hstep : InStep (.item n summary isOpen populated children) := .mk own told flag made below
    have hbelow :
        (children.flatMap visible).map node = (children.map node).flatMap Node.visible := by
      rw [List.map_flatMap, List.flatMap_map]
      exact List.flatMap_congr ih
    rw [Node.visible_eq, Node.opened_eq, ← hstep.isOpen_eq, visible, List.map_cons, visibleOf_eq]
    congr 1
    cases isOpen with
    | false => rfl
    | true =>
      obtain rfl : populated = true := hstep.populated_of_isOpen rfl
      have hchildren :
          children.map node = Node.children (node (.item n summary true true children)) :=
        hstep.children_node
      show (children.flatMap visible).map node =
        (Node.children (node (.item n summary true true children))).flatMap Node.visible
      rw [hbelow, hchildren]

/-- The visible items agree with their nodes too. -/
theorem InStep.of_mem_visible {o i : Outline} (h : o.InStep) (hi : i ∈ o.visible) : i.InStep := by
  induction h with
  | @mk n summary isOpen populated children own told flag made below ih =>
    rw [visible, List.mem_cons, visibleOf_eq] at hi
    rcases hi with rfl | hi
    · exact .mk own told flag made below
    · split at hi
      · obtain ⟨child, hchild, hi⟩ := List.mem_flatMap.mp hi
        exact ih child hchild hi
      · exact absurd hi List.not_mem_nil

/-- No item can tell of an integer with too many digits. -/
theorem InStep.not_listsOverlong {o : Outline} (h : o.InStep) : ¬ o.node.ListsOverlong := by
  rintro ⟨m, hm, hlong⟩
  rw [← h.visible_node] at hm
  obtain ⟨i, hi, rfl⟩ := List.mem_map.mp hm
  exact not_overlong_of_summary (h.of_mem_visible hi).summary_eq hlong

/-! ## Making items keeps agreement -/

/-- Where nothing is remembered of a node's children, they are new. -/
theorem exists_fresh_of_mem_children {n child : Node} (h : n.memory.children = none)
    (hchild : child ∈ n.children) :
    ∃ value label, child = .fresh value label (n.depth + 1) := by
  unfold Node.children at hchild
  rw [h] at hchild
  obtain ⟨entry, -, rfl⟩ := List.mem_map.mp hchild
  exact ⟨_, _, rfl⟩

theorem memory_of_mem_children {n child : Node} (h : n.memory.children = none)
    (hchild : child ∈ n.children) : child.memory.children = none := by
  obtain ⟨value, label, rfl⟩ := exists_fresh_of_mem_children h hchild
  rfl

theorem depth_of_mem_children {n child : Node} (h : n.memory.children = none)
    (hchild : child ∈ n.children) : child.depth = n.depth + 1 := by
  obtain ⟨value, label, rfl⟩ := exists_fresh_of_mem_children h hchild
  rfl

theorem ownNode_grown (n : Node) : (grown n).ownNode = n := by
  by_cases h : n.expanded = true
  · rw [grown_of_expanded h]
    rfl
  · rw [grown_of_closed h]
    rfl

theorem map_plain_grown (nodes : List Node) :
    (nodes.map grown).map (fun o => o.ownNode.plain) = nodes.map Node.plain := by
  rw [List.map_map]
  exact List.map_congr_left fun n _ => congrArg Node.plain (ownNode_grown n)

/-- **A new item agrees with its node.** -/
theorem inStep_grown {n : Node} (hmemory : n.memory.children = none) (hn : ¬ n.ListsOverlong) :
    (grown n).InStep := by
  induction hsize : sizeOf n.value using Nat.strong_induction_on generalizing n with
  | h size ih =>
    rw [listsOverlong_iff, not_or] at hn
    obtain ⟨hlong, hbelow⟩ := hn
    by_cases hexpanded : n.expanded = true
    · rw [grown_of_expanded hexpanded]
      refine .mk hmemory (summary_of_not_overlong hlong) hexpanded.symm
        (map_plain_grown n.children) ?_
      rw [List.forall_mem_map]
      intro child hchild
      exact ih _ (hsize ▸ Node.sizeOf_value_of_mem_children hchild)
        (memory_of_mem_children hmemory hchild)
        (fun h => hbelow ⟨hexpanded, child, hchild, h⟩) rfl
    · rw [grown_of_closed hexpanded]
      exact .mk hmemory (summary_of_not_overlong hlong) (by simpa using hexpanded) ⟨rfl, rfl⟩
        (List.forall_mem_nil _)

/-- A closed item has the node itself. -/
theorem node_closed {n : Node} (h : n.memory.children = none) (summary : Text) (isOpen : Bool) :
    (item n summary isOpen false []).node = n := by
  obtain ⟨value, label, depth, expanded, children⟩ := n
  obtain rfl : children = none := h
  rfl

/-- An item with new items below it shows what its node shows, if these do. -/
theorem shows_item_grown {n : Node} {t : EagerTree} (summary : Text) (isOpen : Bool)
    (h : Shows n t)
    (hbelow : ∀ child ∈ n.children, ∀ s, Shows child s → Shows (grown child).node s) :
    Shows (item n summary isOpen true (n.children.map grown)).node t := by
  have hplain : ((n.children.map grown).map node).map Node.plain = n.children.map Node.plain := by
    rw [map_plain_node, map_plain_grown]
  rw [node_item_true n summary isOpen (List.length_map ..)]
  refine Json.shows_iff.mpr ⟨h.bare_eq, ?_⟩
  rw [h.children_eq_of_plain hplain, List.map_map, List.forall₂_map_left_iff]
  refine List.forall₂_iff_get.mpr ⟨h.children.length_eq, fun i hn ht => ?_⟩
  exact hbelow _ (List.getElem_mem hn) _ (h.children.get hn ht)

/-- **A new item shows what its node shows.** -/
theorem shows_grown {n : Node} {t : EagerTree} (hmemory : n.memory.children = none)
    (h : Shows n t) : Shows (grown n).node t := by
  induction hsize : sizeOf n.value using Nat.strong_induction_on generalizing n t with
  | h size ih =>
    by_cases hexpanded : n.expanded = true
    · rw [grown_of_expanded hexpanded]
      refine shows_item_grown n.told true h fun child hchild s hs => ?_
      exact ih _ (hsize ▸ Node.sizeOf_value_of_mem_children hchild)
        (memory_of_mem_children hmemory hchild) hs rfl
    · rw [grown_of_closed hexpanded, closed, node_closed hmemory]
      exact h

/-! ## Opening and closing an item -/

/-- What an opening or closing does to an item: where it goes through, the item agrees with its node
afterwards.  The node is the same but for its flag, and every tree that was shown is shown with the
flag of the root set. -/
structure Changes (change : Outline → Outline) (flag : Bool) (goes : Outline → Prop) : Prop where
  inStep : ∀ o, InStep o → goes o → InStep (change o)
  plain : ∀ o, (change o).ownNode.plain = o.ownNode.plain
  shows : ∀ o t, InStep o → Shows o.node t → Shows (change o).node (t.write [] flag)

/-- **Opening** an item. -/
theorem changes_opened : Changes opened true fun o => ¬ o.MeetsOverlong where
  inStep o h hgoes := by
    cases h with
    | @mk n summary isOpen populated children own told flag made below =>
      cases isOpen with
      | true => exact .mk own told flag made below
      | false =>
        cases populated with
        | true => exact .mk own told rfl made below
        | false =>
          refine .mk own told rfl (map_plain_grown n.children) ?_
          rw [if_neg Bool.false_ne_true, List.forall_mem_map]
          exact fun child hchild => inStep_grown (memory_of_mem_children own hchild)
            fun hlists => hgoes ⟨⟨rfl, rfl⟩, child, hchild, hlists⟩
  plain o := by
    obtain ⟨n, summary, isOpen, populated, children⟩ := o
    cases isOpen <;> rfl
  shows o t h hshows := by
    cases h with
    | @mk n summary isOpen populated children own told flag made below =>
      cases isOpen with
      | true =>
        have hflag : t.flags [] = true := by
          rw [← hshows.expanded_eq, expanded_node]
          exact flag.symm
        have hwrite : t.write [] true = t := by rw [← hflag, EagerTree.write_flags]
        rw [hwrite]
        exact hshows
      | false =>
        cases populated with
        | true => exact hshows.setExpanded true
        | false =>
          obtain ⟨rfl, -⟩ := made
          rw [node_closed own] at hshows
          exact shows_item_grown summary true (hshows.setExpanded true) fun child hchild s hs =>
            shows_grown (memory_of_mem_children own hchild) hs

/-- **Closing** an item. -/
theorem changes_collapse : Changes collapse false fun _ => True where
  inStep o h _ := by
    cases h with
    | @mk n summary isOpen populated children own told flag made below =>
      cases isOpen with
      | false => exact .mk own told flag made below
      | true =>
        obtain rfl : populated = true :=
          InStep.populated_of_isOpen (.mk own told flag made below) rfl
        exact .mk own told rfl made below
  plain o := by
    obtain ⟨n, summary, isOpen, populated, children⟩ := o
    cases isOpen <;> rfl
  shows o t h hshows := by
    cases h with
    | @mk n summary isOpen populated children own told flag made below =>
      cases isOpen with
      | false =>
        have hflag : t.flags [] = false := by
          rw [← hshows.expanded_eq, expanded_node]
          exact flag.symm
        have hwrite : t.write [] false = t := by rw [← hflag, EagerTree.write_flags]
        rw [hwrite]
        exact hshows
      | true => exact hshows.setExpanded false

/-- **What opening an item meets** is what its node, once open, lists. -/
theorem InStep.meetsOverlong_iff {o : Outline} (h : o.InStep) :
    o.MeetsOverlong ↔ (o.node.setExpanded true).ListsOverlong := by
  by_cases hopen : o.isOpen = false ∧ o.populated = false
  · cases h with
    | @mk n summary isOpen populated children own told flag made below =>
      obtain rfl : isOpen = false := hopen.1
      obtain rfl : populated = false := hopen.2
      obtain ⟨rfl, -⟩ := made
      rw [node_closed own, listsOverlong_iff]
      have hroot : ¬ (n.setExpanded true).value.Overlong := not_overlong_of_summary told
      constructor
      · exact fun hmeets => Or.inr ⟨rfl, hmeets.2⟩
      · exact fun hlists => ⟨hopen, (hlists.resolve_left hroot).2⟩
  · -- Nothing is made, so all that is listed has its item already.
    have hgoes : ¬ o.MeetsOverlong := fun hmeets => hopen hmeets.1
    have hopened : o.opened.node = o.node.setExpanded true := by
      cases h with
      | @mk n summary isOpen populated children own told flag made below =>
        cases isOpen with
        | true =>
          show node _ = Node.setExpanded _ true
          obtain ⟨value, label, depth, expanded, memories⟩ := n
          obtain rfl : true = expanded := flag
          rfl
        | false =>
          cases populated with
          | true => rfl
          | false => exact absurd ⟨rfl, rfl⟩ hopen
    rw [← hopened]
    exact iff_of_false hgoes (changes_opened.inStep o h hgoes).not_listsOverlong

/-! ## Opening and closing below -/

section Below

variable {change : Outline → Outline} {flag : Bool} {goes : Outline → Prop}

theorem plain_modify (h : Changes change flag goes) (path : List ℕ) (o : Outline) :
    (o.modify change path).ownNode.plain = o.ownNode.plain := by
  cases path with
  | nil => exact h.plain o
  | cons i path =>
    cases o
    rfl

/-- An item that agrees with its node still does after a change of an item below. -/
theorem InStep.modify (h : Changes change flag goes) (path : List ℕ) {o : Outline} (ho : o.InStep)
    (hgoes : ∀ found, o.at? path = some found → goes found) : (o.modify change path).InStep := by
  induction path generalizing o with
  | nil => exact h.inStep o ho (hgoes o rfl)
  | cons i path ih =>
    cases ho with
    | @mk n summary isOpen populated children own told hflag made below =>
      have hplain : (children.modify i (Outline.modify change path)).map
          (fun o => o.ownNode.plain) = children.map fun o => o.ownNode.plain := by
        refine List.ext_getElem (by simp) fun j _ _ => ?_
        rw [List.getElem_map, List.getElem_map, List.getElem_modify]
        split
        · exact plain_modify h path _
        · rfl
      refine .mk own told hflag ?_ ?_
      · cases populated with
        | true => exact hplain.trans made
        | false =>
          obtain ⟨rfl, hclosed⟩ := made
          exact ⟨by simp, hclosed⟩
      · intro o' ho'
        obtain ⟨j, hj, rfl⟩ := List.mem_iff_getElem.mp ho'
        rw [List.length_modify] at hj
        rw [List.getElem_modify]
        split
        · next hij =>
          subst hij
          refine ih (below _ (List.getElem_mem hj)) fun found hfound => hgoes found ?_
          rw [Outline.at?, Outline.children, List.getElem?_eq_getElem hj, Option.bind_some, hfound]
        · exact below _ (List.getElem_mem hj)

/-- The node of an item after a change of an item directly below. -/
theorem InStep.node_modify {n : Node} {summary : Text} {isOpen : Bool} {children : List Outline}
    (h : InStep (.item n summary isOpen true children)) {i : ℕ} {child : Outline}
    (hchild : children[i]? = some child) (f : Outline → Outline) :
    (item n summary isOpen true (children.modify i f)).node =
      (item n summary isOpen true children).node.withChild i (f child).node := by
  have hlength : children.length = n.children.length := by
    cases h with
    | mk own told hflag made below => exact length_eq_of_plain made
  have hmodify : (children.modify i f).map node = (children.map node).set i (f child).node := by
    refine List.ext_getElem? fun j => ?_
    rw [List.getElem?_map, List.getElem?_modify, List.getElem?_set, List.length_map,
      List.getElem?_map]
    split
    · next hij =>
      subst hij
      rw [hchild, if_pos (List.getElem?_eq_some_iff.mp hchild).1]
      rfl
    · simp
  have hchildren : (item n summary isOpen true children).node.children = children.map node :=
    h.children_node.symm
  rw [Node.withChild, hchildren,
    node_item_true n summary isOpen ((List.length_modify ..).trans hlength), hmodify, List.map_set]
  rfl

/-- **One opening or closing** of an item, wherever it is: what was shown is shown with the flag of
that place set. -/
theorem Changes.modify (h : Changes change flag goes) {path : List ℕ} {o found : Outline}
    (hfound : o.at? path = some found) (ho : o.InStep) {t : EagerTree} (hshows : Shows o.node t) :
    Shows (o.modify change path).node (t.write path flag) := by
  induction path generalizing o t with
  | nil => exact h.shows o t ho hshows
  | cons i path ih =>
    obtain ⟨child, hchild, hrest⟩ := Option.bind_eq_some_iff.mp hfound
    cases ho with
    | @mk n summary isOpen populated children own told hflag made below =>
      have hstep : InStep (.item n summary isOpen populated children) :=
        .mk own told hflag made below
      cases populated with
      | false =>
        obtain ⟨rfl, -⟩ := made
        exact absurd hchild (by simp [Outline.children])
      | true =>
        have hnode : (Outline.modify change (i :: path) (.item n summary isOpen true children)).node =
            (item n summary isOpen true children).node.withChild i
              (child.modify change path).node :=
          hstep.node_modify hchild (Outline.modify change path)
        rw [hnode]
        refine hshows.withChild fun s hs => ?_
        refine ih hrest (below child (List.mem_of_getElem? hchild)) ?_
        have hchildren : (item n summary isOpen true children).node.children = children.map node :=
          hstep.children_node.symm
        have hall := hshows.children
        rw [hchildren, List.forall₂_map_left_iff] at hall
        obtain ⟨hi, rfl⟩ := List.getElem?_eq_some_iff.mp hchild
        obtain ⟨hi', rfl⟩ := List.getElem?_eq_some_iff.mp hs
        exact hall.get hi hi'

end Below

/-- Only what is done to the item at the place matters. -/
theorem modify_congr {change change' : Outline → Outline} {path : List ℕ} {o : Outline}
    (h : ∀ found, o.at? path = some found → change found = change' found) :
    o.modify change path = o.modify change' path := by
  induction path generalizing o with
  | nil => exact h o rfl
  | cons i path ih =>
    obtain ⟨n, summary, isOpen, populated, children⟩ := o
    rw [Outline.modify, Outline.modify]
    congr 1
    refine List.ext_getElem? fun j => ?_
    rw [List.getElem?_modify, List.getElem?_modify]
    split
    · next hij =>
      subst hij
      cases hchild : children[i]? with
      | none => rfl
      | some child =>
        refine congrArg some (ih fun found hfound => h found ?_)
        rw [at?, Outline.children, hchild, Option.bind_some, hfound]
    · rfl

theorem modify_id (path : List ℕ) (o : Outline) : o.modify id path = o := by
  induction path generalizing o with
  | nil => rfl
  | cons i path ih =>
    obtain ⟨n, summary, isOpen, populated, children⟩ := o
    have hsame : Outline.modify id path = id := funext ih
    rw [Outline.modify, hsame, List.modify_id]

/-- Where no item was made, none is opened or closed. -/
theorem modify_of_at?_none {change : Outline → Outline} {path : List ℕ} {o : Outline}
    (h : o.at? path = none) : o.modify change path = o := by
  have hsame : o.modify change path = o.modify id path := modify_congr (by simp [h])
  rw [hsame, modify_id]

/-- **Opening an item anywhere** goes through unless it meets an integer with too many digits. -/
theorem expandAt_eq (path : List ℕ) (o : Outline) :
    ((∀ found, o.at? path = some found → ¬ found.MeetsOverlong) →
        o.expandAt path = (o.modify opened path, none)) ∧
      ((∃ found, o.at? path = some found ∧ found.MeetsOverlong) →
        (o.expandAt path).2 = some .tooManyDigits) := by
  constructor
  · intro h
    have hmodify : o.modify (fun found => found.expand.1) path = o.modify opened path :=
      modify_congr fun found hfound => by rw [(expand_eq found).1 (h found hfound)]
    rw [expandAt, hmodify]
    cases hfound : o.at? path with
    | none => rfl
    | some found => rw [Option.bind_some, (expand_eq found).1 (h found hfound)]
  · rintro ⟨found, hfound, hmeets⟩
    rw [expandAt, hfound]
    exact (expand_eq found).2 hmeets

/-- An item below agrees with its node, and this is the node at the same place. -/
theorem InStep.at? {o found : Outline} (h : o.InStep) {path : List ℕ}
    (hfound : o.at? path = some found) : found.InStep ∧ o.node.at? path = some found.node := by
  induction path generalizing o with
  | nil =>
    obtain rfl := Option.some.inj hfound
    exact ⟨h, rfl⟩
  | cons i path ih =>
    obtain ⟨child, hchild, hrest⟩ := Option.bind_eq_some_iff.mp hfound
    have hchildren : (o.children.map node)[i]? = some child.node := by
      rw [List.getElem?_map, hchild, Option.map_some]
    rw [h.children_node] at hchildren
    split at hchildren
    · cases h with
      | mk own told flag made below =>
        obtain ⟨hstep, hnode⟩ := ih (below child (List.mem_of_getElem? hchild)) hrest
        refine ⟨hstep, ?_⟩
        rw [Node.at?, hchildren, Option.bind_some, hnode]
    · exact absurd hchildren (by simp)

end Outline

/-! ## Rows -/

/-- A row on screen: how far it is indented, and the texts of its columns. -/
structure OutlineRow where
  depth : ℤ
  label : Text
  summary : Text
deriving DecidableEq

/-- The row that a node has in a listing. -/
def OutlineRow.ofNode (n : Node) : Except DigitFault OutlineRow :=
  n.summary.map fun summary => ⟨n.depth, n.label.getD "(root)", summary⟩

namespace Outline

mutual

/-- The visible rows from top to bottom, each as deep as there are items around it. -/
def rows : ℤ → Outline → List OutlineRow
  | depth, item n summary isOpen populated children =>
    ⟨depth, (item n summary isOpen populated children).label, summary⟩ ::
      if isOpen then rowsOf (depth + 1) children else []
termination_by structural _ o => o

/-- The visible rows of some items and of those below. -/
def rowsOf : ℤ → List Outline → List OutlineRow
  | _, [] => []
  | depth, o :: rest => o.rows depth ++ rowsOf depth rest
termination_by structural _ os => os

end

theorem rowsOf_eq (depth : ℤ) (items : List Outline) :
    rowsOf depth items = items.flatMap (rows depth) := by
  induction items with
  | nil => rfl
  | cons o items ih => rw [rowsOf, ih, List.flatMap_cons]

/-- **The rows on screen** are as deep as the nodes of their items. -/
theorem InStep.rows_eq {o : Outline} (h : o.InStep) :
    o.rows o.ownNode.depth = o.visible.map fun i => ⟨i.node.depth, i.label, i.summary⟩ := by
  induction h with
  | @mk n summary isOpen populated children own told flag made below ih =>
    have hstep : InStep (.item n summary isOpen populated children) := .mk own told flag made below
    rw [rows, visible, List.map_cons, rowsOf_eq, visibleOf_eq]
    congr 1
    cases isOpen with
    | false => rfl
    | true =>
      obtain rfl : populated = true := hstep.populated_of_isOpen rfl
      rw [if_pos rfl, if_pos rfl, List.map_flatMap]
      refine List.flatMap_congr fun child hchild => ?_
      rw [← ih child hchild]
      congr 1
      -- The item shows a child of the node.
      have hmem : child.ownNode.plain ∈ n.children.map Node.plain := by
        rw [if_pos rfl] at made
        rw [← made]
        exact List.mem_map_of_mem hchild
      obtain ⟨m, hm, hplain⟩ := List.mem_map.mp hmem
      have hdepth : m.depth = child.ownNode.depth :=
        show m.plain.depth = child.ownNode.plain.depth by rw [hplain]
      rw [← hdepth, depth_of_mem_children own hm]
      rfl

/-- The rows on screen are those of the nodes that the tree lists. -/
theorem InStep.mapM_ofNode {o : Outline} (h : o.InStep) :
    o.node.visible.mapM OutlineRow.ofNode = .ok (o.rows o.ownNode.depth) := by
  rw [h.rows_eq, ← h.visible_node, List.mapM_map]
  refine Json.mapM_eq_ok fun i hi => ?_
  have hlabel : i.label = i.node.label.getD "(root)" := by
    cases i
    rfl
  rw [Function.comp, OutlineRow.ofNode, (h.of_mem_visible hi).summary_eq, hlabel]
  rfl

end Outline

/-! ## Sessions -/

/-- What a user does to an item. -/
inductive Gesture
  | expand (path : List ℕ)
  | collapse (path : List ℕ)

namespace Gesture

/-- The place of the item. -/
def path : Gesture → List ℕ
  | expand path | collapse path => path

/-- Whether the item is opened, and not closed. -/
def opens : Gesture → Bool
  | expand _ => true
  | collapse _ => false

/-- What happens to the outline, and by what it is broken off, if it is. -/
def act (o : Outline) : Gesture → Outline × Option DigitFault
  | expand path => o.expandAt path
  | collapse path => (o.collapseAt path, none)

/-- Whether an item is opened whose node, once open, lists an integer with too many digits. -/
def MeetsOverlong (o : Outline) : Gesture → Prop
  | expand path => ∃ found, o.at? path = some found ∧ (found.node.setExpanded true).ListsOverlong
  | collapse _ => False

end Gesture

/-- An outline at work beside the whole tree of the document, of which each gesture at an item sets
the flag of that place. -/
structure OutlineSession where
  outline : Outline
  tree : EagerTree

namespace OutlineSession

/-- A document that was just shown, unless that was broken off. -/
def start (v : Value) : Except DigitFault OutlineSession :=
  match Outline.grow (.ofValue v) with
  | .ok (o, none) => .ok ⟨o, .start v none 0⟩
  | .ok (_, some fault) | .error fault => .error fault

/-- The session after a gesture, unless that was broken off. -/
def next (s : OutlineSession) (g : Gesture) : Except DigitFault OutlineSession :=
  match g.act s.outline with
  | (outline, none) =>
    let tree := if (s.outline.at? g.path).isSome then s.tree.write g.path g.opens else s.tree
    .ok ⟨outline, tree⟩
  | (_, some fault) => .error fault

/-- The session after some gestures, unless one of them was broken off. -/
def after (v : Value) (gestures : List Gesture) : Except DigitFault OutlineSession := do
  gestures.foldlM next (← start v)

/-- The outline agrees with its nodes, these show the whole tree, and that is one of the document. -/
structure Agrees (v : Value) (s : OutlineSession) : Prop where
  inStep : s.outline.InStep
  shows : Shows s.outline.node s.tree
  root : s.outline.ownNode.plain = (Node.ofValue v).plain

/-- An end that is a failure under a condition, and else a session that agrees with the document. -/
structure Ends (v : Value) (fails : Prop) (result : Except DigitFault OutlineSession) : Prop where
  error : fails → result = .error .tooManyDigits
  ok : ¬ fails → ∃ s, result = .ok s ∧ s.Agrees v

variable {v : Value} {s : OutlineSession} {fails : Prop} {result : Except DigitFault OutlineSession}

theorem Ends.agrees (h : Ends v fails result) (hs : result = .ok s) : s.Agrees v := by
  by_cases hfails : fails
  · rw [h.error hfails] at hs
    exact absurd hs (by simp)
  · obtain ⟨s', hs', hagrees⟩ := h.ok hfails
    obtain rfl := Except.ok.inj (hs'.symm.trans hs)
    exact hagrees

theorem Ends.error_iff (h : Ends v fails result) : result = .error .tooManyDigits ↔ fails := by
  refine ⟨fun herror => ?_, h.error⟩
  by_contra hfails
  obtain ⟨s, hs, -⟩ := h.ok hfails
  rw [hs] at herror
  exact absurd herror (by simp)

/-- **Showing a document.** -/
theorem ends_start (v : Value) : Ends v (Node.ofValue v).ListsOverlong (start v) := by
  obtain ⟨hnone, hsome⟩ := Outline.grow_eq (.ofValue v)
  constructor
  · intro h
    have hfault := hsome h
    rw [start]
    cases hgrow : Outline.grow (.ofValue v) with
    | error fault => rfl
    | ok r =>
      obtain ⟨o, fault⟩ := r
      cases fault with
      | none =>
        rw [hgrow] at hfault
        exact absurd hfault (by simp [Outline.faultOf])
      | some fault => rfl
  · intro h
    rw [start, hnone h]
    refine ⟨_, rfl, Outline.inStep_grown rfl h,
      Outline.shows_grown rfl (Json.shows_fresh v none 0), ?_⟩
    rw [Outline.ownNode_grown]

/-- **One gesture.** -/
theorem Agrees.ends_next (h : s.Agrees v) (g : Gesture) :
    Ends v (g.MeetsOverlong s.outline) (s.next g) := by
  have hagrees {change : Outline → Outline} {goes : Outline → Prop}
      (hchanges : Outline.Changes change g.opens goes)
      (hgoes : ∀ found, s.outline.at? g.path = some found → goes found) :
      Agrees v ⟨s.outline.modify change g.path,
        if (s.outline.at? g.path).isSome then s.tree.write g.path g.opens else s.tree⟩ := by
    refine ⟨h.inStep.modify hchanges g.path hgoes, ?_,
      (Outline.plain_modify hchanges g.path s.outline).trans h.root⟩
    cases hfound : s.outline.at? g.path with
    | none =>
      rw [Outline.modify_of_at?_none hfound]
      exact h.shows
    | some found => exact hchanges.modify hfound h.inStep h.shows
  cases g with
  | collapse path =>
    exact ⟨False.elim, fun _ => ⟨_, rfl, hagrees Outline.changes_collapse (by simp)⟩⟩
  | expand path =>
    obtain ⟨hnone, hsome⟩ := Outline.expandAt_eq path s.outline
    have hmeets {found : Outline} (hfound : s.outline.at? path = some found) :
        found.MeetsOverlong ↔ (found.node.setExpanded true).ListsOverlong :=
      (h.inStep.at? hfound).1.meetsOverlong_iff
    constructor
    · rintro ⟨found, hfound, hlists⟩
      have hfault := hsome ⟨found, hfound, (hmeets hfound).mpr hlists⟩
      have hact : s.outline.expandAt path = ((s.outline.expandAt path).1, some .tooManyDigits) :=
        Prod.ext rfl hfault
      rw [next, Gesture.act, hact]
    · intro hgoes
      have hgoes : ∀ found, s.outline.at? path = some found → ¬ found.MeetsOverlong :=
        fun found hfound hmet => hgoes ⟨found, hfound, (hmeets hfound).mp hmet⟩
      refine ⟨_, ?_, hagrees Outline.changes_opened hgoes⟩
      rw [next, Gesture.act, hnone hgoes]
      rfl

theorem after_concat (v : Value) (gestures : List Gesture) (g : Gesture) :
    after v (gestures ++ [g]) = after v gestures >>= fun s => s.next g := by
  simp [after, List.foldlM_append]

/-- **Any number of gestures.** -/
theorem agrees_after {gestures : List Gesture} (h : after v gestures = .ok s) : s.Agrees v := by
  induction gestures using List.reverseRecOn generalizing s with
  | nil =>
    refine (ends_start v).agrees ?_
    rw [← h, after]
    simp
  | append_singleton gestures g ih =>
    rw [after_concat] at h
    cases hbefore : after v gestures with
    | error fault =>
      rw [hbefore] at h
      exact absurd h (by simp [bind, Except.bind])
    | ok before =>
      rw [hbefore] at h
      exact ((ih hbefore).ends_next g).agrees h

/-- What stands inside of the value of an item stands in the document. -/
theorem Agrees.mem_parts (h : s.Agrees v) {path : List ℕ} {o : Outline}
    (hfound : s.outline.at? path = some o) {part : Value} (hpart : part ∈ o.node.value.parts) :
    part ∈ v.parts := by
  have hroot : s.outline.node.value = v :=
    congrArg Node.value ((Outline.plain_node s.outline).trans h.root)
  rw [← hroot]
  exact mem_parts_of_at? (h.inStep.at? hfound).2 hpart

/-- **A document without integers with too many digits**, by whatever gestures. -/
theorem exists_after (hv : ∀ part ∈ v.parts, ¬ part.Overlong) (gestures : List Gesture) :
    ∃ s, after v gestures = .ok s := by
  induction gestures using List.reverseRecOn with
  | nil =>
    obtain ⟨s, hs, -⟩ := (ends_start v).ok (Node.not_listsOverlong_of_parts hv)
    exact ⟨s, by simp [after, hs]⟩
  | append_singleton gestures g ih =>
    obtain ⟨before, hbefore⟩ := ih
    have hagrees := agrees_after hbefore
    have hgoes : ¬ g.MeetsOverlong before.outline := by
      cases g with
      | collapse path => exact id
      | expand path =>
        rintro ⟨found, hfound, hlists⟩
        refine Node.not_listsOverlong_of_parts (fun part hpart => hv part ?_) hlists
        exact hagrees.mem_parts hfound hpart
    obtain ⟨s, hs, -⟩ := (hagrees.ends_next g).ok hgoes
    exact ⟨s, by rw [after_concat, hbefore]; exact hs⟩

/-- **The outline on screen mirrors the tree of nodes** for as long as nothing is broken off.  After
any openings and closings of items, wherever they are, each item shows the node at its place, it is
open just if the node is, and the items below it, if they were made, are those of the children of the
node, one for each and in order.  The visible rows are those of the nodes that the tree lists, with
the same depth, label and summary.  And the tree is listed by the same lines as if its nodes had been
there from the start, with the flags set by these openings and closings alone.

Showing a document and opening an item are broken off just if what is to be listed has an integer
with too many digits, so never in a document without one. -/
theorem mirrors_after (v : Value) (gestures : List Gesture) :
    (start v = .error .tooManyDigits ↔ (Node.ofValue v).ListsOverlong) ∧
    (∀ s, after v gestures = .ok s →
      let root := s.outline.node
      (∀ path o, s.outline.at? path = some o →
        root.at? path = some o.node ∧ o.isOpen = o.node.expanded ∧
          o.children.map Outline.node = if o.populated then o.node.children else []) ∧
      s.outline.visible.map Outline.node = root.visible ∧
      root.visible.mapM OutlineRow.ofNode = .ok (s.outline.rows 0) ∧
      s.tree.visible = root.visible.map Node.bare ∧
      (∀ indent, Node.renderLoop indent [] [root] = s.tree.render? indent) ∧
      ∀ g, s.next g = .error .tooManyDigits ↔ g.MeetsOverlong s.outline) ∧
    ((∀ part ∈ v.parts, ¬ part.Overlong) → ∃ s, after v gestures = .ok s) := by
  refine ⟨(ends_start v).error_iff, fun s hs => ?_, fun hv => exists_after hv gestures⟩
  have hagrees := agrees_after hs
  have ⟨hstep, hshows, hroot⟩ := hagrees
  have hdepth : s.outline.ownNode.depth = 0 := congrArg Node.depth hroot
  refine ⟨fun path o hfound => ?_, hstep.visible_node, ?_, hshows.visible_eq.symm,
    hshows.render?_eq, fun g => (hagrees.ends_next g).error_iff⟩
  · obtain ⟨hfoundStep, hnode⟩ := hstep.at? hfound
    exact ⟨hnode, hfoundStep.isOpen_eq, hfoundStep.children_node⟩
  · rw [← hdepth]
    exact hstep.mapM_ofNode

/-- A document with an integer with too many digits below an item that is closed at first. -/
def concealing : Value := .array [.array [.array [Json.tooLong]]]

/-- Opening that item is broken off, and leaves it without the item that belongs below it. -/
theorem not_mirrored_concealing :
    ∃ s item found, start concealing = .ok s ∧
      s.outline.at? [0, 0] = some item ∧ item ∈ s.outline.visible ∧
      s.next (.expand [0, 0]) = .error .tooManyDigits ∧
      (s.outline.expandAt [0, 0]).1.at? [0, 0] = some found ∧ found.populated = true ∧
      found.children.map Outline.node ≠ found.node.children := by
  set inner : Node := .fresh (.array [Json.tooLong]) (some (Text.ofNat 0)) 2
  set middle : Node := .fresh (.array [.array [Json.tooLong]]) (some (Text.ofNat 0)) 1
  set root : Node := .ofValue concealing
  have hinner : inner.children = [.fresh Json.tooLong (some (Text.ofNat 0)) 3] := rfl
  have hmiddle : ∀ n ∈ middle.children, n = inner := fun n hn => List.mem_singleton.mp hn
  have hroot : ∀ n ∈ root.children, n = middle := fun n hn => List.mem_singleton.mp hn
  -- Two levels are open at first, and the integer is on the fourth.
  have hlists : ¬ root.ListsOverlong := by
    rw [listsOverlong_iff]
    rintro (hlong | ⟨-, n, hn, hlong⟩)
    · exact hlong
    rw [hroot n hn, listsOverlong_iff] at hlong
    rcases hlong with hlong | ⟨-, n, hn, hlong⟩
    · exact hlong
    rw [hmiddle n hn, listsOverlong_iff] at hlong
    rcases hlong with hlong | ⟨hopen, -⟩
    · exact hlong
    · exact Bool.false_ne_true hopen
  have hstart : start concealing = .ok ⟨Outline.grown root, .start concealing none 0⟩ := by
    rw [start, (Outline.grow_eq root).1 hlists]
  have hgrown : Outline.grown root =
      .item root root.told true true [.item middle middle.told true true [Outline.closed inner]] := by
    rw [Outline.grown_of_expanded rfl]
    show Outline.item _ _ _ _ [Outline.grown middle] = _
    rw [Outline.grown_of_expanded rfl]
    show Outline.item _ _ _ _ [Outline.item _ _ _ _ [Outline.grown inner]] = _
    rw [Outline.grown_of_closed (n := inner) Bool.false_ne_true]
  have hact : (Outline.grown root).expandAt [0, 0] =
      (.item root root.told true true [.item middle middle.told true true
        [.item inner inner.told true true []]], some .tooManyDigits) := by
    rw [hgrown]
    show (Outline.item root root.told true true [.item middle middle.told true true
      [(Outline.closed inner).expand.1]], (Outline.closed inner).expand.2) = _
    rw [Outline.expand_closed_of_overlong hinner Json.overlong_tooLong]
  refine ⟨_, Outline.closed inner, .item inner inner.told true true [], hstart, ?_, ?_, ?_, ?_⟩
  · rw [hgrown]
    rfl
  · rw [hgrown]
    exact List.mem_cons_of_mem _ (List.mem_cons_of_mem _ List.mem_cons_self)
  · rw [next, Gesture.act, hact]
  · rw [hact]
    exact ⟨rfl, rfl, nofun⟩

end OutlineSession

end StructuredText.Desktop
