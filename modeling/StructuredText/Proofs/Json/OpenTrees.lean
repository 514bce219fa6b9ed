/-
# Trees that are open all the way down

The lines of a tree that is open all the way down are the line of the root, followed by those of
everything inside, in order.  Such a list tells the document: a line tells how much stands directly
inside, so it is known where the lines of one value end and those of the next begin.

* `EagerTree.whole` is the tree with everything open;
* `EagerTree.lines_whole_append_inj`: the lines of a value tell it apart, whatever follows them;
* `map_visible_session`: with everything open, no more than the document matters to what is shown;
* `render_fullyOpen_eq_iff`: documents and the lines of their trees.
-/
import Mathlib
import StructuredText.Proofs.Json.LazyTree
import StructuredText.Proofs.Json.Summaries

namespace StructuredText.Json

/-! ## What stands inside -/

/-- What holds of a value if it holds of every value directly inside. -/
theorem Value.induction_entries {motive : Value → Prop}
    (h : ∀ v, (∀ e ∈ Node.entries v, motive e.2) → motive v) (v : Value) : motive v := by
  induction v using Value.induction with
  | null | bool | int | float | string => exact h _ fun e he => absurd he List.not_mem_nil
  | array items ih =>
    apply h
    intro e he
    obtain ⟨i, hi, rfl⟩ := List.mem_mapIdx.mp he
    exact ih _ (List.getElem_mem hi)
  | object members ih => exact h _ ih

namespace Node

theorem wellFormed_of_mem_entries {v : Value} (hv : v.WellFormed) {e : Text × Value}
    (he : e ∈ entries v) : e.2.WellFormed := by
  cases v with
  | null | bool | int | float | string => exact absurd he List.not_mem_nil
  | array items =>
    obtain ⟨i, hi, rfl⟩ := List.mem_mapIdx.mp he
    exact wellFormed_of_mem hv (List.getElem_mem hi)
  | object members => exact wellFormed_of_mem_members hv.2 he

/-- The items of an array are what stands inside, under whichever labels. -/
theorem map_snd_entries_array (items : List Value) :
    (entries (.array items)).map Prod.snd = items :=
  List.ext_getElem (by simp [entries]) fun i _ _ => by simp [entries]

/-- What stands inside tells containers of the same kind apart. -/
theorem eq_of_entries_eq {v w : Value} (hv : v.isExpandable) (hkind : v.kind = w.kind)
    (h : entries v = entries w) : v = w := by
  cases v with
  | null | bool | int | float | string => exact absurd hv Bool.false_ne_true
  | array items =>
    cases w with
    | array items' =>
      rw [← map_snd_entries_array items, h, map_snd_entries_array]
    | null | bool | int | float | string | object => exact absurd hkind (by simp [Value.kind])
  | object members =>
    cases w with
    | object members' => exact congrArg Value.object h
    | null | bool | int | float | string | array => exact absurd hkind (by simp [Value.kind])

end Node

/-- Two lists of the same length are told apart by what is written of their elements in a row, if
what is written of each element tells it apart whatever follows. -/
theorem flatMap_append_inj {α β : Type} {f : α → List β} {xs ys : List α} {rest rest' : List β}
    (hf : ∀ x ∈ xs, ∀ y ∈ ys, ∀ rest rest', f x ++ rest = f y ++ rest' → x = y ∧ rest = rest')
    (hlength : xs.length = ys.length) (h : xs.flatMap f ++ rest = ys.flatMap f ++ rest') :
    xs = ys ∧ rest = rest' := by
  induction xs generalizing ys with
  | nil =>
    obtain rfl := List.eq_nil_of_length_eq_zero hlength.symm
    exact ⟨rfl, h⟩
  | cons x xs ih =>
    cases ys with
    | nil => exact absurd hlength (by simp)
    | cons y ys =>
      rw [List.flatMap_cons, List.flatMap_cons, List.append_assoc, List.append_assoc] at h
      obtain ⟨rfl, htail⟩ := hf x List.mem_cons_self y List.mem_cons_self _ _ h
      obtain ⟨rfl, hrest⟩ := ih
        (fun x' hx y' hy => hf x' (List.mem_cons_of_mem _ hx) y' (List.mem_cons_of_mem _ hy))
        (Nat.succ.inj hlength) htail
      exact ⟨rfl, hrest⟩

/-! ## The tree with everything open -/

namespace EagerTree

/-- The tree of a document with everything open. -/
def whole (value : Value) (label : Option Text) (depth : Int) : EagerTree :=
  ⟨value, label, depth, fun _ => true⟩

/-- The lines of the open part, if it shows no integer with too many digits. -/
def lines (indent : Text) (t : EagerTree) : List Text := t.visible.map (Node.toldLine indent)

variable {v w : Value} {label label' : Option Text} {depth : Int} {indent : Text}

/-- If the root is open as far as it can be, what comes below it is that of all its children. -/
theorem visible_of_open {t : EagerTree} (h : t.value.isExpandable → t.flags []) :
    t.visible = t.node :: t.children.flatMap visible := by
  rw [visible_eq]
  cases hexpandable : t.value.isExpandable with
  | true => rw [h hexpandable, Bool.and_self, if_pos rfl]
  | false =>
    have hnone : t.children = [] := by
      rw [children, Node.entries_eq_nil hexpandable, List.mapIdx_nil]
    rw [Bool.and_false, if_neg Bool.false_ne_true, hnone, List.flatMap_nil]

/-- The nodes of the whole tree: the root, then those of everything inside. -/
theorem visible_whole (v : Value) (label : Option Text) (depth : Int) :
    (whole v label depth).visible = (whole v label depth).node ::
      (Node.entries v).flatMap fun e => (whole e.2 (some e.1) (depth + 1)).visible := by
  have hchildren : (whole v label depth).children =
      (Node.entries v).map fun e => whole e.2 (some e.1) (depth + 1) :=
    List.ext_getElem (by simp [children, whole]) fun i _ _ => by simp [children, whole]
  rw [visible_of_open fun _ => rfl, hchildren, List.flatMap_map]

theorem lines_whole (v : Value) (label : Option Text) (depth : Int) (indent : Text) :
    (whole v label depth).lines indent = (whole v label depth).node.toldLine indent ::
      (Node.entries v).flatMap fun e => (whole e.2 (some e.1) (depth + 1)).lines indent := by
  rw [lines, visible_whole, List.map_cons, List.map_flatMap]
  rfl

/-- **The lines of an open tree tell its value and where they end.** -/
theorem lines_whole_append_inj {rest rest' : List Text} (hv : v.WellFormed) (hw : w.WellFormed)
    (hsome : label.isSome = label'.isSome)
    (h : (whole v label depth).lines indent ++ rest =
      (whole w label' depth).lines indent ++ rest') :
    label = label' ∧ v = w ∧ rest = rest' := by
  induction v using Value.induction_entries generalizing w label label' depth rest rest' with
  | h v ih =>
    rw [lines_whole, lines_whole, List.cons_append, List.cons_append] at h
    obtain ⟨hline, hbelow⟩ := List.cons.inj h
    obtain ⟨hopen, hlabel, hsummary⟩ :=
      Node.eq_of_toldLine_eq (n := (whole v label depth).node) (m := (whole w label' depth).node) rfl
        hsome hline
    refine ⟨hlabel, ?_⟩
    cases hexpandable : (whole v label depth).node.isExpandable with
    | false =>
      have hexpandable' := hopen.symm.trans hexpandable
      have hnone : Node.entries v = [] := Node.entries_eq_nil hexpandable
      have hnone' : Node.entries w = [] := Node.entries_eq_nil hexpandable'
      rw [hnone, hnone'] at hbelow
      exact ⟨Node.eq_of_told_eq hexpandable hexpandable' hv hw hsummary, hbelow⟩
    | true =>
      obtain ⟨hkind, hcount⟩ :=
        Node.kind_eq_of_told_eq hexpandable (hopen.symm.trans hexpandable) hsummary
      have hlength : (Node.entries v).length = (Node.entries w).length := by
        rw [Node.length_entries, Node.length_entries]
        exact hcount
      -- As many values stand inside of both, and the lines of each tell where those of the next
      -- begin.
      have hinside : Node.entries v = Node.entries w ∧ rest = rest' := by
        refine flatMap_append_inj (fun e he e' he' rest rest' hlines => ?_) hlength hbelow
        have hnamed : (some e.1).isSome = (some e'.1).isSome := rfl
        obtain ⟨hname, hvalue, hrest⟩ := ih e he (Node.wellFormed_of_mem_entries hv he)
          (Node.wellFormed_of_mem_entries hw he') hnamed hlines
        exact ⟨Prod.ext (Option.some.inj hname) hvalue, hrest⟩
      exact ⟨Node.eq_of_entries_eq hexpandable hkind hinside.1, hinside.2⟩

end EagerTree

/-! ## Trees with everything open -/

namespace Node

/-- Nodes that show the same, whatever is remembered of them. -/
def Alike (n m : Node) : Prop := n.plain = m.plain ∧ n.marker = m.marker

namespace Alike

variable {n m : Node}

theorem depth_eq (h : n.Alike m) : n.depth = m.depth := by
  show n.plain.depth = m.plain.depth
  rw [h.1]

theorem told_eq (h : n.Alike m) : n.told = m.told := by
  show n.plain.told = m.plain.told
  rw [h.1]

theorem summary_eq (h : n.Alike m) : n.summary = m.summary := by
  show n.plain.summary = m.plain.summary
  rw [h.1]

theorem lineOf_eq (h : n.Alike m) (indent : Text) : n.lineOf indent = m.lineOf indent := by
  have hlabel : n.label = m.label := show n.plain.label = m.plain.label by rw [h.1]
  funext summary
  rw [lineOf, lineOf, h.depth_eq, h.2, hlabel]

theorem toldLine_eq (h : n.Alike m) (indent : Text) : n.toldLine indent = m.toldLine indent := by
  rw [toldLine, toldLine, h.lineOf_eq, h.told_eq]

theorem line?_eq (h : n.Alike m) (indent : Text) : n.line? indent = m.line? indent := by
  rw [line?, line?, line, line, h.summary_eq, h.lineOf_eq, h.depth_eq]

end Alike

end Node

namespace EagerTree

/-- Everything that can be opened is open. -/
def FullyOpen (t : EagerTree) : Prop :=
  ∀ path s, t.at? path = some s → s.value.isExpandable → s.flags []

theorem FullyOpen.child {t s : EagerTree} (h : t.FullyOpen) (hs : s ∈ t.children) :
    s.FullyOpen := by
  obtain ⟨i, hi, rfl⟩ := List.mem_iff_getElem.mp hs
  intro path u hu
  apply h (i :: path) u
  rw [at?, List.getElem?_eq_getElem hi, Option.bind_some, hu]

/-- In a tree with everything open the same nodes are listed as in the tree whose flags are all
set, and they show the same. -/
theorem map_visible_eq_whole {α : Type} {f : Node → α}
    (hf : ∀ n m : Node, n.Alike m → f n = f m) {t : EagerTree} (ht : t.FullyOpen) :
    t.visible.map f = (whole t.value t.label t.depth).visible.map f := by
  induction hsize : sizeOf t.value using Nat.strong_induction_on generalizing t with
  | h size ih =>
    have hroot : t.value.isExpandable → t.flags [] := ht [] t rfl
    have hnode : f t.node = f (whole t.value t.label t.depth).node :=
      hf _ _ ⟨rfl, Node.marker_eq rfl hroot⟩
    have hbelow := congrArg (List.flatMap visible) (t.map_children whole)
    rw [List.flatMap_map, List.flatMap_map] at hbelow
    rw [visible_of_open hroot, visible_whole, List.map_cons, List.map_cons, hnode, ← hbelow,
      List.map_flatMap, List.map_flatMap]
    congr 1
    apply List.flatMap_congr
    intro s hs
    exact ih _ (hsize ▸ sizeOf_value_of_mem_children hs) (ht.child hs) rfl

end EagerTree

namespace Node

/-- Everything that can be opened is open. -/
def FullyOpen (n : Node) : Prop := ∀ path m, n.at? path = some m → m.isExpandable → m.expanded

/-- Everything is open if the root is and everything below each child is. -/
theorem fullyOpen_iff {n : Node} :
    n.FullyOpen ↔ (n.isExpandable → n.expanded) ∧ ∀ child ∈ n.children, child.FullyOpen := by
  constructor
  · intro h
    refine ⟨h [] n rfl, ?_⟩
    intro child hchild
    obtain ⟨i, hi, rfl⟩ := List.mem_iff_getElem.mp hchild
    intro path m hm
    apply h (i :: path) m
    rw [at?, List.getElem?_eq_getElem hi, Option.bind_some, hm]
  · rintro ⟨hroot, hchildren⟩ path m hm
    cases path with
    | nil =>
      obtain rfl := Option.some.inj hm
      exact hroot
    | cons i path =>
      rw [at?, Option.bind_eq_some_iff] at hm
      obtain ⟨child, hchild, hm⟩ := hm
      exact hchildren child (List.mem_of_getElem? hchild) path m hm

end Node

namespace Shows

variable {n : Node} {t : EagerTree}

theorem fullyOpen (h : Shows n t) (hn : n.FullyOpen) : t.FullyOpen := by
  intro path s hs hexpandable
  have hplace := h path
  rw [hs, Option.map_some, Option.map_eq_some_iff] at hplace
  obtain ⟨m, hm, hbare⟩ := hplace
  have hvalue : m.value = s.value := congrArg Node.value hbare
  have hflag : m.expanded = s.flags [] := congrArg Node.expanded hbare
  rw [← hflag]
  apply hn path m hm
  rwa [Node.isExpandable, hvalue]

/-- What is told of the nodes of a tree with everything open, whatever is told of each. -/
theorem map_visible_eq_whole {α : Type} {f : Node → α}
    (hf : ∀ n m : Node, n.Alike m → f n = f m) (h : Shows n t) (hn : n.FullyOpen) :
    n.visible.map f = (EagerTree.whole t.value t.label t.depth).visible.map f := by
  rw [← EagerTree.map_visible_eq_whole hf (h.fullyOpen hn), ← h.visible_eq, List.map_map]
  apply List.map_congr_left
  intro m _
  exact hf m m.bare ⟨rfl, rfl⟩

end Shows

/-! ## After any requests -/

/-- Once everything in the tree of a document is open, the document alone matters to what is told
of its nodes. -/
theorem map_visible_session {α : Type} {f : Node → α}
    (hf : ∀ n m : Node, n.Alike m → f n = f m) {v : Value} {requests : List TreeRequest}
    (hn : (session Node.perform (.ofValue v) requests).1.FullyOpen) :
    (session Node.perform (.ofValue v) requests).1.visible.map f =
      (EagerTree.whole v none 0).visible.map f := by
  have hshows := ((shows_fresh v none 0).session requests).1
  obtain ⟨flags, hflags⟩ := EagerTree.exists_flags_session (.start v none 0) requests
  rw [hflags] at hshows
  exact hshows.map_visible_eq_whole hf hn

/-- The lines are written one by one. -/
theorem Node.render?_eq (indent : Text) (n : Node) :
    n.render? indent = (n.visible.map (line? indent)).mapM id := by
  rw [render?, List.mapM_map]
  rfl

/-- The root of a tree stays that of the document. -/
theorem value_session (v : Value) (requests : List TreeRequest) :
    (session Node.perform (.ofValue v) requests).1.value = v := by
  obtain ⟨flags, hflags⟩ := EagerTree.exists_flags_session (.start v none 0) requests
  have hshows := ((shows_fresh v none 0).session requests).1
  rw [hflags] at hshows
  exact hshows.value_eq

/-- **Documents are told apart by their trees.**  Trees with everything open have all their lines,
and those of two trees are the same just if the documents are the same, with their members in the
same order.  So they are under any indent, and however the trees were opened. -/
theorem render_fullyOpen_eq_iff {v w : Value} (hv : v.WellFormed) (hw : w.WellFormed)
    (indent : Text) {requests requests' : List TreeRequest}
    (hn : (session Node.perform (.ofValue v) requests).1.FullyOpen)
    (hm : (session Node.perform (.ofValue w) requests').1.FullyOpen) :
    let n := (session Node.perform (.ofValue v) requests).1
    let m := (session Node.perform (.ofValue w) requests').1
    ∃ lines lines', n.render indent = .ok lines ∧ m.render indent = .ok lines' ∧
      (lines = lines' ↔ v = w) ∧ (v = w → n.render? indent = m.render? indent) := by
  intro n m
  have hwritten : n.render indent = .ok (n.visible.map (Node.toldLine indent)) :=
    Node.render_of_wellFormed (value_session v requests ▸ hv) indent
  have hwritten' : m.render indent = .ok (m.visible.map (Node.toldLine indent)) :=
    Node.render_of_wellFormed (value_session w requests' ▸ hw) indent
  have hlines : n.visible.map (Node.toldLine indent) = (EagerTree.whole v none 0).lines indent :=
    map_visible_session (fun _ _ h => h.toldLine_eq indent) hn
  have hlines' : m.visible.map (Node.toldLine indent) = (EagerTree.whole w none 0).lines indent :=
    map_visible_session (fun _ _ h => h.toldLine_eq indent) hm
  refine ⟨_, _, hwritten, hwritten', ?_, ?_⟩
  · rw [hlines, hlines']
    constructor
    · intro h
      have hsame : (EagerTree.whole v none 0).lines indent ++ [] =
          (EagerTree.whole w none 0).lines indent ++ [] := congrArg (· ++ []) h
      exact (EagerTree.lines_whole_append_inj hv hw rfl hsame).2.1
    · rintro rfl
      rfl
  · rintro rfl
    rw [Node.render?_eq, Node.render?_eq,
      map_visible_session (fun _ _ h => h.line?_eq indent) hn,
      map_visible_session (fun _ _ h => h.line?_eq indent) hm]

/-- An array inside of another, both closed at first, under some name. -/
def nested (name : Text) : Value :=
  .object [("a", .object [(name, .array [.array [.string ": "]])])]

/-- Both arrays are opened, and the name ends like the front of another line. -/
theorem render_fullyOpen_eq_iff_nested :
    let requests := [⟨[0, 0], .set true⟩, ⟨[0, 0, 0], .toggle⟩]
    let n := (session Node.perform (.ofValue (nested "b")) requests).1
    let m := (session Node.perform (.ofValue (nested "b: \"")) requests).1
    (nested "b").WellFormed ∧ (nested "b: \"").WellFormed ∧ n.FullyOpen ∧ m.FullyOpen ∧
      ∃ lines lines', n.render "\t" = .ok lines ∧ m.render "\t" = .ok lines' ∧
        (lines = lines' ↔ nested "b" = nested "b: \"") := by
  intro requests n m
  have hformed (name : Text) : (nested name).WellFormed := by
    simp [nested, Value.WellFormed, WellFormedMembers, WellFormedItems, namesOf]
  have hopen (name : Text) :
      (session Node.perform (.ofValue (nested name)) requests).1.FullyOpen := by
    refine Node.fullyOpen_iff.mpr ⟨fun _ => rfl, List.forall_mem_singleton.mpr ?_⟩
    refine Node.fullyOpen_iff.mpr ⟨fun _ => rfl, List.forall_mem_singleton.mpr ?_⟩
    refine Node.fullyOpen_iff.mpr ⟨fun _ => rfl, List.forall_mem_singleton.mpr ?_⟩
    refine Node.fullyOpen_iff.mpr ⟨fun _ => rfl, List.forall_mem_singleton.mpr ?_⟩
    exact Node.fullyOpen_iff.mpr ⟨fun h => absurd h Bool.false_ne_true, List.forall_mem_nil _⟩
  obtain ⟨lines, lines', hlines, hlines', heq, -⟩ :=
    render_fullyOpen_eq_iff (hformed "b") (hformed "b: \"") "\t" (hopen _) (hopen _)
  exact ⟨hformed _, hformed _, hopen _, hopen _, lines, lines', hlines, hlines', heq⟩

end StructuredText.Json
