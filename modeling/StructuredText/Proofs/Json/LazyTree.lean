/-
# Trees made as needed

The nodes of a tree are made when they are asked for and remembered from then on.  What is told of
them is the same as if the whole tree stood there from the start with one flag for each place.

* `Shows` relates such a tree to the whole one: at each place they show the same;
* `Shows.perform` is one step, `Shows.session` any number of them;
* `session_fresh`: a new tree answers like the whole tree; changes of different places commute, and
  closing and opening a node again does not change what is below.
-/
import Mathlib
import StructuredText.Proofs.Json.EagerTree

namespace StructuredText.Json

/-! ## Nodes and what is remembered of them -/

namespace Node

/-- The node without anything remembered but its flag. -/
def bare (n : Node) : Node := { n with memory := .mk n.expanded none }

/-- The node without anything remembered. -/
def plain (n : Node) : Node := { n with memory := .mk false none }

/-- What is remembered of children comes back with them. -/
theorem zipWith_memory {nodes children : List Node} (h : nodes.map plain = children.map plain) :
    List.zipWith (fun child memory => { child with memory }) children (nodes.map (·.memory)) =
      nodes := by
  induction nodes generalizing children with
  | nil => simp
  | cons n nodes ih =>
    cases children with
    | nil => simp at h
    | cons child children =>
      rw [List.map_cons, List.map_cons, List.cons.injEq] at h
      obtain ⟨hplain, h⟩ := h
      have hn : { child with memory := n.memory } = n := by
        simp only [plain, mk.injEq] at hplain
        obtain ⟨hvalue, hlabel, hdepth, -⟩ := hplain
        cases n
        simp_all
      rw [List.map_cons, List.zipWith_cons_cons, ih h, hn]

/-- The node at the place that the positions lead to. -/
def at? : List ℕ → Node → Option Node
  | [], n => some n
  | i :: path, n => n.children[i]?.bind (at? path)

end Node

/-- The children of a node that nothing was done to yet. -/
theorem EagerTree.children_fresh (t : EagerTree) :
    (Node.fresh t.value t.label t.depth).children =
      t.children.map fun s => Node.fresh s.value s.label s.depth :=
  (t.map_children Node.fresh).symm

/-! ## Showing the same -/

/-- A tree made as needed shows the whole tree: at each place is the same value, with the same
label, depth and flag. -/
def Shows (n : Node) (t : EagerTree) : Prop :=
  ∀ path, (n.at? path).map Node.bare = (t.at? path).map EagerTree.node

/-- A tree shows the whole tree if its root and its children do. -/
theorem shows_iff {n : Node} {t : EagerTree} :
    Shows n t ↔ n.bare = t.node ∧ List.Forall₂ Shows n.children t.children := by
  constructor
  · intro h
    have hroot : n.bare = t.node := Option.some.inj (h [])
    have hlength : n.children.length = t.children.length := by
      by_contra hne
      -- Else one of the trees has a place where the other has none.
      have hplace := h [min n.children.length t.children.length]
      simp only [Node.at?, EagerTree.at?] at hplace
      rcases Nat.lt_or_gt_of_ne hne with hlt | hlt
      · rw [min_eq_left hlt.le, List.getElem?_eq_none le_rfl, List.getElem?_eq_getElem hlt] at hplace
        simp at hplace
      · rw [min_eq_right hlt.le, List.getElem?_eq_none (l := t.children) le_rfl,
          List.getElem?_eq_getElem hlt] at hplace
        simp at hplace
    refine ⟨hroot, List.forall₂_iff_get.mpr ⟨hlength, fun i hn ht path => ?_⟩⟩
    have hplace := h (i :: path)
    simp only [Node.at?, EagerTree.at?, List.getElem?_eq_getElem hn, List.getElem?_eq_getElem ht,
      Option.bind_some] at hplace
    exact hplace
  · rintro ⟨hroot, hchildren⟩ path
    cases path with
    | nil => exact congrArg some hroot
    | cons i path =>
      simp only [Node.at?, EagerTree.at?]
      by_cases hi : i < n.children.length
      · have hi' : i < t.children.length := hchildren.length_eq ▸ hi
        rw [List.getElem?_eq_getElem hi, List.getElem?_eq_getElem hi']
        exact hchildren.get hi hi' path
      · rw [List.getElem?_eq_none (not_lt.mp hi),
          List.getElem?_eq_none (hchildren.length_eq ▸ not_lt.mp hi)]
        rfl

namespace Shows

variable {n : Node} {t : EagerTree}

theorem bare_eq (h : Shows n t) : n.bare = t.node := (shows_iff.mp h).1

theorem children (h : Shows n t) : List.Forall₂ Shows n.children t.children := (shows_iff.mp h).2

theorem value_eq (h : Shows n t) : n.value = t.value := congrArg Node.value h.bare_eq

theorem label_eq (h : Shows n t) : n.label = t.label := congrArg Node.label h.bare_eq

theorem depth_eq (h : Shows n t) : n.depth = t.depth := congrArg Node.depth h.bare_eq

theorem expanded_eq (h : Shows n t) : n.expanded = t.flags [] := congrArg Node.expanded h.bare_eq

theorem plain_eq (h : Shows n t) : n.plain = t.node.plain :=
  show n.bare.plain = t.node.plain by rw [h.bare_eq]

theorem fields_eq (h : Shows n t) : n.fields = t.node.fields :=
  show n.bare.fields = t.node.fields by rw [h.bare_eq]

/-- The children of a node are those of its value, whatever is remembered of them. -/
theorem plain_children (h : Shows n t) :
    n.children.map Node.plain =
      (Node.fresh n.value n.label n.depth).children.map Node.plain := by
  have hplain : n.children.map Node.plain = t.children.map fun child => child.node.plain := by
    rw [← List.forall₂_eq_eq_eq, List.forall₂_map_left_iff, List.forall₂_map_right_iff]
    exact h.children.imp fun _ _ hchild => hchild.plain_eq
  rw [hplain, h.value_eq, h.label_eq, h.depth_eq, t.children_fresh, List.map_map]
  rfl

/-- Children are remembered as they are. -/
theorem children_eq_of_plain (h : Shows n t) {nodes : List Node}
    (hnodes : nodes.map Node.plain = n.children.map Node.plain) (expanded : Bool) :
    Node.children { n with memory := .mk expanded (some (nodes.map (·.memory))) } = nodes :=
  Node.zipWith_memory (hnodes.trans h.plain_children)

end Shows

/-! ## New trees -/

/-- A tree of which nothing is remembered shows the whole tree if only the containers above the
second level are open there. -/
theorem shows_fresh_of_flags {t : EagerTree} (h : ∀ path s, t.at? path = some s →
    t.flags path = (s.depth < 2 && s.value.isExpandable)) :
    Shows (.fresh t.value t.label t.depth) t := by
  intro path
  induction path generalizing t with
  | nil =>
    have hroot := h [] t rfl
    simp [Node.at?, EagerTree.at?, EagerTree.node, Node.bare, Node.fresh, Node.expanded,
      Memory.expanded, Node.openDepth, hroot]
  | cons i path ih =>
    rw [Node.at?, EagerTree.at?, t.children_fresh, List.getElem?_map]
    cases hchild : t.children[i]? with
    | none => rfl
    | some child =>
      refine ih fun rest s hs => ?_
      rw [EagerTree.flags_of_getElem? hchild]
      exact h (i :: rest) s (by simp [EagerTree.at?, hchild, hs])

/-- **A new tree shows the whole tree.** -/
theorem shows_fresh (value : Value) (label : Option Text) (depth : Int) :
    Shows (.fresh value label depth) (.start value label depth) :=
  shows_fresh_of_flags fun _ _ => EagerTree.flags_start

/-! ## Remembering -/

namespace Shows

variable {n : Node} {t : EagerTree}

/-- Making the children of a node changes nothing that is shown. -/
theorem remember (h : Shows n t) : Shows n.remember t := by
  have hchildren : n.remember.children = n.children := h.children_eq_of_plain rfl n.expanded
  exact shows_iff.mpr ⟨h.bare_eq, hchildren ▸ h.children⟩

end Shows

/-- Making the open part below a node, written with the children alone. -/
theorem Node.rememberOpen_eq (n : Node) :
    n.rememberOpen =
      if n.expanded && n.isExpandable then
        { n with
          memory := .mk n.expanded (some ((n.children.map Node.rememberOpen).map (·.memory))) }
      else n := by
  rw [Node.rememberOpen]
  split
  · rw [List.map_subtype fun _ _ => rfl, List.unattach_attach, List.map_map]
    rfl
  · rfl

/-- The open part below a node is made without a change of the node itself. -/
theorem Node.plain_rememberOpen (n : Node) : n.rememberOpen.plain = n.plain := by
  rw [Node.rememberOpen_eq]
  split <;> rfl

/-- Making the open part below a node changes nothing that is shown. -/
theorem Shows.rememberOpen {n : Node} {t : EagerTree} (h : Shows n t) :
    Shows n.rememberOpen t := by
  induction hsize : sizeOf t.value using Nat.strong_induction_on generalizing n t with
  | h size ih =>
    rw [Node.rememberOpen_eq]
    split
    · refine shows_iff.mpr ⟨h.bare_eq, ?_⟩
      rw [h.children_eq_of_plain (by simp [Node.plain_rememberOpen]) n.expanded,
        List.forall₂_map_left_iff]
      refine List.forall₂_iff_get.mpr ⟨h.children.length_eq, fun i hn ht => ?_⟩
      have hsmaller := EagerTree.sizeOf_value_of_mem_children (List.getElem_mem ht)
      exact ih _ (hsize ▸ hsmaller) (h.children.get hn ht) rfl
    · exact h

/-! ## Listing -/

/-- The same nodes are open in both trees, in the same order. -/
theorem Shows.visible_eq {n : Node} {t : EagerTree} (h : Shows n t) :
    n.visible.map Node.bare = t.visible := by
  induction hsize : sizeOf t.value using Nat.strong_induction_on generalizing n t with
  | h size ih =>
    have hopen : (n.expanded && n.isExpandable) = (t.flags [] && t.value.isExpandable) := by
      rw [h.expanded_eq, Node.isExpandable, h.value_eq]
    have hbelow : ∀ {ns : List Node} {ts : List EagerTree}, List.Forall₂ Shows ns ts →
        (∀ s ∈ ts, sizeOf s.value < size) →
        (ns.flatMap Node.visible).map Node.bare = ts.flatMap EagerTree.visible := by
      intro ns ts hall hsmaller
      induction hall with
      | nil => rfl
      | @cons m s ns ts hm _ ihall =>
        obtain ⟨hs, hts⟩ := List.forall_mem_cons.mp hsmaller
        rw [List.flatMap_cons, List.flatMap_cons, List.map_append, ih _ hs hm rfl, ihall hts]
    rw [Node.visible_eq, EagerTree.visible_eq, Node.opened, hopen, List.map_cons, h.bare_eq]
    congr 1
    split
    · exact hbelow h.children fun s hs =>
        hsize ▸ EagerTree.sizeOf_value_of_mem_children hs
    · rfl

/-- Both trees are listed by the same lines. -/
theorem Shows.render?_eq {n : Node} {t : EagerTree} (h : Shows n t) (indent : Text) :
    Node.renderLoop indent [] [n] = t.render? indent := by
  rw [← Node.render?_eq_renderLoop, Node.render?, EagerTree.render?, ← h.visible_eq, List.mapM_map]
  rfl

/-! ## One step -/

/-- A node with its flag set shows the tree with the flag of the root set. -/
theorem Shows.setExpanded {n : Node} {t : EagerTree} (h : Shows n t) (flag : Bool) :
    Shows (n.setExpanded flag) (t.write [] flag) := by
  refine shows_iff.mpr ⟨?_, ?_⟩
  · have hplain : (n.setExpanded flag).bare = { n.plain with memory := .mk flag none } := rfl
    rw [hplain, h.plain_eq]
    simp [EagerTree.node, EagerTree.write, Node.plain]
  · have hchildren : (n.setExpanded flag).children = n.children := rfl
    rw [hchildren, EagerTree.children_write_nil]
    exact h.children

/-- Elements that go together still do after one was changed in both lists. -/
theorem forall₂_set_modify {α β : Type} {R : α → β → Prop} {xs : List α} {ys : List β}
    (h : List.Forall₂ R xs ys) {i : ℕ} {x : α} {f : β → β}
    (hi : ∀ y, ys[i]? = some y → R x (f y)) : List.Forall₂ R (xs.set i x) (ys.modify i f) := by
  refine List.forall₂_iff_get.mpr ⟨by simp [h.length_eq], fun j hx hy => ?_⟩
  rw [List.length_set] at hx
  rw [List.length_modify] at hy
  simp only [List.get_eq_getElem, List.getElem_set, List.getElem_modify]
  split
  · next heq =>
    subst heq
    exact hi _ (List.getElem?_eq_getElem hy)
  · exact h.get hx hy

/-- A node with one child changed shows the tree with a flag set in that child. -/
theorem Shows.withChild {n : Node} {t : EagerTree} (h : Shows n t) {i : ℕ} {child : Node}
    {path : List ℕ} {flag : Bool}
    (hchild : ∀ s, t.children[i]? = some s → Shows child (s.write path flag)) :
    Shows (n.withChild i child) (t.write (i :: path) flag) := by
  have hplain : (n.children.set i child).map Node.plain = n.children.map Node.plain := by
    refine List.ext_getElem (by simp) fun j hj hj' => ?_
    rw [List.length_map] at hj'
    rw [List.getElem_map, List.getElem_map, List.getElem_set]
    split
    · next heq =>
      subst heq
      have ht := h.children.length_eq ▸ hj'
      have hwritten := (hchild _ (List.getElem?_eq_getElem ht)).plain_eq
      exact hwritten.trans (h.children.get hj' ht).plain_eq.symm
    · rfl
  have hchildren : (n.withChild i child).children = n.children.set i child := by
    have heq := h.children_eq_of_plain hplain n.expanded
    rw [List.map_set] at heq
    exact heq
  refine shows_iff.mpr ⟨h.bare_eq.trans ?_, ?_⟩
  · simp [EagerTree.node, EagerTree.write]
  · rw [hchildren, EagerTree.children_write_cons]
    exact forall₂_set_modify h.children hchild

/-- The node at a path and the tree after a change of it, if there is one. -/
theorem Shows.modify {n : Node} {t : EagerTree} (h : Shows n t) {change : Node → Node}
    {flag : EagerTree → Bool}
    (hchange : ∀ m s, Shows m s → Shows (change m) (s.write [] (flag s))) (path : List Int) :
    (∃ fault, t.resolve path = .error fault ∧ n.modify change path = .error fault ∧
      n.descend path = .error fault) ∨
    ∃ positions s m changed, t.resolve path = .ok (positions, s) ∧ Shows m s ∧
      n.descend path = .ok m ∧ n.modify change path = .ok changed ∧
      Shows changed (t.write positions (flag s)) := by
  induction path generalizing n t with
  | nil => exact Or.inr ⟨[], t, n, change n, rfl, h, rfl, rfl, hchange n t h⟩
  | cons index path ih =>
    rcases element?_forall₂ h.children index with
      ⟨fault, hn, ht⟩ | ⟨i, m, s, hpn, hpt, hm, hs, hshows, hn, ht⟩
    · refine Or.inl ⟨fault, EagerTree.resolve_cons_error ht, ?_, ?_⟩
      · rw [Node.modify, hn]
        rfl
      · rw [Node.descend, hn]
        rfl
    · have hdescend : n.descend (index :: path) = m.descend path := by
        rw [Node.descend, hn]
        rfl
      have hmodify : n.modify change (index :: path) =
          (m.modify change path).map (n.withChild i) := by
        rw [Node.modify, hn, hpn]
        show (m.modify change path >>= fun changed => pure (n.withChild i changed)) = _
        cases m.modify change path <;> rfl
      rw [hdescend, hmodify, EagerTree.resolve_cons hpt ht]
      rcases ih hshows with
        ⟨fault, hresolve, hmod, hdesc⟩ | ⟨positions, s', m', changed, hresolve, hm', hdesc, hmod, hc⟩
      · rw [hresolve, hmod]
        exact Or.inl ⟨fault, rfl, rfl, hdesc⟩
      · rw [hresolve, hmod]
        refine Or.inr ⟨_, s', m', _, rfl, hm', hdesc, rfl, h.withChild fun s'' hs'' => ?_⟩
        rw [hs, Option.some.injEq] at hs''
        exact hs'' ▸ hc

/-- A step is answered by a node as by the whole tree, and both go on to show the same. -/
theorem Shows.act {n : Node} {t : EagerTree} (h : Shows n t) (step : TreeStep) :
    Shows (n.act step).1 (t.write [] (step.flagAfter t)) ∧ (n.act step).2 = t.answer step := by
  cases step with
  | render indent =>
    refine ⟨?_, congrArg TreeAnswer.lines (h.render?_eq indent)⟩
    rw [TreeStep.flagAfter, EagerTree.write_flags]
    exact h.rememberOpen
  | toggle =>
    have hflag : n.toggle = n.setExpanded (TreeStep.toggle.flagAfter t) ∨
        n.toggle = n ∧ TreeStep.toggle.flagAfter t = t.flags [] := by
      rw [Node.toggle, TreeStep.flagAfter, Node.isExpandable, h.value_eq, h.expanded_eq]
      split
      · exact Or.inl rfl
      · exact Or.inr ⟨rfl, rfl⟩
    rcases hflag with hset | ⟨hsame, hflag⟩
    · refine ⟨?_, ?_⟩
      · show Shows n.toggle _
        rw [hset]
        exact h.setExpanded _
      · show TreeAnswer.flag n.toggle.expanded = _
        rw [hset]
        rfl
    · refine ⟨?_, ?_⟩
      · show Shows n.toggle _
        rw [hsame, hflag, EagerTree.write_flags]
        exact h
      · show TreeAnswer.flag n.toggle.expanded = TreeAnswer.flag (TreeStep.toggle.flagAfter t)
        rw [hsame, hflag, h.expanded_eq]
  | set flag => exact ⟨h.setExpanded flag, rfl⟩
  | node =>
    refine ⟨?_, congrArg TreeAnswer.node h.fields_eq⟩
    rw [TreeStep.flagAfter, EagerTree.write_flags]
    exact h
  | children =>
    refine ⟨?_, ?_⟩
    · rw [TreeStep.flagAfter, EagerTree.write_flags]
      exact h.remember
    · refine congrArg TreeAnswer.nodes ?_
      rw [← List.forall₂_eq_eq_eq, List.forall₂_map_left_iff, List.forall₂_map_right_iff]
      exact h.children.imp fun _ _ hchild => hchild.fields_eq

/-- **One step.**  A request is answered alike, and both trees go on to show the same. -/
theorem Shows.perform {n : Node} {t : EagerTree} (h : Shows n t) (r : TreeRequest) :
    Shows (n.perform r).1 (t.perform r).1 ∧ (n.perform r).2 = (t.perform r).2 := by
  have hact : ∀ m s, Shows m s → Shows (m.act r.step).1 (s.write [] (r.step.flagAfter s)) :=
    fun m s hm => (hm.act r.step).1
  rcases h.modify hact r.path with
    ⟨fault, hresolve, hmod, hdesc⟩ | ⟨positions, s, m, changed, hresolve, hm, hdesc, hmod, hc⟩
  · rw [EagerTree.perform_of_error hresolve, Node.perform, hmod, hdesc]
    exact ⟨h, rfl⟩
  · rw [EagerTree.perform_of_resolve hresolve, Node.perform, hmod, hdesc]
    exact ⟨hc, congrArg Except.ok (hm.act r.step).2⟩

/-! ## Any number of steps -/

/-- **Any number of steps** are answered alike. -/
theorem Shows.session {n : Node} {t : EagerTree} (h : Shows n t) (requests : List TreeRequest) :
    Shows (session Node.perform n requests).1 (session EagerTree.perform t requests).1 ∧
      (session Node.perform n requests).2 = (session EagerTree.perform t requests).2 := by
  induction requests generalizing n t with
  | nil => exact ⟨h, rfl⟩
  | cons r rest ih =>
    obtain ⟨hnext, hanswer⟩ := h.perform r
    obtain ⟨hlast, hanswers⟩ := ih hnext
    exact ⟨hlast, congrArg₂ List.cons hanswer hanswers⟩

/-- **A tree made as needed is the whole tree.**  Any requests to a new tree are answered as if the
whole tree with its flags had been there from the start.  After any of them, steps at two different
places that have to do with these alone can be done in either order; closing and opening a node
again, or the other way round, is not seen by any request after; and whatever is done twice at one
place, every other place is told of as before. -/
theorem session_fresh (value : Value) (label : Option Text) (depth : Int) :
    (∀ requests, (session Node.perform (.fresh value label depth) requests).2 =
      (session EagerTree.perform (.start value label depth) requests).2) ∧
    ∀ before after : List TreeRequest,
      let n := (session Node.perform (.fresh value label depth) before).1
      let t := EagerTree.start value label depth
      (∀ r r', r.step.isLocal → r'.step.isLocal → t.positions r.path ≠ t.positions r'.path →
        ∃ a a' rest, (session Node.perform n (r :: r' :: after)).2 = a :: a' :: rest ∧
          (session Node.perform n (r' :: r :: after)).2 = a' :: a :: rest) ∧
      (∀ path, ∃ a a', (session Node.perform n (⟨path, .toggle⟩ :: ⟨path, .toggle⟩ :: after)).2 =
        a :: a' :: (session Node.perform n after).2) ∧
      ∀ path path' step step', t.positions path ≠ t.positions path' →
        ∃ a a' told,
          (session Node.perform n [⟨path, step⟩, ⟨path, step'⟩, ⟨path', .node⟩]).2 = [a, a', told] ∧
            (session Node.perform n [⟨path', .node⟩]).2 = [told] := by
  have hfresh := shows_fresh value label depth
  refine ⟨fun requests => (hfresh.session requests).2, fun before after => ?_⟩
  intro n t
  obtain ⟨u, hshows, hplaces⟩ : ∃ u, Shows n u ∧ ∀ path, u.positions path = t.positions path := by
    obtain ⟨flags, hflags⟩ := EagerTree.exists_flags_session t before
    exact ⟨{ t with flags := flags }, hflags ▸ (hfresh.session before).1, t.positions_flags flags⟩
  have hanswers := fun requests => (hshows.session requests).2
  refine ⟨fun r r' hlocal hlocal' hne => ?_, fun path => ?_, fun path path' step step' hne => ?_⟩
  · rw [← hplaces, ← hplaces] at hne
    have hleft := hanswers (r :: r' :: after)
    have hright := hanswers (r' :: r :: after)
    rw [EagerTree.session_cons_cons, EagerTree.answer_perform hlocal' hne] at hleft
    rw [EagerTree.session_cons_cons, EagerTree.answer_perform hlocal hne.symm,
      ← EagerTree.perform_comm hlocal hlocal' hne] at hright
    exact ⟨_, _, _, hleft, hright⟩
  · have htwice := hanswers (⟨path, .toggle⟩ :: ⟨path, .toggle⟩ :: after)
    rw [EagerTree.session_cons_cons, EagerTree.perform_toggle_toggle, ← hanswers after] at htwice
    exact ⟨_, _, htwice⟩
  · rw [← hplaces, ← hplaces] at hne
    have hlater : (session Node.perform n [⟨path, step⟩, ⟨path, step'⟩, ⟨path', .node⟩]).2 =
        [_, _, (((u.perform ⟨path, step⟩).1.perform ⟨path, step'⟩).1.perform ⟨path', .node⟩).2] :=
      hanswers _
    have hne' : (u.perform ⟨path, step⟩).1.positions path ≠
        (u.perform ⟨path, step⟩).1.positions path' := by
      obtain ⟨flags, hflags⟩ := EagerTree.exists_flags u ⟨path, step⟩
      rw [hflags, u.positions_flags flags path, u.positions_flags flags path']
      exact hne
    rw [EagerTree.answer_perform rfl hne', EagerTree.answer_perform rfl hne] at hlater
    exact ⟨_, _, _, hlater, hanswers [⟨path', .node⟩]⟩

end StructuredText.Json
