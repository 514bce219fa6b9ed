/-
# The whole tree of a document

A document seen as a tree that stands there from the start, with one flag for each place.  It is
what trees made as needed are measured by.

* `EagerTree.start` is a new tree, `EagerTree.perform` answers a request;
* `EagerTree.perform_of_resolve`: a request sets at most the flag of the place it goes to;
* `EagerTree.perform_comm`: requests that have to do with different places alone commute.
-/
import Mathlib
import StructuredText.Proofs.Json.TreeRequests

namespace StructuredText.Json

/-! ## The whole tree -/

/-- A document seen as a tree that is there from the start, with a flag for each place. -/
structure EagerTree where
  value : Value
  label : Option Text
  depth : Int
  /-- The flag of the place that the positions lead to. -/
  flags : List ℕ → Bool

namespace EagerTree

/-- The trees one level down. -/
def children (t : EagerTree) : List EagerTree :=
  (Node.entries t.value).mapIdx fun i entry =>
    ⟨entry.2, some entry.1, t.depth + 1, fun path => t.flags (i :: path)⟩

/-- The tree at the place that the positions lead to. -/
def at? : List ℕ → EagerTree → Option EagerTree
  | [], t => some t
  | i :: path, t => t.children[i]?.bind (at? path)

/-- The tree in which the containers above the second level are open. -/
def start (value : Value) (label : Option Text) (depth : Int) : EagerTree where
  value := value
  label := label
  depth := depth
  flags path :=
    match at? path ⟨value, label, depth, fun _ => false⟩ with
    | some t => t.depth < 2 && t.value.isExpandable
    | none => false

/-- The root alone. -/
def node (t : EagerTree) : Node := ⟨t.value, t.label, t.depth, .mk (t.flags []) none⟩

/-- The tree with one flag set. -/
def write (path : List ℕ) (flag : Bool) (t : EagerTree) : EagerTree :=
  { t with flags := Function.update t.flags path flag }

/-- The positions that a path of indices stands for, with the tree there. -/
def resolve : List Int → EagerTree → Except IndexFault (List ℕ × EagerTree)
  | [], t => .ok ([], t)
  | index :: path, t => do
    let child ← element? t.children index
    let (positions, found) ← resolve path child
    return ((position? t.children.length index).getD 0 :: positions, found)

/-- The positions that a path of indices stands for. -/
def positions (t : EagerTree) (path : List Int) : Except IndexFault (List ℕ) :=
  (t.resolve path).map Prod.fst

/-- The values of the children stand inside the value of the tree. -/
theorem sizeOf_value_of_mem_children {t child : EagerTree} (h : child ∈ t.children) :
    sizeOf child.value < sizeOf t.value := by
  obtain ⟨i, hi, rfl⟩ := List.mem_mapIdx.mp h
  have hmem : Node.fresh (Node.entries t.value)[i].2 (some (Node.entries t.value)[i].1)
      (t.depth + 1) ∈ (Node.fresh t.value t.label t.depth).children :=
    List.mem_map.mpr ⟨_, List.getElem_mem hi, rfl⟩
  exact Node.sizeOf_value_of_mem_children hmem

/-- The roots of the open part from top to bottom: below the root that of each child, if the root
is a container with something inside and its flag says that it is open. -/
def visible (t : EagerTree) : List Node :=
  t.node ::
    if t.flags [] && t.value.isExpandable then
      t.children.attach.flatMap fun ⟨child, _⟩ => child.visible
    else []
termination_by sizeOf t.value
decreasing_by exact sizeOf_value_of_mem_children ‹_›

/-- The lines of the open part: the first node that has none is at fault, if there is one. -/
def render? (indent : Text) (t : EagerTree) : Except ListingFault (List Text) :=
  t.visible.mapM (Node.line? indent)

/-- The tree after a request, with its answer. -/
def perform (t : EagerTree) (r : TreeRequest) : EagerTree × Except IndexFault TreeAnswer :=
  match t.resolve r.path with
  | .error fault => (t, .error fault)
  | .ok (path, found) =>
    match r.step with
    | .render indent => (t, .ok (.lines (found.render? indent)))
    | .toggle =>
      let flag := if found.value.isExpandable then !t.flags path else t.flags path
      (t.write path flag, .ok (.flag flag))
    | .set flag => (t.write path flag, .ok (.flag flag))
    | .node => (t, .ok (.node found.node.fields))
    | .children => (t, .ok (.nodes (found.children.map fun child => child.node.fields)))

/-- The open part of the whole tree is the root, then the open parts below it. -/
theorem visible_eq (t : EagerTree) :
    t.visible =
      t.node :: if t.flags [] && t.value.isExpandable then t.children.flatMap visible else [] := by
  rw [visible]
  split
  · rw [List.flatMap_subtype (g := visible) (fun _ _ => rfl), List.unattach_attach]
  · rfl

/-- What is made of the values, labels and depths of the children is made of what stands inside. -/
theorem map_children {α : Type} (f : Value → Option Text → Int → α) (t : EagerTree) :
    (t.children.map fun s => f s.value s.label s.depth) =
      (Node.entries t.value).map fun e => f e.2 (some e.1) (t.depth + 1) :=
  List.ext_getElem (by simp [children]) fun i _ _ => by simp [children]

/-! ## Places and flags -/

/-- Flags do not matter to which children there are. -/
theorem getElem?_children_flags (t : EagerTree) (flags : List ℕ → Bool) (i : ℕ) :
    ({ t with flags := flags } : EagerTree).children[i]? =
      t.children[i]?.map fun s => { s with flags := fun rest => flags (i :: rest) } := by
  simp [children, List.getElem?_mapIdx, Option.map_map, Function.comp_def]

/-- The flags of a child are those further down. -/
theorem flags_of_getElem? {t child : EagerTree} {i : ℕ} (h : t.children[i]? = some child) :
    child.flags = fun rest => t.flags (i :: rest) := by
  have hflags := getElem?_children_flags t t.flags i
  rw [h, Option.map_some] at hflags
  exact congrArg flags (Option.some.inj hflags)

/-- Flags do not matter to which places there are. -/
theorem at?_flags (path : List ℕ) (t : EagerTree) (flags : List ℕ → Bool) :
    at? path { t with flags := flags } =
      (at? path t).map fun s => { s with flags := fun rest => flags (path ++ rest) } := by
  induction path generalizing t flags with
  | nil => rfl
  | cons i path ih =>
    rw [at?, at?, getElem?_children_flags]
    cases t.children[i]? with
    | none => rfl
    | some child =>
      rw [Option.map_some, Option.bind_some, ih, Option.bind_some]
      rfl

/-- The flags of a new tree. -/
theorem flags_start {value : Value} {label : Option Text} {depth : Int} {path : List ℕ}
    {s : EagerTree} (h : at? path (start value label depth) = some s) :
    (start value label depth).flags path = (s.depth < 2 && s.value.isExpandable) := by
  rw [start, at?_flags path ⟨value, label, depth, fun _ => false⟩, Option.map_eq_some_iff] at h
  obtain ⟨s', hs', rfl⟩ := h
  simp only [start, hs']

end EagerTree

/-! ## Changing a flag -/

/-- The element of an index in two lists that go together: either both have one, and these go
together, or both have none. -/
theorem element?_forall₂ {α β : Type} {R : α → β → Prop} {xs : List α} {ys : List β}
    (h : List.Forall₂ R xs ys) (index : Int) :
    (∃ fault, element? xs index = .error fault ∧ element? ys index = .error fault) ∨
      ∃ i x y, position? xs.length index = some i ∧ position? ys.length index = some i ∧
        xs[i]? = some x ∧ ys[i]? = some y ∧ R x y ∧
        element? xs index = .ok x ∧ element? ys index = .ok y := by
  have hlength := h.length_eq
  unfold element?
  split
  · cases hposition : position? xs.length index with
    | none => exact Or.inl ⟨.outOfRange, rfl, by rw [← hlength, hposition]; rfl⟩
    | some i =>
      rw [← hlength, hposition]
      by_cases hi : i < xs.length
      · have hx := List.getElem?_eq_getElem hi
        have hy := List.getElem?_eq_getElem (hlength ▸ hi)
        refine Or.inr ⟨i, _, _, rfl, rfl, hx, hy, h.get hi (hlength ▸ hi), ?_, ?_⟩
        · rw [Option.bind_some, hx]
        · rw [Option.bind_some, hy]
      · have hx := List.getElem?_eq_none (not_lt.mp hi)
        have hy := List.getElem?_eq_none (hlength ▸ not_lt.mp hi)
        exact Or.inl ⟨.outOfRange, by rw [Option.bind_some, hx], by rw [Option.bind_some, hy]⟩
  · exact Or.inl ⟨.noIndex, rfl, rfl⟩

namespace EagerTree

variable {t s : EagerTree} {path : List Int} {positions : List ℕ}

@[simp] theorem children_write_nil (flag : Bool) (t : EagerTree) :
    (t.write [] flag).children = t.children := by
  simp [children, write]

/-- Setting a flag further down sets it in the child on the way there. -/
theorem children_write_cons (i : ℕ) (path : List ℕ) (flag : Bool) (t : EagerTree) :
    (t.write (i :: path) flag).children = t.children.modify i (write path flag) := by
  refine List.ext_getElem (by simp [children, write]) fun j hj hj' => ?_
  rw [List.getElem_modify]
  split
  · next heq =>
    subst heq
    simp only [children, write, List.getElem_mapIdx, mk.injEq, true_and]
    funext rest
    by_cases hrest : rest = path
    · rw [hrest, Function.update_self, Function.update_self]
    · rw [Function.update_of_ne hrest, Function.update_of_ne (by simp [hrest])]
  · next hne =>
    simp only [children, write, List.getElem_mapIdx, mk.injEq, true_and]
    funext rest
    rw [Function.update_of_ne]
    intro heq
    exact hne (List.cons.inj heq).1.symm

/-- A path leads to where the rest of it leads from the child that its first index names. -/
theorem resolve_cons {i : ℕ} {index : Int} {child : EagerTree}
    (hposition : position? t.children.length index = some i)
    (hchild : element? t.children index = .ok child) :
    t.resolve (index :: path) = (child.resolve path).map fun r => (i :: r.1, r.2) := by
  rw [resolve, hchild, hposition]
  show (child.resolve path >>= fun r => pure (i :: r.1, r.2)) = _
  cases child.resolve path <;> rfl

/-- A path leads nowhere if its first index names no child. -/
theorem resolve_cons_error {index : Int} {fault : IndexFault}
    (h : element? t.children index = .error fault) :
    t.resolve (index :: path) = .error fault := by
  rw [resolve, h]
  rfl

/-- Flags do not matter to where a path leads. -/
theorem resolve_flags (path : List Int) (t : EagerTree) (flags : List ℕ → Bool) :
    resolve path { t with flags := flags } =
      (t.resolve path).map fun r => (r.1, { r.2 with flags := fun rest => flags (r.1 ++ rest) }) := by
  induction path generalizing t flags with
  | nil => rfl
  | cons index path ih =>
    have hall : List.Forall₂ (fun _ _ => True) ({ t with flags := flags } : EagerTree).children
        t.children :=
      List.forall₂_iff_get.mpr ⟨by simp [children], fun _ _ _ => trivial⟩
    rcases element?_forall₂ hall index with
      ⟨fault, hleft, hright⟩ | ⟨i, child', child, hp', hp, hget', hget, -, hleft, hright⟩
    · rw [resolve_cons_error hleft, resolve_cons_error hright]
      rfl
    · rw [getElem?_children_flags, hget, Option.map_some, Option.some.injEq] at hget'
      rw [resolve_cons hp' hleft, resolve_cons hp hright, ← hget', ih]
      cases child.resolve path <;> rfl

/-- What a path leads to is the tree at the positions it stands for. -/
theorem flags_of_resolve (h : t.resolve path = .ok (positions, s)) :
    s.flags = fun rest => t.flags (positions ++ rest) := by
  have hflags := resolve_flags path t t.flags
  rw [h, Except.map, Except.ok.injEq, Prod.mk.injEq] at hflags
  exact congrArg flags hflags.2

/-- The flag at the end of a path. -/
theorem flag_of_resolve (h : t.resolve path = .ok (positions, s)) :
    s.flags [] = t.flags positions := by
  rw [flags_of_resolve h]
  exact congrArg t.flags (List.append_nil positions)

end EagerTree

/-! ## One request -/

/-- The flag of a node after a step. -/
def TreeStep.flagAfter (t : EagerTree) : TreeStep → Bool
  | toggle => if t.value.isExpandable then !t.flags [] else t.flags []
  | set flag => flag
  | render _ | node | children => t.flags []

/-- What the whole tree answers at a place. -/
def EagerTree.answer (t : EagerTree) : TreeStep → TreeAnswer
  | .render indent => .lines (t.render? indent)
  | .toggle => .flag (TreeStep.toggle.flagAfter t)
  | .set flag => .flag flag
  | .node => .node t.node.fields
  | .children => .nodes (t.children.map fun child => child.node.fields)

@[simp] theorem EagerTree.write_flags (t : EagerTree) (path : List ℕ) :
    t.write path (t.flags path) = t := by
  rw [write, Function.update_eq_self]

/-- What the whole tree does with a request. -/
theorem EagerTree.perform_of_resolve {t s : EagerTree} {r : TreeRequest} {positions : List ℕ}
    (h : t.resolve r.path = .ok (positions, s)) :
    t.perform r = (t.write positions (r.step.flagAfter s), .ok (s.answer r.step)) := by
  have hflag := flag_of_resolve h
  rw [perform, h]
  obtain ⟨path, step⟩ := r
  cases step <;> simp [TreeStep.flagAfter, answer, hflag]

/-- A request to a place that is not there is refused. -/
theorem EagerTree.perform_of_error {t : EagerTree} {r : TreeRequest} {fault : IndexFault}
    (h : t.resolve r.path = .error fault) : t.perform r = (t, .error fault) := by
  rw [perform, h]

/-! ## Steps at different places -/

namespace EagerTree

variable {t s : EagerTree} {path : List Int}

/-- Requests do not change where a path leads. -/
theorem positions_flags (t : EagerTree) (flags : List ℕ → Bool) (path : List Int) :
    ({ t with flags := flags } : EagerTree).positions path = t.positions path := by
  rw [positions, positions, resolve_flags]
  cases t.resolve path <;> rfl

/-- Setting a flag does not matter to a step that has to do with another place alone. -/
theorem perform_write {place : List ℕ} {r : TreeRequest} (hlocal : r.step.isLocal)
    (hplace : t.positions r.path ≠ .ok place) (flag : Bool) :
    (t.write place flag).perform r = ((t.perform r).1.write place flag, (t.perform r).2) := by
  have hresolve : (t.write place flag).resolve r.path = (t.resolve r.path).map _ :=
    resolve_flags r.path t (Function.update t.flags place flag)
  cases hfound : t.resolve r.path with
  | error fault =>
    rw [hfound] at hresolve
    rw [perform_of_error hfound, perform_of_error hresolve]
  | ok found =>
    obtain ⟨place', s⟩ := found
    have hne : place' ≠ place := by
      intro heq
      rw [positions, hfound, heq] at hplace
      exact hplace rfl
    rw [hfound] at hresolve
    have hflag : Function.update t.flags place flag (place' ++ []) = s.flags [] := by
      rw [List.append_nil, Function.update_of_ne hne, flag_of_resolve hfound]
    rw [perform_of_resolve hfound, perform_of_resolve hresolve]
    refine Prod.ext ?_ (congrArg Except.ok ?_)
    · have hafter : r.step.flagAfter
          { s with flags := fun rest => Function.update t.flags place flag (place' ++ rest) } =
            r.step.flagAfter s := by
        cases hstep : r.step <;> simp only [TreeStep.flagAfter, hflag]
      rw [hafter]
      simp only [write, mk.injEq, true_and]
      exact Function.update_comm hne.symm _ _ _
    · cases hstep : r.step with
      | render indent => rw [hstep] at hlocal; exact absurd hlocal (by simp [TreeStep.isLocal])
      | children => rw [hstep] at hlocal; exact absurd hlocal (by simp [TreeStep.isLocal])
      | toggle => simp only [answer, TreeStep.flagAfter, hflag]
      | set flag => rfl
      | node => simp only [answer, node, hflag]

/-- Whatever is asked, the tree stays but for its flags. -/
theorem exists_flags (t : EagerTree) (r : TreeRequest) :
    ∃ flags, (t.perform r).1 = { t with flags := flags } := by
  cases hfound : t.resolve r.path with
  | error fault => exact ⟨t.flags, by rw [perform_of_error hfound]⟩
  | ok found => exact ⟨_, by rw [perform_of_resolve hfound, write]⟩

/-- A request goes to no place, whatever the flags are, or sets the flag of the place that it goes
to. -/
theorem refused_or_exists_write (t : EagerTree) (r : TreeRequest) :
    (∀ flags, (({ t with flags := flags } : EagerTree).perform r).1 = { t with flags := flags }) ∨
      ∃ place flag, t.positions r.path = .ok place ∧ (t.perform r).1 = t.write place flag := by
  cases hfound : t.resolve r.path with
  | error fault =>
    refine Or.inl fun flags => ?_
    have hrefused : ({ t with flags := flags } : EagerTree).resolve r.path = .error fault := by
      rw [resolve_flags, hfound]
      rfl
    rw [perform_of_error hrefused]
  | ok found =>
    refine Or.inr ⟨found.1, r.step.flagAfter found.2, ?_, by rw [perform_of_resolve hfound]⟩
    rw [positions, hfound]
    rfl

/-- A step that has to do with one place alone is answered alike before and after a request to
another place. -/
theorem answer_perform {r r' : TreeRequest} (hlocal : r'.step.isLocal)
    (hne : t.positions r.path ≠ t.positions r'.path) :
    ((t.perform r).1.perform r').2 = (t.perform r').2 := by
  rcases refused_or_exists_write t r with hsame | ⟨place, flag, hplace, hwrite⟩
  · rw [show (t.perform r).1 = t from hsame t.flags]
  · rw [hwrite, perform_write hlocal (hplace ▸ hne.symm)]

/-- Steps that have to do with different places alone commute. -/
theorem perform_comm {r r' : TreeRequest} (hlocal : r.step.isLocal) (hlocal' : r'.step.isLocal)
    (hne : t.positions r.path ≠ t.positions r'.path) :
    ((t.perform r).1.perform r').1 = ((t.perform r').1.perform r).1 := by
  rcases refused_or_exists_write t r with hsame | ⟨place, flag, hplace, hwrite⟩
  · obtain ⟨flags, hflags⟩ := exists_flags t r'
    rw [show (t.perform r).1 = t from hsame t.flags, hflags, hsame flags]
  · rcases refused_or_exists_write t r' with hsame | ⟨place', flag', hplace', hwrite'⟩
    · obtain ⟨flags, hflags⟩ := exists_flags t r
      rw [show (t.perform r').1 = t from hsame t.flags, hflags, hsame flags]
    · rw [hwrite, hwrite', perform_write hlocal' (hplace ▸ hne.symm), hwrite',
        perform_write hlocal (hplace' ▸ hne), hwrite]
      have hplaces : place ≠ place' := by
        rintro rfl
        exact hne (hplace.trans hplace'.symm)
      simp only [write, mk.injEq, true_and]
      exact Function.update_comm hplaces.symm _ _ _

/-- A node that is opened and closed, or closed and opened, is as it was. -/
theorem perform_toggle_toggle (t : EagerTree) (path : List Int) :
    ((t.perform ⟨path, .toggle⟩).1.perform ⟨path, .toggle⟩).1 = t := by
  cases hfound : t.resolve path with
  | error fault =>
    have hrefused : t.perform ⟨path, .toggle⟩ = (t, .error fault) := perform_of_error hfound
    rw [hrefused, hrefused]
  | ok found =>
    obtain ⟨place, s⟩ := found
    have hflag := flag_of_resolve hfound
    rw [perform_of_resolve (r := ⟨path, .toggle⟩) hfound]
    generalize hfirst : TreeStep.toggle.flagAfter s = first
    have hresolve : (t.write place first).resolve path = (t.resolve path).map _ :=
      resolve_flags path t (Function.update t.flags place first)
    rw [hfound] at hresolve
    rw [perform_of_resolve (r := ⟨path, .toggle⟩) hresolve]
    have hsecond : TreeStep.toggle.flagAfter
        { s with flags := fun rest => Function.update t.flags place first (place ++ rest) } =
          t.flags place := by
      rw [← hfirst, ← hflag]
      simp only [TreeStep.flagAfter, List.append_nil, Function.update_self]
      split
      · exact Bool.not_not _
      · rfl
    rw [hsecond]
    simp [write, Function.update_idem]

/-- Requests keep everything but the flags. -/
theorem exists_flags_session (t : EagerTree) (requests : List TreeRequest) :
    ∃ flags, (session perform t requests).1 = { t with flags := flags } := by
  induction requests generalizing t with
  | nil => exact ⟨t.flags, rfl⟩
  | cons r rest ih =>
    obtain ⟨flags, hflags⟩ := exists_flags t r
    obtain ⟨flags', hrest⟩ := ih { t with flags := flags }
    refine ⟨flags', ?_⟩
    show (session perform (t.perform r).1 rest).1 = _
    rw [hflags, hrest]

/-- The answers to two requests and to all that follow. -/
theorem session_cons_cons (t : EagerTree) (r r' : TreeRequest) (rest : List TreeRequest) :
    (session perform t (r :: r' :: rest)).2 =
      (t.perform r).2 :: ((t.perform r).1.perform r').2 ::
        (session perform ((t.perform r).1.perform r').1 rest).2 := rfl

end EagerTree

end StructuredText.Json
