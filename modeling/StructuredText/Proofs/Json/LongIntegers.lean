/-
# Integers with too many digits

An integer with more digits than a limit has no text, and neither has what shows one.  Cells of
tables and lines of trees fail on such integers and on nothing else.

* `Value.Overlong` are these integers; no well-formed value holds one;
* `mapM_eq_ite`: a list of texts fails if one of them does;
* `cellText_eq` and `Node.line_eq`: what cells and lines show of every other value;
* `Node.ListsOverlong`: which trees have no lines, and `Node.render_eq` the lines of the others;
* `Node.render_of_wellFormed`: the tree of a well-formed document has all its lines.
-/
import Mathlib
import StructuredText.Json.Table
import StructuredText.Json.Tree
import StructuredText.Proofs.Json.Parts

namespace StructuredText.Json

/-! ## Which integers -/

/-- An integer with more digits than are written. -/
def Value.Overlong : Value → Prop
  | .int n => maxIntegerDigits < (Nat.digits 10 n.natAbs).length
  | _ => False

theorem overlong_int_iff (n : ℤ) : (Value.int n).Overlong ↔ overlong n :=
  (inexpressible_int_iff n).trans (overlong_iff n).symm

instance : DecidablePred Value.Overlong
  | .int n => decidable_of_iff _ (overlong_int_iff n).symm
  | .null | .bool _ | .float _ | .string _ | .array _ | .object _ => .isFalse id

theorem Value.Overlong.inexpressible {v : Value} (h : v.Overlong) : v.Inexpressible := by
  cases v with
  | int n => exact h
  | null | bool | float | string | array | object => exact h.elim

theorem self_mem_parts (v : Value) : v ∈ v.parts := by
  cases v <;> exact List.mem_cons_self

/-- A well-formed value holds no such integer. -/
theorem not_overlong_of_wellFormed {v part : Value} (hv : v.WellFormed) (hpart : part ∈ v.parts) :
    ¬ part.Overlong :=
  fun h => unwritable?_eq_none_iff.mp (unwritable?_of_wellFormed hv) part hpart h.inexpressible

/-- The least integer with a digit too many. -/
def tooLong : Value := .int (10 ^ maxIntegerDigits)

theorem overlong_tooLong : tooLong.Overlong := by
  have hten : (10 : ℤ).natAbs = 10 := rfl
  rw [tooLong, overlong_int_iff, overlong_iff, Int.natAbs_pow, hten]

/-! ## Lists of texts -/

/-- **A list of texts** fails just if one of them does. -/
theorem mapM_eq_ite {α β ε : Type} {f : α → Except ε β} {g : α → β} {p : α → Prop}
    [DecidablePred p] {e : ε} (h : ∀ x, f x = if p x then .error e else .ok (g x)) (xs : List α) :
    xs.mapM f = if ∃ x ∈ xs, p x then .error e else .ok (xs.map g) := by
  induction xs with
  | nil => simp [pure, Except.pure]
  | cons x xs ih =>
    rw [List.mapM_cons, h, ih]
    simp only [List.exists_mem_cons_iff, List.map_cons]
    by_cases hx : p x
    · rw [if_pos hx, if_pos (Or.inl hx)]
      rfl
    · simp only [hx, if_false, false_or]
      split <;> rfl

theorem mapM_eq_ok {α β ε : Type} {f : α → Except ε β} {g : α → β} {xs : List α}
    (h : ∀ x ∈ xs, f x = .ok (g x)) : xs.mapM f = .ok (xs.map g) := by
  induction xs with
  | nil => rfl
  | cons x xs ih =>
    obtain ⟨hx, hxs⟩ := List.forall_mem_cons.mp h
    rw [List.mapM_cons, hx, ih hxs]
    rfl

/-! ## Cells -/

/-- What a cell shows of a value, if it is no integer with too many digits. -/
def Value.inCell : Value → Text
  | .null => []
  | .bool b => if b then "true" else "false"
  | .int n => Text.ofInt n
  | .float x => x.toText
  | .string s => s
  | .array _ => arrayHint
  | .object _ => objectHint

theorem integerText_eq (n : ℤ) :
    integerText n =
      if (Value.int n).Overlong then .error .tooManyDigits else .ok (Text.ofInt n) := by
  simp only [integerText, overlong_int_iff]

theorem cellText_eq (v : Value) :
    cellText v = if v.Overlong then .error .tooManyDigits else .ok v.inCell := by
  cases v with
  | int n => exact integerText_eq n
  | null | bool | float | string | array | object => rfl

/-! ## Nodes -/

namespace Node

/-- What stands inside of a value directly inside stands inside. -/
theorem mem_parts_of_mem_entries {v part : Value} {e : Text × Value} (he : e ∈ entries v)
    (hpart : part ∈ e.2.parts) : part ∈ v.parts := by
  cases v with
  | array items =>
    obtain ⟨i, hi, rfl⟩ := List.mem_mapIdx.mp he
    exact mem_parts_array.mpr (Or.inr ⟨_, List.getElem_mem hi, hpart⟩)
  | object members => exact mem_parts_object.mpr (Or.inr ⟨e, he, hpart⟩)
  | null | bool | int | float | string => exact absurd he List.not_mem_nil

/-- The nodes of a tree show parts of the document. -/
theorem value_mem_parts_of_mem_visible {n m : Node} (h : m ∈ n.visible) :
    m.value ∈ n.value.parts := by
  induction hsize : sizeOf n.value using Nat.strong_induction_on generalizing n with
  | h size ih =>
    rw [visible, List.mem_cons] at h
    rcases h with rfl | h
    · exact self_mem_parts m.value
    · split at h
      · obtain ⟨⟨child, hchild⟩, -, hm⟩ := List.mem_flatMap.mp h
        obtain ⟨e, he, hvalue⟩ := exists_entry_of_mem_children hchild
        have hsmaller := sizeOf_value_of_mem_children hchild
        apply mem_parts_of_mem_entries he
        rw [← hvalue]
        exact ih _ (hsize ▸ hsmaller) hm rfl
      · exact absurd h List.not_mem_nil

/-- What a node shows of its value, if it is no integer with too many digits. -/
def told (n : Node) : Text :=
  match n.value with
  | .null => "null"
  | .bool b => if b then "true" else "false"
  | .int i => Text.ofInt i
  | .float x => x.toText
  | .string s => quote s
  | .array [] => "[]"
  | .array items => Text.concat ["Array [", Text.ofNat items.length, "]"]
  | .object [] => "\x7b\x7d"
  | .object members => Text.concat ["Object \x7b", Text.ofNat members.length, "\x7d"]

/-- The line of a node with that. -/
def toldLine (indent : Text) (n : Node) : Text := n.lineOf indent n.told

theorem summary_eq (n : Node) :
    n.summary = if n.value.Overlong then .error .tooManyDigits else .ok n.told := by
  obtain ⟨v, label, depth, memory⟩ := n
  cases v with
  | int i => exact integerText_eq i
  | null | bool | float | string => rfl
  | array items => cases items <;> rfl
  | object members => cases members <;> rfl

theorem line_eq (indent : Text) (n : Node) :
    n.line indent = if n.value.Overlong then .error .tooManyDigits else .ok (n.toldLine indent) := by
  rw [line, summary_eq]
  split <;> rfl

/-- Whether a visible node of a tree is an integer with too many digits. -/
def ListsOverlong (n : Node) : Prop := ∃ m ∈ n.visible, m.value.Overlong

instance (n : Node) : Decidable n.ListsOverlong :=
  inferInstanceAs (Decidable (∃ m ∈ n.visible, m.value.Overlong))

/-- **The lines of a tree** are there unless it lists such an integer. -/
theorem render_eq (indent : Text) (n : Node) :
    n.render indent =
      if n.ListsOverlong then .error .tooManyDigits else .ok (n.visible.map (toldLine indent)) :=
  mapM_eq_ite (line_eq indent) n.visible

theorem not_listsOverlong_of_parts {n : Node} (h : ∀ part ∈ n.value.parts, ¬ part.Overlong) :
    ¬ n.ListsOverlong := by
  rintro ⟨m, hm, hlong⟩
  exact h _ (value_mem_parts_of_mem_visible hm) hlong

/-- The tree of a well-formed value has all its lines. -/
theorem render_of_wellFormed {n : Node} (hn : n.value.WellFormed) (indent : Text) :
    n.render indent = .ok (n.visible.map (toldLine indent)) := by
  rw [render_eq, if_neg]
  exact not_listsOverlong_of_parts fun _ => not_overlong_of_wellFormed hn

end Node

end StructuredText.Json
