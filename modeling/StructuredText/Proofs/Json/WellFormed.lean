/-
# Values that can be written

A value can be written if its integers have no more digits than allowed and its doubles are finite.
An object of the reader moreover has no name twice.

* `Value.WellFormed` is all of this, at every depth;
* `Value.strings` are the strings and names inside a value;
* `unwritable?_of_wellFormed`: such a value is written.
-/
import Mathlib
import StructuredText.Json.Printer
import StructuredText.Json.Value
import StructuredText.Proofs.Json.Grammar

namespace StructuredText.Json

/-- What holds of a value if it holds of every value that directly holds it only. -/
theorem Value.induction {motive : Value → Prop} (null : motive null) (bool : ∀ b, motive (bool b))
    (int : ∀ n, motive (int n)) (float : ∀ x, motive (float x)) (string : ∀ s, motive (string s))
    (array : ∀ items, (∀ v ∈ items, motive v) → motive (array items))
    (object : ∀ members, (∀ m ∈ members, motive m.2) → motive (object members))
    (v : Value) : motive v :=
  match v with
  | .null => null
  | .bool b => bool b
  | .int n => int n
  | .float x => float x
  | .string s => string s
  | .array items =>
    array items fun v _ => Value.induction null bool int float string array object v
  | .object members =>
    object members fun m _ => Value.induction null bool int float string array object m.2
termination_by sizeOf v
decreasing_by
  · simp_wf
    have := List.sizeOf_lt_of_mem ‹_ ∈ _›
    omega
  · simp_wf
    have := List.sizeOf_lt_of_mem ‹_ ∈ _›
    have : sizeOf m = 1 + sizeOf m.1 + sizeOf m.2 := by cases m; rfl
    omega

/-! ## Well-formed values -/

mutual

/-- Integers have no more digits than allowed, doubles are finite, and no object repeats a name. -/
def Value.WellFormed : Value → Prop
  | .int n => n.natAbs < 10 ^ maxIntegerDigits
  | .float x => x.isFinite
  | .array items => WellFormedItems items
  | .object members => (namesOf members).Nodup ∧ WellFormedMembers members
  | _ => True
termination_by structural v => v

/-- Every item is well formed. -/
def WellFormedItems : List Value → Prop
  | [] => True
  | v :: rest => v.WellFormed ∧ WellFormedItems rest
termination_by structural items => items

/-- The value of every member is well formed. -/
def WellFormedMembers : List Member → Prop
  | [] => True
  | (_, v) :: rest => v.WellFormed ∧ WellFormedMembers rest
termination_by structural members => members

end

mutual

/-- The strings and names inside a value. -/
def Value.strings : Value → List Text
  | .string s => [s]
  | .array items => stringsOfItems items
  | .object members => stringsOfMembers members
  | _ => []
termination_by structural v => v

/-- The strings and names inside items. -/
def stringsOfItems : List Value → List Text
  | [] => []
  | v :: rest => v.strings ++ stringsOfItems rest
termination_by structural items => items

/-- The strings and names inside members, their own names among them. -/
def stringsOfMembers : List Member → List Text
  | [] => []
  | (key, v) :: rest => key :: (v.strings ++ stringsOfMembers rest)
termination_by structural members => members

end

theorem wellFormed_of_mem {items : List Value} (h : WellFormedItems items) {v : Value}
    (hv : v ∈ items) : v.WellFormed := by
  induction items with
  | nil => exact absurd hv (by simp)
  | cons v' items ih =>
    rcases List.mem_cons.mp hv with rfl | hv
    · exact h.1
    · exact ih h.2 hv

theorem wellFormed_of_mem_members {members : List Member} (h : WellFormedMembers members)
    {m : Member} (hm : m ∈ members) : m.2.WellFormed := by
  induction members with
  | nil => exact absurd hm (by simp)
  | cons m' members ih =>
    rcases List.mem_cons.mp hm with rfl | hm
    · exact h.1
    · exact ih h.2 hm

theorem overlong_iff (n : ℤ) : overlong n ↔ 10 ^ maxIntegerDigits ≤ n.natAbs := by
  rw [overlong, decide_eq_true_eq, Nat.pow_eq]

/-- **A well-formed value can be written.** -/
theorem unwritable?_of_wellFormed {v : Value} (h : v.WellFormed) : v.unwritable? = none := by
  induction v using Value.induction with
  | null | bool | string => rfl
  | int n =>
    rw [Value.WellFormed] at h
    rw [Value.unwritable?, if_neg ((overlong_iff n).not.mpr (not_le.mpr h))]
  | float x =>
    rw [Value.WellFormed] at h
    rw [Value.unwritable?, if_pos h]
  | array items ih =>
    rw [Value.WellFormed] at h
    rw [Value.unwritable?]
    induction items with
    | nil => rfl
    | cons v items ihs =>
      rw [itemsUnwritable?, ih v List.mem_cons_self h.1]
      exact ihs (fun v' hv' => ih v' (List.mem_cons_of_mem v hv')) h.2
  | object members ih =>
    rw [Value.WellFormed] at h
    rw [Value.unwritable?]
    replace h := h.2
    induction members with
    | nil => rfl
    | cons m members ihs =>
      obtain ⟨key, v⟩ := m
      rw [membersUnwritable?, ih (key, v) List.mem_cons_self h.1]
      exact ihs (fun m' hm' => ih m' (List.mem_cons_of_mem _ hm')) h.2

end StructuredText.Json
