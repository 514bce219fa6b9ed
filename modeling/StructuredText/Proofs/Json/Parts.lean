/-
# Parts of a value

A value and everything inside it, at any depth.  What is said of all parts is said of every depth.

* `mem_parts_array` and `mem_parts_object` tell the parts of containers;
* `unwritable?_eq_none_iff`: a value can be written just if each of its parts can.
-/
import Mathlib
import StructuredText.Json.Printer
import StructuredText.Proofs.Json.WellFormed

namespace StructuredText.Json

/-! ## Parts -/

mutual

/-- The value and all values inside it. -/
def Value.parts : Value → List Value
  | .array items => .array items :: partsOfItems items
  | .object members => .object members :: partsOfMembers members
  | v => [v]
termination_by structural v => v

/-- Items and all values inside them. -/
def partsOfItems : List Value → List Value
  | [] => []
  | v :: rest => v.parts ++ partsOfItems rest
termination_by structural items => items

/-- The values of members and all values inside them. -/
def partsOfMembers : List Member → List Value
  | [] => []
  | (_, v) :: rest => v.parts ++ partsOfMembers rest
termination_by structural members => members

end

theorem mem_partsOfItems {items : List Value} {part : Value} :
    part ∈ partsOfItems items ↔ ∃ v ∈ items, part ∈ v.parts := by
  induction items with
  | nil => simp [partsOfItems]
  | cons v items ih => simp [partsOfItems, ih]

theorem mem_partsOfMembers {members : List Member} {part : Value} :
    part ∈ partsOfMembers members ↔ ∃ m ∈ members, part ∈ m.2.parts := by
  induction members with
  | nil => simp [partsOfMembers]
  | cons m members ih =>
    obtain ⟨key, v⟩ := m
    simp [partsOfMembers, ih]

theorem mem_parts_array {items : List Value} {part : Value} :
    part ∈ (Value.array items).parts ↔ part = .array items ∨ ∃ v ∈ items, part ∈ v.parts := by
  rw [Value.parts, List.mem_cons, mem_partsOfItems]

theorem mem_parts_object {members : List Member} {part : Value} :
    part ∈ (Value.object members).parts ↔
      part = .object members ∨ ∃ m ∈ members, part ∈ m.2.parts := by
  rw [Value.parts, List.mem_cons, mem_partsOfMembers]

/-! ## Parts that cannot be written -/

/-- A number that is not finite, or an integer with more digits than allowed. -/
def Value.Inexpressible : Value → Prop
  | .int n => maxIntegerDigits < (Nat.digits 10 n.natAbs).length
  | .float x => ¬ x.isFinite
  | _ => False

/-- Having more digits than allowed is being too large. -/
theorem inexpressible_int_iff (n : ℤ) :
    (Value.int n).Inexpressible ↔ 10 ^ maxIntegerDigits ≤ n.natAbs := by
  show maxIntegerDigits < (Nat.digits 10 n.natAbs).length ↔ _
  generalize maxIntegerDigits = limit
  exact Nat.lt_digits_length_iff (by decide) n.natAbs

theorem itemsUnwritable?_eq_none_iff {items : List Value} :
    itemsUnwritable? items = none ↔ ∀ v ∈ items, v.unwritable? = none := by
  induction items with
  | nil => simp [itemsUnwritable?]
  | cons v items ih =>
    rw [itemsUnwritable?, List.forall_mem_cons, ← ih]
    cases v.unwritable? <;> simp

theorem membersUnwritable?_eq_none_iff {members : List Member} :
    membersUnwritable? members = none ↔ ∀ m ∈ members, m.2.unwritable? = none := by
  induction members with
  | nil => simp [membersUnwritable?]
  | cons m members ih =>
    obtain ⟨key, v⟩ := m
    rw [membersUnwritable?, List.forall_mem_cons, ← ih]
    cases v.unwritable? <;> simp

/-- **A value can be written just if each of its parts can.** -/
theorem unwritable?_eq_none_iff {v : Value} :
    v.unwritable? = none ↔ ∀ part ∈ v.parts, ¬ part.Inexpressible := by
  induction v using Value.induction with
  | null | bool | string => simp [Value.unwritable?, Value.parts, Value.Inexpressible]
  | int n =>
    have hparts : (Value.int n).parts = [.int n] := rfl
    rw [hparts, List.forall_mem_singleton, inexpressible_int_iff, ← overlong_iff, Value.unwritable?]
    simp
  | float x => simp [Value.unwritable?, Value.parts, Value.Inexpressible]
  | array items ih =>
    rw [Value.unwritable?, itemsUnwritable?_eq_none_iff]
    constructor
    · intro h part hpart
      rcases mem_parts_array.mp hpart with rfl | ⟨v, hv, hpart⟩
      · exact id
      · exact (ih v hv).mp (h v hv) part hpart
    · intro h v hv
      exact (ih v hv).mpr fun part hpart => h part (mem_parts_array.mpr (Or.inr ⟨v, hv, hpart⟩))
  | object members ih =>
    rw [Value.unwritable?, membersUnwritable?_eq_none_iff]
    constructor
    · intro h part hpart
      rcases mem_parts_object.mp hpart with rfl | ⟨m, hm, hpart⟩
      · exact id
      · exact (ih m hm).mp (h m hm) part hpart
    · intro h m hm
      exact (ih m hm).mpr fun part hpart => h part (mem_parts_object.mpr (Or.inr ⟨m, hm, hpart⟩))

end StructuredText.Json
