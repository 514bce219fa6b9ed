/-
# Sorting keys at every depth

Keys are compared code point by code point, which is a linear order.  Sorting only moves members
about, so whatever does not depend on their order is kept, and sorting once more changes nothing.

* `sortMembers_sortMembers` and `Value.sortKeys_sortKeys`: members and whole values stay sorted;
* `Value.levels_sortKeys`, `Value.WellFormed.sortKeys` and `Value.mem_strings_sortKeys` say what
  sorting keeps.
-/
import Mathlib
import StructuredText.Json.Sorting
import StructuredText.Proofs.Json.Members
import StructuredText.Proofs.Json.WellFormed

namespace StructuredText

/-! ## The order of code points -/

namespace CodePoint

instance : LE CodePoint := ⟨fun a b => a.val ≤ b.val⟩

theorem lt_iff_val {a b : CodePoint} : a < b ↔ a.val < b.val := Iff.rfl

theorem le_iff_val {a b : CodePoint} : a ≤ b ↔ a.val ≤ b.val := Iff.rfl

instance : Std.IsLinearOrder CodePoint where
  le_refl _ := le_iff_val.mpr le_rfl
  le_trans _ _ _ hab hbc := le_iff_val.mpr ((le_iff_val.mp hab).trans (le_iff_val.mp hbc))
  le_antisymm _ _ hab hba := CodePoint.ext ((le_iff_val.mp hab).antisymm (le_iff_val.mp hba))
  le_total a b := le_total a.val b.val

instance : Std.LawfulOrderLT CodePoint where
  lt_iff a b := by
    rw [lt_iff_val, le_iff_val, le_iff_val]
    omega

end CodePoint

namespace Json

/-! ## Sorting members -/

theorem sortMembers_perm (members : List Member) : (sortMembers members).Perm members :=
  List.mergeSort_perm members _

/-- Sorted members stand in ascending order of their names. -/
theorem pairwise_sortMembers (members : List Member) :
    (sortMembers members).Pairwise fun m m' => m.1 ≤ m'.1 := by
  have htrans : ∀ a b c : Member, decide (a.1 ≤ b.1) → decide (b.1 ≤ c.1) →
      decide (a.1 ≤ c.1) := by
    intro a b c hab hbc
    rw [decide_eq_true_eq] at hab hbc ⊢
    exact List.le_trans hab hbc
  have htotal : ∀ a b : Member, decide (a.1 ≤ b.1) || decide (b.1 ≤ a.1) := by
    intro a b
    rw [Bool.or_eq_true, decide_eq_true_eq, decide_eq_true_eq]
    exact List.le_total a.1 b.1
  have hsorted := List.pairwise_mergeSort htrans htotal members
  exact hsorted.imp fun h => of_decide_eq_true h

/-- Sorted members stay as they are. -/
theorem sortMembers_sortMembers (members : List Member) :
    sortMembers (sortMembers members) = sortMembers members := by
  have hsorted := pairwise_sortMembers members
  exact List.mergeSort_of_pairwise (hsorted.imp fun h => decide_eq_true h)

/-! ## Sorting inside -/

theorem sortKeysOfItems_eq_map (items : List Value) :
    sortKeysOfItems items = items.map Value.sortKeys := by
  induction items with
  | nil => rfl
  | cons v items ih => rw [sortKeysOfItems, ih, List.map_cons]

/-- A member with the members of every object inside sorted. -/
def sortInside (m : Member) : Member := (m.1, m.2.sortKeys)

theorem sortKeysOfMembers_eq_map (members : List Member) :
    sortKeysOfMembers members = members.map sortInside := by
  induction members with
  | nil => rfl
  | cons m members ih =>
    obtain ⟨key, v⟩ := m
    rw [sortKeysOfMembers, ih, List.map_cons, sortInside]

/-- Sorting does not look at what is inside of members. -/
theorem map_sortInside_sortMembers (members : List Member) :
    (sortMembers members).map sortInside = sortMembers (members.map sortInside) :=
  List.map_mergeSort fun _ _ _ _ => rfl

theorem Value.sortKeys_array (items : List Value) :
    (Value.array items).sortKeys = .array (items.map Value.sortKeys) := by
  rw [Value.sortKeys, sortKeysOfItems_eq_map]

theorem Value.sortKeys_object (members : List Member) :
    (Value.object members).sortKeys = .object (sortMembers (members.map sortInside)) := by
  rw [Value.sortKeys, sortKeysOfMembers_eq_map]

/-- **A value with sorted keys stays as it is.** -/
theorem Value.sortKeys_sortKeys (v : Value) : v.sortKeys.sortKeys = v.sortKeys := by
  induction v using Value.induction with
  | null | bool | int | float | string => rfl
  | array items ih =>
    have hinside : (items.map Value.sortKeys).map Value.sortKeys = items.map Value.sortKeys := by
      rw [List.map_map]
      exact List.map_congr_left fun v hv => ih v hv
    rw [Value.sortKeys_array, Value.sortKeys_array, hinside]
  | object members ih =>
    have hinside : (members.map sortInside).map sortInside = members.map sortInside := by
      rw [List.map_map]
      refine List.map_congr_left fun m hm => ?_
      exact Prod.ext rfl (ih m hm)
    rw [Value.sortKeys_object, Value.sortKeys_object, map_sortInside_sortMembers, hinside,
      sortMembers_sortMembers]

/-! ## What sorting keeps -/

theorem levelsOfItems_le_iff {items : List Value} {n : ℕ} :
    levelsOfItems items ≤ n ↔ ∀ v ∈ items, v.levels ≤ n := by
  induction items with
  | nil => simp [levelsOfItems]
  | cons v items ih => simp [levelsOfItems, ih]

theorem levelsOfMembers_le_iff {members : List Member} {n : ℕ} :
    levelsOfMembers members ≤ n ↔ ∀ m ∈ members, m.2.levels ≤ n := by
  induction members with
  | nil => simp [levelsOfMembers]
  | cons m members ih =>
    obtain ⟨key, v⟩ := m
    simp [levelsOfMembers, ih]

/-- Sorting opens and closes no container. -/
theorem Value.levels_sortKeys (v : Value) : v.sortKeys.levels = v.levels := by
  induction v using Value.induction with
  | null | bool | int | float | string => rfl
  | array items ih =>
    rw [Value.sortKeys_array, Value.levels, Value.levels, Nat.add_right_cancel_iff]
    refine Nat.le_antisymm ?_ ?_
    · refine levelsOfItems_le_iff.mpr fun v hv => ?_
      obtain ⟨v', hv', rfl⟩ := List.mem_map.mp hv
      rw [ih v' hv']
      exact levelsOfItems_le_iff.mp le_rfl v' hv'
    · refine levelsOfItems_le_iff.mpr fun v hv => ?_
      rw [← ih v hv]
      exact levelsOfItems_le_iff.mp le_rfl _ (List.mem_map_of_mem hv)
  | object members ih =>
    have hmem : ∀ m, m ∈ sortMembers (members.map sortInside) ↔ m ∈ members.map sortInside :=
      fun m => (sortMembers_perm _).mem_iff
    rw [Value.sortKeys_object, Value.levels, Value.levels, Nat.add_right_cancel_iff]
    refine Nat.le_antisymm ?_ ?_
    · refine levelsOfMembers_le_iff.mpr fun m hm => ?_
      obtain ⟨m', hm', rfl⟩ := List.mem_map.mp ((hmem m).mp hm)
      rw [sortInside, ih m' hm']
      exact levelsOfMembers_le_iff.mp le_rfl m' hm'
    · refine levelsOfMembers_le_iff.mpr fun m hm => ?_
      rw [← ih m hm]
      exact levelsOfMembers_le_iff.mp le_rfl _ ((hmem _).mpr (List.mem_map_of_mem hm))

theorem namesOf_map_sortInside (members : List Member) :
    namesOf (members.map sortInside) = namesOf members := by
  rw [namesOf, namesOf, List.map_map]
  rfl

theorem wellFormedItems_of_forall {items : List Value} (h : ∀ v ∈ items, v.WellFormed) :
    WellFormedItems items := by
  induction items with
  | nil => trivial
  | cons v items ih =>
    exact ⟨h v List.mem_cons_self, ih fun v' hv' => h v' (List.mem_cons_of_mem v hv')⟩

theorem wellFormedMembers_of_forall {members : List Member} (h : ∀ m ∈ members, m.2.WellFormed) :
    WellFormedMembers members := by
  induction members with
  | nil => trivial
  | cons m members ih =>
    exact ⟨h m List.mem_cons_self, ih fun m' hm' => h m' (List.mem_cons_of_mem m hm')⟩

/-- A well-formed value is so in any order of its members. -/
theorem Value.WellFormed.sortKeys {v : Value} (h : v.WellFormed) : v.sortKeys.WellFormed := by
  induction v using Value.induction with
  | null | bool | int | float | string => exact h
  | array items ih =>
    rw [Value.WellFormed] at h
    rw [Value.sortKeys_array, Value.WellFormed]
    refine wellFormedItems_of_forall fun v hv => ?_
    obtain ⟨v', hv', rfl⟩ := List.mem_map.mp hv
    exact ih v' hv' (wellFormed_of_mem h hv')
  | object members ih =>
    rw [Value.WellFormed] at h
    obtain ⟨hnames, hinside⟩ := h
    have hperm := sortMembers_perm (members.map sortInside)
    rw [Value.sortKeys_object, Value.WellFormed]
    refine ⟨?_, wellFormedMembers_of_forall fun m hm => ?_⟩
    · rw [← namesOf_map_sortInside] at hnames
      exact (hperm.map Prod.fst).nodup_iff.mpr hnames
    · obtain ⟨m', hm', rfl⟩ := List.mem_map.mp (hperm.mem_iff.mp hm)
      exact ih m' hm' (wellFormed_of_mem_members hinside hm')

theorem mem_stringsOfItems {items : List Value} {s : Text} :
    s ∈ stringsOfItems items ↔ ∃ v ∈ items, s ∈ v.strings := by
  induction items with
  | nil => simp [stringsOfItems]
  | cons v items ih => simp [stringsOfItems, ih]

theorem mem_stringsOfMembers {members : List Member} {s : Text} :
    s ∈ stringsOfMembers members ↔ ∃ m ∈ members, s = m.1 ∨ s ∈ m.2.strings := by
  induction members with
  | nil => simp [stringsOfMembers]
  | cons m members ih =>
    obtain ⟨key, v⟩ := m
    simp [stringsOfMembers, ih, or_assoc]

/-- Sorting neither adds nor drops a string or a name. -/
theorem Value.mem_strings_sortKeys {v : Value} {s : Text} :
    s ∈ v.sortKeys.strings ↔ s ∈ v.strings := by
  induction v using Value.induction with
  | null | bool | int | float | string => exact Iff.rfl
  | array items ih =>
    rw [Value.sortKeys_array, Value.strings, Value.strings, mem_stringsOfItems,
      mem_stringsOfItems]
    simp only [List.mem_map, exists_exists_and_eq_and]
    exact exists_congr fun v => and_congr_right fun hv => ih v hv
  | object members ih =>
    have hmem : ∀ m, m ∈ sortMembers (members.map sortInside) ↔ m ∈ members.map sortInside :=
      fun m => (sortMembers_perm _).mem_iff
    rw [Value.sortKeys_object, Value.strings, Value.strings, mem_stringsOfMembers,
      mem_stringsOfMembers]
    simp only [hmem, List.mem_map, exists_exists_and_eq_and]
    exact exists_congr fun m => and_congr_right fun hm => or_congr_right (ih m hm)

end Json

end StructuredText
