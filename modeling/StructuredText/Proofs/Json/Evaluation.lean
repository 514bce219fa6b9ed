/-
# The value of a syntax tree

The value that a tree denotes can be computed: `Tree.value?` gives it if every number is in range
and no more containers than allowed stand inside each other.

* `Tree.value?_eq_some_iff` compares it with what the tree denotes.
-/
import Mathlib
import StructuredText.Json.Value
import StructuredText.Proofs.Json.Grammar
import StructuredText.Proofs.Json.Members
import StructuredText.Proofs.Json.Numbers

namespace StructuredText.Json

mutual

/-- The value of a tree with at most so many containers inside each other. -/
def Tree.value? : ℕ → Tree → Option Value
  | _, .null => some .null
  | _, .bool b => some (.bool b)
  | _, .number n => n.value?
  | _, .string parts => some (.string (joinUnits parts))
  | 0, .array _ => none
  | levels + 1, .array items => (itemsValue? levels items).map .array
  | 0, .object _ => none
  | levels + 1, .object members =>
    (membersValue? levels members).map fun written => .object (membersOf written)
termination_by structural _ tree => tree

/-- The values of items. -/
def itemsValue? (levels : ℕ) : List Tree → Option (List Value)
  | [] => some []
  | tree :: rest => do
    let v ← tree.value? levels
    let values ← itemsValue? levels rest
    return v :: values
termination_by structural items => items

/-- The members that are written. -/
def membersValue? (levels : ℕ) : List (List StringPart × Tree) → Option (List Member)
  | [] => some []
  | (name, tree) :: rest => do
    let v ← tree.value? levels
    let written ← membersValue? levels rest
    return (joinUnits name, v) :: written
termination_by structural members => members

end

theorem itemsValue?_cons_eq_some_iff {levels : ℕ} {tree : Tree} {trees : List Tree}
    {values : List Value} :
    itemsValue? levels (tree :: trees) = some values ↔ ∃ v, tree.value? levels = some v ∧
      ∃ rest, itemsValue? levels trees = some rest ∧ v :: rest = values := by
  simp [itemsValue?, Option.bind_eq_some_iff]

theorem membersValue?_cons_eq_some_iff {levels : ℕ} {name : List StringPart} {tree : Tree}
    {members : List (List StringPart × Tree)} {written : List Member} :
    membersValue? levels ((name, tree) :: members) = some written ↔
      ∃ v, tree.value? levels = some v ∧ ∃ rest, membersValue? levels members = some rest ∧
        (joinUnits name, v) :: rest = written := by
  simp [membersValue?, Option.bind_eq_some_iff]

/-! ## Limits -/

theorem withinLimits_array {items : List Tree} :
    (Tree.array items).WithinLimits ↔ ∀ n ∈ numeralsOfItems items, n.InRange := Iff.rfl

theorem withinLimits_object {members : List (List StringPart × Tree)} :
    (Tree.object members).WithinLimits ↔ ∀ n ∈ numeralsOfMembers members, n.InRange := Iff.rfl

/-- Items have values if each of them has one. -/
theorem itemsValue?_eq_some_iff {items : List Tree}
    (h : ∀ tree ∈ items, ∀ levels v, tree.value? levels = some v ↔
      tree.levels ≤ levels ∧ tree.WithinLimits ∧ tree.Denotes v)
    (levels : ℕ) (values : List Value) :
    itemsValue? levels items = some values ↔ levelsOfTrees items ≤ levels ∧
      (∀ n ∈ numeralsOfItems items, n.InRange) ∧ ItemsDenote items values := by
  induction items generalizing values with
  | nil =>
    constructor
    · intro hvalues
      rw [← Option.some.inj hvalues]
      exact ⟨Nat.zero_le _, by simp [numeralsOfItems], .nil⟩
    · rintro ⟨-, -, hdenote⟩
      cases hdenote
      rfl
  | cons tree trees ih =>
    have hrest := ih fun tree' htree' => h tree' (List.mem_cons_of_mem tree htree')
    rw [itemsValue?_cons_eq_some_iff, levelsOfTrees, numeralsOfItems]
    simp only [h tree List.mem_cons_self, hrest, max_le_iff, List.mem_append, or_imp, forall_and]
    constructor
    · rintro ⟨v, ⟨hl, hn, hv⟩, rest, ⟨hls, hns, hvs⟩, rfl⟩
      exact ⟨⟨hl, hls⟩, ⟨hn, hns⟩, .cons hv hvs⟩
    · rintro ⟨⟨hl, hls⟩, ⟨hn, hns⟩, hdenote⟩
      cases hdenote with
      | cons hv hvs => exact ⟨_, ⟨hl, hn, hv⟩, _, ⟨hls, hns, hvs⟩, rfl⟩

/-- Members have values if each of them has one. -/
theorem membersValue?_eq_some_iff {members : List (List StringPart × Tree)}
    (h : ∀ m ∈ members, ∀ levels v, m.2.value? levels = some v ↔
      m.2.levels ≤ levels ∧ m.2.WithinLimits ∧ m.2.Denotes v)
    (levels : ℕ) (written : List Member) :
    membersValue? levels members = some written ↔ levelsOfNamedTrees members ≤ levels ∧
      (∀ n ∈ numeralsOfMembers members, n.InRange) ∧ MembersDenote members written := by
  induction members generalizing written with
  | nil =>
    constructor
    · intro hvalues
      rw [← Option.some.inj hvalues]
      exact ⟨Nat.zero_le _, by simp [numeralsOfMembers], .nil⟩
    · rintro ⟨-, -, hdenote⟩
      cases hdenote
      rfl
  | cons m members ih =>
    obtain ⟨name, tree⟩ := m
    have hrest := ih fun m hm => h m (List.mem_cons_of_mem _ hm)
    rw [membersValue?_cons_eq_some_iff, levelsOfNamedTrees, numeralsOfMembers]
    simp only [h (name, tree) List.mem_cons_self, hrest, max_le_iff, List.mem_append, or_imp,
      forall_and]
    constructor
    · rintro ⟨v, ⟨hl, hn, hv⟩, rest, ⟨hls, hns, hvs⟩, rfl⟩
      exact ⟨⟨hl, hls⟩, ⟨hn, hns⟩, .cons hv hvs⟩
    · rintro ⟨⟨hl, hls⟩, ⟨hn, hns⟩, hdenote⟩
      cases hdenote with
      | cons hv hvs => exact ⟨_, ⟨hl, hn, hv⟩, _, ⟨hls, hns, hvs⟩, rfl⟩

/-! ## The value that is denoted -/

/-- A tree without numbers and without other trees inside. -/
theorem Tree.value?_eq_some_iff_of_leaf {tree : Tree} {levels : ℕ} {v v₀ : Value}
    (hvalue : tree.value? levels = some v₀) (hlevels : tree.levels = 0)
    (hnumerals : tree.numerals = []) (hdenotes : tree.Denotes v ↔ v = v₀) :
    tree.value? levels = some v ↔
      tree.levels ≤ levels ∧ tree.WithinLimits ∧ tree.Denotes v := by
  rw [hvalue, hdenotes, hlevels, Tree.WithinLimits, hnumerals, Option.some.injEq]
  simp [eq_comm]

/-- **A tree within the limits has the value that it denotes**, and no other tree has one. -/
theorem Tree.value?_eq_some_iff (tree : Tree) (levels : ℕ) (v : Value) :
    tree.value? levels = some v ↔
      tree.levels ≤ levels ∧ tree.WithinLimits ∧ tree.Denotes v := by
  -- By induction on the tree, for every number of levels at once: a container hands one level
  -- less to what it holds.
  induction tree using Tree.induction generalizing levels v with
  | null =>
    refine Tree.value?_eq_some_iff_of_leaf rfl rfl rfl ⟨fun h => ?_, fun h => h ▸ .null⟩
    cases h
    rfl
  | bool b =>
    refine Tree.value?_eq_some_iff_of_leaf rfl rfl rfl ⟨fun h => ?_, fun h => h ▸ .bool b⟩
    cases h
    rfl
  | string parts =>
    refine Tree.value?_eq_some_iff_of_leaf rfl rfl rfl ⟨fun h => ?_, fun h => h ▸ .string parts⟩
    cases h
    rfl
  | number n =>
    have hlimits : (Tree.number n).WithinLimits ↔ n.InRange := by
      simp [Tree.WithinLimits, Tree.numerals]
    rw [Tree.value?, Numeral.value?_eq_some_iff, hlimits]
    constructor
    · rintro ⟨hrange, h⟩
      exact ⟨Nat.zero_le _, hrange, .number h⟩
    · rintro ⟨-, hrange, h⟩
      cases h with
      | number h => exact ⟨hrange, h⟩
  | array items ih =>
    cases levels with
    | zero => simp [Tree.value?, Tree.levels]
    | succ levels =>
      rw [Tree.value?, Option.map_eq_some_iff, withinLimits_array, Tree.levels,
        Nat.add_le_add_iff_right]
      simp only [itemsValue?_eq_some_iff ih]
      constructor
      · rintro ⟨values, ⟨hl, hn, hdenote⟩, rfl⟩
        exact ⟨hl, hn, .array hdenote⟩
      · rintro ⟨hl, hn, h⟩
        cases h with
        | array hdenote => exact ⟨_, ⟨hl, hn, hdenote⟩, rfl⟩
  | object members ih =>
    cases levels with
    | zero => simp [Tree.value?, Tree.levels]
    | succ levels =>
      rw [Tree.value?, Option.map_eq_some_iff, withinLimits_object, Tree.levels,
        Nat.add_le_add_iff_right]
      simp only [membersValue?_eq_some_iff ih]
      constructor
      · rintro ⟨written, ⟨hl, hn, hdenote⟩, rfl⟩
        exact ⟨hl, hn, .object hdenote (merges_membersOf written)⟩
      · rintro ⟨hl, hn, h⟩
        cases h with
        | object hdenote hmerges =>
          exact ⟨_, ⟨hl, hn, hdenote⟩, by rw [hmerges.unique (merges_membersOf _)]⟩

/-! ## Trees with a value -/

theorem exists_itemsValue? {items : List Tree} {levels : ℕ}
    (h : ∀ tree ∈ items, tree.levels ≤ levels → tree.WithinLimits →
      ∃ v, tree.value? levels = some v)
    (hlevels : levelsOfTrees items ≤ levels) (hlimits : ∀ n ∈ numeralsOfItems items, n.InRange) :
    ∃ values, itemsValue? levels items = some values := by
  induction items with
  | nil => exact ⟨[], rfl⟩
  | cons tree trees ih =>
    rw [levelsOfTrees, max_le_iff] at hlevels
    simp only [numeralsOfItems, List.mem_append, or_imp, forall_and] at hlimits
    obtain ⟨v, hv⟩ := h tree List.mem_cons_self hlevels.1 hlimits.1
    obtain ⟨values, hvalues⟩ :=
      ih (fun tree' h' => h tree' (List.mem_cons_of_mem tree h')) hlevels.2 hlimits.2
    exact ⟨_, itemsValue?_cons_eq_some_iff.mpr ⟨v, hv, values, hvalues, rfl⟩⟩

theorem exists_membersValue? {members : List (List StringPart × Tree)} {levels : ℕ}
    (h : ∀ m ∈ members, m.2.levels ≤ levels → m.2.WithinLimits →
      ∃ v, m.2.value? levels = some v)
    (hlevels : levelsOfNamedTrees members ≤ levels)
    (hlimits : ∀ n ∈ numeralsOfMembers members, n.InRange) :
    ∃ written, membersValue? levels members = some written := by
  induction members with
  | nil => exact ⟨[], rfl⟩
  | cons m members ih =>
    obtain ⟨name, tree⟩ := m
    rw [levelsOfNamedTrees, max_le_iff] at hlevels
    simp only [numeralsOfMembers, List.mem_append, or_imp, forall_and] at hlimits
    obtain ⟨v, hv⟩ := h (name, tree) List.mem_cons_self hlevels.1 hlimits.1
    obtain ⟨written, hwritten⟩ :=
      ih (fun m h' => h m (List.mem_cons_of_mem _ h')) hlevels.2 hlimits.2
    exact ⟨_, membersValue?_cons_eq_some_iff.mpr ⟨v, hv, written, hwritten, rfl⟩⟩

/-- **Every tree within the limits has a value.** -/
theorem Tree.exists_value? {tree : Tree} {levels : ℕ} (hlevels : tree.levels ≤ levels)
    (hlimits : tree.WithinLimits) : ∃ v, tree.value? levels = some v := by
  induction tree using Tree.induction generalizing levels with
  | null | bool | string => exact ⟨_, rfl⟩
  | number n =>
    rw [Tree.value?]
    exact Numeral.exists_value? (hlimits n (by simp [Tree.numerals]))
  | array items ih =>
    cases levels with
    | zero => exact absurd hlevels (by simp [Tree.levels])
    | succ levels =>
      rw [Tree.levels, Nat.add_le_add_iff_right] at hlevels
      obtain ⟨values, hvalues⟩ := exists_itemsValue? (fun tree h => ih tree h) hlevels hlimits
      exact ⟨.array values, by rw [Tree.value?, hvalues, Option.map_some]⟩
  | object members ih =>
    cases levels with
    | zero => exact absurd hlevels (by simp [Tree.levels])
    | succ levels =>
      rw [Tree.levels, Nat.add_le_add_iff_right] at hlevels
      obtain ⟨written, hwritten⟩ := exists_membersValue? (fun m h => ih m h) hlevels hlimits
      exact ⟨.object (membersOf written), by rw [Tree.value?, hwritten, Option.map_some]⟩

end StructuredText.Json
