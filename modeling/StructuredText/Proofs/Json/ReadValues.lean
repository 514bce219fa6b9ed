/-
# Values that were read

The value of a document holds only what can be written again: its numbers are within the limits
and no object repeats a name.  If the document has no lone surrogates of its own, no string of the
value has the two halves of a surrogate pair side by side, since halves that are escaped side by
side are joined.

* `ReadFrom` says this of a value and the text that it was read from;
* `readFrom_of_parseWithin`: it holds of whatever is read.
-/
import Mathlib
import StructuredText.Proofs.Json.Acceptance
import StructuredText.Proofs.Json.Sorting
import StructuredText.Proofs.Json.WellFormed
import StructuredText.Proofs.Json.WrittenStrings
import StructuredText.Proofs.Text.Digits

namespace StructuredText.Json

open CodePoint (ofChar)

/-! ## Strings -/

/-- A text without surrogates. -/
def Scalar (t : Text) : Prop := ∀ c ∈ t, c.isSurrogate = false

/-- No surrogate stands for itself in a string of a text that has none. -/
theorem PartsText.not_surrogate {t : Text} {parts : List StringPart} (h : PartsText t parts)
    (ht : Scalar t) {c : CodePoint} (hc : .plain c ∈ parts) : c.isSurrogate = false := by
  have hshort : ∀ p ∈ shortEscapes, p.2.isSurrogate = false := by decide
  induction h with
  | nil => exact absurd hc (by simp)
  | @plain d t parts _ _ ih =>
    rcases List.mem_cons.mp hc with heq | hc
    · rw [StringPart.plain.inj heq]
      exact ht d List.mem_cons_self
    · exact ih (fun e he => ht e (List.mem_cons_of_mem _ he)) hc
  | @short e d t parts he _ ih =>
    rcases List.mem_cons.mp hc with heq | hc
    · rw [StringPart.plain.inj heq]
      exact hshort _ he
    · exact ih (fun e he => ht e (List.mem_cons_of_mem _ (List.mem_cons_of_mem _ he))) hc
  | unit _ _ ih =>
    rcases List.mem_cons.mp hc with heq | hc
    · exact absurd heq (by simp)
    · exact ih (fun e he => ht e (by simp [he])) hc

section JoinUnits

variable {parts : List StringPart}

/-- If surrogates are escaped, a string that begins with a low one begins with its escape. -/
theorem exists_unit_of_head_low (h : ∀ c, .plain c ∈ parts → c.isSurrogate = false)
    {low : CodePoint} (hhead : low ∈ (joinUnits parts).head?) (hlow : low.isLowSurrogate) :
    ∃ rest, parts = .unit low :: rest := by
  have hsurrogate := isSurrogate_of_isLowSurrogate hlow
  cases parts using joinUnits.fun_cases with
  | case1 => exact absurd hhead (by simp [joinUnits])
  | case2 c rest =>
    obtain rfl : c = low := by simpa using hhead
    rw [h c List.mem_cons_self] at hsurrogate
    exact absurd hsurrogate (by simp)
  | case3 high low' rest hpair =>
    rw [joinUnits_pair hpair] at hhead
    obtain rfl : CodePoint.ofSurrogates high low' = low := by simpa using hhead
    rw [isSurrogate_ofSurrogates hpair.1 hpair.2] at hsurrogate
    exact absurd hsurrogate (by simp)
  | case4 high low' rest hpair =>
    rw [joinUnits, if_neg hpair] at hhead
    obtain rfl : high = low := by simpa using hhead
    exact ⟨_, rfl⟩
  | case5 c rest hnot =>
    rw [joinUnits_unit fun _ low' rest' heq => absurd heq (hnot low' rest')] at hhead
    obtain rfl : c = low := by simpa using hhead
    exact ⟨_, rfl⟩

/-- **Where surrogates are escaped, no halves stay side by side.** -/
theorem not_holdsPair_joinUnits (h : ∀ c, .plain c ∈ parts → c.isSurrogate = false) :
    ¬ HoldsPair (joinUnits parts) := by
  have hrest : ∀ {part : StringPart} {rest : List StringPart},
      (∀ c, .plain c ∈ part :: rest → c.isSurrogate = false) →
        ∀ c, .plain c ∈ rest → c.isSurrogate = false :=
    fun h c hc => h c (List.mem_cons_of_mem _ hc)
  induction parts using joinUnits.induct with
  | case1 =>
    rintro ⟨before, high, low, after, heq, -⟩
    exact absurd heq.symm (by simp [joinUnits])
  | case2 c rest ih =>
    rw [joinUnits_plain, holdsPair_cons_iff]
    rintro (⟨hhigh, -⟩ | hpair)
    · have hc := h c List.mem_cons_self
      rw [isSurrogate_of_isHighSurrogate hhigh] at hc
      exact absurd hc (by simp)
    · exact ih (hrest h) hpair
  | case3 high low rest hpair ih =>
    rw [joinUnits_pair hpair, holdsPair_cons_iff]
    rintro (⟨hhigh, -⟩ | hholds)
    · have hjoined := isSurrogate_ofSurrogates hpair.1 hpair.2
      rw [isSurrogate_of_isHighSurrogate hhigh] at hjoined
      exact absurd hjoined (by simp)
    · exact ih (hrest (hrest h)) hholds
  | case4 high low rest hpair ih =>
    rw [joinUnits, if_neg hpair, holdsPair_cons_iff]
    rintro (⟨hhigh, low', hhead, hlow⟩ | hholds)
    · -- What comes next is a low half only if its escape does, and then both had been joined.
      obtain ⟨rest', heq⟩ := exists_unit_of_head_low (hrest h) hhead hlow
      obtain ⟨hunit, -⟩ := List.cons.inj heq
      exact hpair ⟨hhigh, StringPart.unit.inj hunit ▸ hlow⟩
    · exact ih (hrest h) hholds
  | case5 c rest hnot ih =>
    rw [joinUnits_unit fun _ low' rest' heq => absurd heq (hnot low' rest'), holdsPair_cons_iff]
    rintro (⟨-, low', hhead, hlow⟩ | hholds)
    · obtain ⟨rest', heq⟩ := exists_unit_of_head_low (hrest h) hhead hlow
      exact hnot low' rest' heq
    · exact ih (hrest h) hholds

end JoinUnits

/-! ## Parts of a text -/

/-- The text of an item stands in that of all items. -/
theorem ItemsText.exists_of_mem {t : Text} {trees : List Tree} (h : ItemsText t trees) {tree : Tree}
    (htree : tree ∈ trees) : ∃ t', t' ⊆ t ∧ ValueText t' tree := by
  induction trees generalizing t with
  | nil => exact absurd htree (by simp)
  | cons first trees ih =>
    cases h with
    | @last w t' w' _ hw hv hw' =>
      rw [List.mem_singleton.mp htree]
      exact ⟨t', fun c hc => by simp [hc], hv⟩
    | @more w t' w' ts _ _ hw hv hw' hrest =>
      rcases List.mem_cons.mp htree with rfl | htree
      · exact ⟨t', fun c hc => by simp [hc], hv⟩
      · obtain ⟨t'', hsub, hv'⟩ := ih hrest htree
        exact ⟨t'', fun c hc => by simp [hsub hc], hv'⟩

/-- The texts of the name and of the value of a member stand in its text. -/
theorem MemberText.exists_parts {t : Text} {m : List StringPart × Tree} (h : MemberText t m) :
    ∃ k t', k ⊆ t ∧ PartsText k m.1 ∧ t' ⊆ t ∧ ValueText t' m.2 := by
  cases h with
  | @mk w k w₁ w₂ t' w' parts tree hw hk hw₁ hw₂ hv hw' =>
    exact ⟨k, t', fun c hc => by simp [hc], hk, fun c hc => by simp [hc], hv⟩

/-- The text of a member stands in that of all members. -/
theorem MembersText.exists_of_mem {t : Text} {members : List (List StringPart × Tree)}
    (h : MembersText t members) {m : List StringPart × Tree} (hm : m ∈ members) :
    ∃ t', t' ⊆ t ∧ MemberText t' m := by
  induction members generalizing t with
  | nil => exact absurd hm (by simp)
  | cons first members ih =>
    cases h with
    | last h =>
      rw [List.mem_singleton.mp hm]
      exact ⟨t, List.Subset.refl t, h⟩
    | @more t' ts _ _ h hrest =>
      rcases List.mem_cons.mp hm with rfl | hm
      · exact ⟨t', fun c hc => by simp [hc], h⟩
      · obtain ⟨t'', hsub, h'⟩ := ih hrest hm
        exact ⟨t'', fun c hc => by simp [hsub hc], h'⟩

theorem ItemsDenote.exists_of_mem {trees : List Tree} {values : List Value}
    (h : ItemsDenote trees values) {v : Value} (hv : v ∈ values) :
    ∃ tree ∈ trees, tree.Denotes v := by
  induction trees generalizing values with
  | nil =>
    cases h
    exact absurd hv (by simp)
  | cons tree trees ih =>
    cases h with
    | cons hdenotes hrest =>
      rcases List.mem_cons.mp hv with rfl | hv
      · exact ⟨tree, List.mem_cons_self, hdenotes⟩
      · obtain ⟨tree', htree', hdenotes'⟩ := ih hrest hv
        exact ⟨tree', List.mem_cons_of_mem tree htree', hdenotes'⟩

theorem MembersDenote.exists_of_mem {trees : List (List StringPart × Tree)} {written : List Member}
    (h : MembersDenote trees written) {m : Member} (hm : m ∈ written) :
    ∃ p ∈ trees, joinUnits p.1 = m.1 ∧ p.2.Denotes m.2 := by
  induction trees generalizing written with
  | nil =>
    cases h
    exact absurd hm (by simp)
  | cons p trees ih =>
    cases h with
    | cons hdenotes hrest =>
      rcases List.mem_cons.mp hm with rfl | hm
      · exact ⟨_, List.mem_cons_self, rfl, hdenotes⟩
      · obtain ⟨p', hp', h'⟩ := ih hrest hm
        exact ⟨p', List.mem_cons_of_mem _ hp', h'⟩

/-- A merged member was written. -/
theorem Merges.mem_of_mem {written members : List Member} (h : Merges written members) {m : Member}
    (hm : m ∈ members) : m ∈ written := by
  obtain ⟨before, after, rfl, -⟩ := h.last m hm
  simp

/-! ## Limits of parts -/

theorem levels_le_levelsOfTrees {trees : List Tree} {tree : Tree} (h : tree ∈ trees) :
    tree.levels ≤ levelsOfTrees trees := by
  induction trees with
  | nil => exact absurd h (by simp)
  | cons first trees ih =>
    rw [levelsOfTrees]
    rcases List.mem_cons.mp h with rfl | h
    · exact le_max_left _ _
    · exact (ih h).trans (le_max_right _ _)

theorem levels_le_levelsOfNamedTrees {members : List (List StringPart × Tree)}
    {m : List StringPart × Tree} (h : m ∈ members) :
    m.2.levels ≤ levelsOfNamedTrees members := by
  induction members with
  | nil => exact absurd h (by simp)
  | cons first members ih =>
    rw [levelsOfNamedTrees]
    rcases List.mem_cons.mp h with rfl | h
    · exact le_max_left _ _
    · exact (ih h).trans (le_max_right _ _)

theorem withinLimits_of_mem {trees : List Tree} (h : (Tree.array trees).WithinLimits) {tree : Tree}
    (htree : tree ∈ trees) : tree.WithinLimits := by
  rw [withinLimits_array] at h
  induction trees with
  | nil => exact absurd htree (by simp)
  | cons first trees ih =>
    simp only [numeralsOfItems, List.mem_append, or_imp, forall_and] at h
    rcases List.mem_cons.mp htree with rfl | htree
    · exact h.1
    · exact ih h.2 htree

theorem withinLimits_of_mem_members {members : List (List StringPart × Tree)}
    (h : (Tree.object members).WithinLimits) {m : List StringPart × Tree} (hm : m ∈ members) :
    m.2.WithinLimits := by
  rw [withinLimits_object] at h
  induction members with
  | nil => exact absurd hm (by simp)
  | cons first members ih =>
    simp only [numeralsOfMembers, List.mem_append, or_imp, forall_and] at h
    rcases List.mem_cons.mp hm with rfl | hm
    · exact h.1
    · exact ih h.2 hm

/-! ## What was read -/

/-- What holds of a value that a text of the grammar denotes. -/
structure ReadFrom (t : Text) (tree : Tree) (v : Value) : Prop where
  wellFormed : tree.WithinLimits → v.WellFormed
  levels_le : v.levels ≤ tree.levels
  not_holdsPair : Scalar t → ∀ s ∈ v.strings, ¬ HoldsPair s

/-- An integer in range has no more digits than allowed. -/
theorem natAbs_integer_lt {t : Text} {n : Numeral} (h : NumberText t n) (hint : n.IsInteger)
    (hrange : n.InRange) : n.integer.natAbs < 10 ^ maxIntegerDigits := by
  rw [Numeral.InRange, if_pos hint] at hrange
  have hdigits : ∀ c ∈ n.whole, c.isDigit := by
    cases h with
    | mk hwhole => exact hwhole.digits.2
  have hvalue : n.integer.natAbs = Text.digitsValue n.whole := by
    unfold Numeral.integer
    split <;> simp
  calc n.integer.natAbs = Text.digitsValue n.whole := hvalue
    _ < 10 ^ n.whole.length := Text.digitsValue_lt hdigits
    _ ≤ 10 ^ maxIntegerDigits := Nat.pow_le_pow_right (by norm_num) hrange

/-- An array is read if its items are read from parts of the text. -/
theorem ReadFrom.array {t : Text} {trees : List Tree} {values : List Value}
    (hparts : ∀ v ∈ values, ∃ t' tree, t' ⊆ t ∧ tree ∈ trees ∧ ReadFrom t' tree v) :
    ReadFrom t (.array trees) (.array values) := by
  refine ⟨fun hlimits => ?_, ?_, fun hscalar s hs => ?_⟩
  · rw [Value.WellFormed]
    refine wellFormedItems_of_forall fun v hv => ?_
    obtain ⟨t', tree, -, htree, hread⟩ := hparts v hv
    exact hread.wellFormed (withinLimits_of_mem hlimits htree)
  · rw [Value.levels, Tree.levels, Nat.add_le_add_iff_right]
    refine levelsOfItems_le_iff.mpr fun v hv => ?_
    obtain ⟨t', tree, -, htree, hread⟩ := hparts v hv
    exact hread.levels_le.trans (levels_le_levelsOfTrees htree)
  · rw [Value.strings] at hs
    obtain ⟨v, hv, hs⟩ := mem_stringsOfItems.mp hs
    obtain ⟨t', tree, hsub, -, hread⟩ := hparts v hv
    exact hread.not_holdsPair (fun c hc => hscalar c (hsub hc)) s hs

/-- An object is read if its names and values are read from parts of the text, and no name comes
twice. -/
theorem ReadFrom.object {t : Text} {trees : List (List StringPart × Tree)} {members : List Member}
    (hnodup : (namesOf members).Nodup)
    (hparts : ∀ m ∈ members, ∃ k t' p, k ⊆ t ∧ PartsText k p.1 ∧ joinUnits p.1 = m.1 ∧
      t' ⊆ t ∧ p ∈ trees ∧ ReadFrom t' p.2 m.2) :
    ReadFrom t (.object trees) (.object members) := by
  refine ⟨fun hlimits => ?_, ?_, fun hscalar s hs => ?_⟩
  · rw [Value.WellFormed]
    refine ⟨hnodup, wellFormedMembers_of_forall fun m hm => ?_⟩
    obtain ⟨k, t', p, -, -, -, -, hp, hread⟩ := hparts m hm
    exact hread.wellFormed (withinLimits_of_mem_members hlimits hp)
  · rw [Value.levels, Tree.levels, Nat.add_le_add_iff_right]
    refine levelsOfMembers_le_iff.mpr fun m hm => ?_
    obtain ⟨k, t', p, -, -, -, -, hp, hread⟩ := hparts m hm
    exact hread.levels_le.trans (levels_le_levelsOfNamedTrees hp)
  · rw [Value.strings] at hs
    obtain ⟨m, hm, hs⟩ := mem_stringsOfMembers.mp hs
    obtain ⟨k, t', p, hk, hname, hjoin, hsub, -, hread⟩ := hparts m hm
    rcases hs with rfl | hs
    · rw [← hjoin]
      refine not_holdsPair_joinUnits fun c hc => hname.not_surrogate ?_ hc
      exact fun d hd => hscalar d (hk hd)
    · exact hread.not_holdsPair (fun c hc => hscalar c (hsub hc)) s hs

/-- **What a text of the grammar denotes can be written again.** -/
theorem ValueText.readFrom {t : Text} {tree : Tree} {v : Value} (ht : ValueText t tree)
    (hv : tree.Denotes v) : ReadFrom t tree v := by
  induction tree using Tree.induction generalizing t v with
  | null =>
    cases hv
    exact ⟨fun _ => trivial, le_rfl, by simp [Value.strings]⟩
  | bool b =>
    cases hv
    exact ⟨fun _ => trivial, le_rfl, by simp [Value.strings]⟩
  | number n =>
    cases ht with
    | number hn =>
      cases hv with
      | number hv =>
        cases hv with
        | int hint =>
          refine ⟨fun h => ?_, le_rfl, by simp [Value.strings]⟩
          rw [Value.WellFormed]
          exact natAbs_integer_lt hn hint (h n (by simp [Tree.numerals]))
        | float => exact ⟨fun _ => rfl, le_rfl, by simp [Value.strings]⟩
  | string parts =>
    cases ht with
    | @string t _ hparts =>
      cases hv
      refine ⟨fun _ => trivial, le_rfl, fun hscalar s hs => ?_⟩
      rw [Value.strings, List.mem_singleton] at hs
      rw [hs]
      refine not_holdsPair_joinUnits fun c hc => hparts.not_surrogate ?_ hc
      exact fun d hd => hscalar d (by simp [hd])
  | array trees ih =>
    cases hv with
    | @array _ values hdenote =>
      refine .array fun v hv => ?_
      obtain ⟨tree, htree, hdenotes⟩ := hdenote.exists_of_mem hv
      cases ht with
      | emptyArray => exact absurd htree (by simp)
      | @array t _ hitems =>
        obtain ⟨t', hsub, ht'⟩ := hitems.exists_of_mem htree
        exact ⟨t', tree, fun c hc => by simp [hsub hc], htree, ih tree htree ht' hdenotes⟩
  | object trees ih =>
    cases hv with
    | @object _ written members hdenote hmerges =>
      have hnodup : (namesOf members).Nodup := by
        rw [hmerges.unique (merges_membersOf written)]
        exact nodup_namesOf_membersOf written
      refine .object hnodup fun m hm => ?_
      obtain ⟨p, hp, hname, hdenotes⟩ := hdenote.exists_of_mem (hmerges.mem_of_mem hm)
      cases ht with
      | emptyObject => exact absurd hp (by simp)
      | @object t _ hmembers =>
        obtain ⟨t', hsub, hmember⟩ := hmembers.exists_of_mem hp
        obtain ⟨k, t'', hk, hname', ht'', hvalue⟩ := hmember.exists_parts
        exact ⟨k, t'', p, fun c hc => by simp [hsub (hk hc)], hname', hname,
          fun c hc => by simp [hsub (ht'' hc)], hp, ih p hp hvalue hdenotes⟩

/-- **What is read can be written again**, and has no halves of a pair side by side if the text has
no surrogates. -/
theorem wellFormed_of_parseWithin {levels : ℕ} {text : Text} {v : Value}
    (h : parseWithin levels text = .ok v) :
    v.WellFormed ∧ v.levels ≤ levels ∧ (Scalar text → ∀ s ∈ v.strings, ¬ HoldsPair s) := by
  obtain ⟨tree, htext, hvalue⟩ := parseWithin_sound h
  obtain ⟨hlevels, hlimits, hdenotes⟩ := (tree.value?_eq_some_iff levels v).mp hvalue
  cases htext with
  | @mk w t w' _ hw ht hw' =>
    have hread := ht.readFrom hdenotes
    refine ⟨hread.wellFormed hlimits, hread.levels_le.trans hlevels, fun hscalar => ?_⟩
    exact hread.not_holdsPair fun c hc => hscalar c (by simp [hc])

end StructuredText.Json
