/-
# Groups on one line

A group begins at the first opening parenthesis after the end of the one before, and ends at the
next closing one, so a text is read from left to right and no closing parenthesis is passed over.

* `openGroup` is the inside, so far, of the group that is open after a text, and `IsGroup` says
  which groups are found in a text;
* `joinGroups_joinGroups` and `onOneLine_of_isGroup`: the pass leaves its own outcome alone, as a
  whole and group by group;
* `compactParentheses_compactParentheses` says that one run reaches a normal form, and which.
-/
import Mathlib
import StructuredText.Proofs.Sql.Breaks

namespace StructuredText.Sql

open Text CodePoint Relation

/-! ## Reading groups -/

/-- One more code point, in a group with an inside so far or in none. -/
def nextInGroup : Option Text → CodePoint → Option Text
  | none, c => if c = '(' then some [] else none
  | some inside, c => if c = ')' then none else some (inside ++ [c])

/-- The inside, so far, of the group that is open after a text. -/
def openGroup (t : Text) : Option Text := t.foldl nextInGroup none

/-- A closing parenthesis ends a group with a given inside. -/
def IsGroup (t inside : Text) : Prop :=
  ∃ before after : Text, t = before ++ ofChar ')' :: after ∧ openGroup before = some inside

theorem openGroup_concat (t : Text) (c : CodePoint) :
    openGroup (t ++ [c]) = nextInGroup (openGroup t) c := by
  rw [openGroup, List.foldl_append]
  rfl

/-- After a closing parenthesis no group is open, and reading starts over. -/
theorem openGroup_append_closing (s t : Text) :
    openGroup (s ++ ofChar ')' :: t) = openGroup t := by
  have hclosed : nextInGroup (openGroup s) (ofChar ')') = none := by
    cases openGroup s <;> rfl
  unfold openGroup at hclosed ⊢
  rw [List.foldl_append, List.foldl_cons, hclosed]

theorem openGroup_of_not_mem {t : Text} (ht : ofChar '(' ∉ t) : openGroup t = none := by
  induction t using List.reverseRecOn with
  | nil => rfl
  | append_singleton t c ih =>
    rw [List.mem_append, List.mem_singleton, not_or] at ht
    rw [openGroup_concat, ih ht.1]
    exact if_neg (Ne.symm ht.2)

/-- An open group goes on up to a closing parenthesis. -/
theorem openGroup_append {s inside : Text} (hs : openGroup s = some inside) {t : Text}
    (ht : ofChar ')' ∉ t) : openGroup (s ++ t) = some (inside ++ t) := by
  induction t using List.reverseRecOn with
  | nil => rw [List.append_nil, List.append_nil, hs]
  | append_singleton t c ih =>
    rw [List.mem_append, List.mem_singleton, not_or] at ht
    rw [← List.append_assoc, openGroup_concat, ih ht.1, ← List.append_assoc]
    exact if_neg (Ne.symm ht.2)

/-- The first opening parenthesis opens a group. -/
theorem openGroup_append_opening {before inside : Text} (hbefore : ofChar '(' ∉ before)
    (hinside : ofChar ')' ∉ inside) :
    openGroup (before ++ ofChar '(' :: inside) = some inside := by
  have hopen : openGroup (before ++ [ofChar '(']) = some [] := by
    rw [openGroup_concat, openGroup_of_not_mem hbefore]
    rfl
  simpa using openGroup_append hopen hinside

example : openGroup "f() g((b" = some "(b" := by decide

theorem not_isGroup_of_not_mem {t inside : Text} (ht : ofChar ')' ∉ t) : ¬ IsGroup t inside := by
  rintro ⟨before, after, rfl, -⟩
  exact ht (by simp)

/-- The groups up to the first closing parenthesis and behind it. -/
theorem isGroup_append_closing {p rest inside : Text} (hp : ofChar ')' ∉ p) :
    IsGroup (p ++ ofChar ')' :: rest) inside ↔ openGroup p = some inside ∨ IsGroup rest inside := by
  constructor
  · rintro ⟨before, after, h, hopen⟩
    rcases List.append_eq_append_iff.mp h with ⟨more, rfl, hmore⟩ | ⟨more, rfl, hmore⟩
    · cases more with
      | nil => exact Or.inl (by simpa using hopen)
      | cons d more =>
        obtain ⟨rfl, rfl⟩ := List.cons.inj hmore
        exact Or.inr ⟨more, after, rfl, by rwa [openGroup_append_closing] at hopen⟩
    · cases more with
      | nil => exact Or.inl (by simpa using hopen)
      | cons d more =>
        obtain ⟨rfl, -⟩ := List.cons.inj hmore
        exact absurd (by simp) hp
  · rintro (hopen | ⟨before, after, rfl, hopen⟩)
    · exact ⟨p, rest, rfl, hopen⟩
    · exact ⟨p ++ ofChar ')' :: before, after, by simp, by rwa [openGroup_append_closing]⟩

/-! ## One group -/

/-- No visible code point is lost or added. -/
theorem visible_joinGroup (p : Text) : visible (joinGroup p) = visible p := by
  have h := (respaces_joinGroup p []).respaced.visible_eq
  rw [visible_append, visible_append] at h
  exact List.append_cancel_right h

theorem mem_visible {c : CodePoint} (hc : ¬ c.isBlank) {t : Text} : c ∈ visible t ↔ c ∈ t := by
  rw [visible, List.mem_filter, and_iff_left (by simpa using hc)]

theorem closing_not_mem_joinGroup {p : Text} (hp : ofChar ')' ∉ p) :
    ofChar ')' ∉ joinGroup p := by
  rwa [← mem_visible (by decide), visible_joinGroup, mem_visible (by decide)]

theorem joinGroup_joinGroup (p : Text) : joinGroup (joinGroup p) = joinGroup p := by
  by_cases hp : ofChar '(' ∈ p
  · obtain ⟨before, inside, rfl, hbefore⟩ := List.eq_append_cons_of_mem hp
    rw [joinGroup_append hbefore, joinGroup_append hbefore, onOneLine_onOneLine]
  · rw [joinGroup_of_not_mem hp, joinGroup_of_not_mem hp]

/-- The group that is open in front of a closing parenthesis is left alone by a second pass. -/
theorem onOneLine_of_openGroup_joinGroup {p inside : Text} (hp : ofChar ')' ∉ p)
    (h : openGroup (joinGroup p) = some inside) : onOneLine inside = inside := by
  by_cases hopening : ofChar '(' ∈ p
  · obtain ⟨before, inside₀, rfl, hbefore⟩ := List.eq_append_cons_of_mem hopening
    have hclosing := closing_not_mem_joinGroup hp
    rw [joinGroup_append hbefore] at h hclosing
    rw [List.mem_append, List.mem_cons, not_or, not_or] at hclosing
    rw [openGroup_append_opening hbefore hclosing.2.2] at h
    rw [← Option.some.inj h, onOneLine_onOneLine]
  · rw [joinGroup_of_not_mem hopening, openGroup_of_not_mem hopening] at h
    exact absurd h (by simp)

/-! ## Every group -/

@[simp] theorem joinGroups_joinGroups (t : Text) : joinGroups (joinGroups t) = joinGroups t := by
  induction t using cut_induction (ofChar ')') with
  | last t ht => rw [joinGroups_of_not_mem ht, joinGroups_of_not_mem ht]
  | cut p rest hp ih =>
    rw [joinGroups_append hp, joinGroups_append (closing_not_mem_joinGroup hp), ih,
      joinGroup_joinGroup]

/-- Every group of what the pass gives is left alone by a second pass. -/
theorem onOneLine_of_isGroup {t inside : Text} (h : IsGroup (joinGroups t) inside) :
    onOneLine inside = inside := by
  induction t using cut_induction (ofChar ')') with
  | last t ht =>
    rw [joinGroups_of_not_mem ht] at h
    exact absurd h (not_isGroup_of_not_mem ht)
  | cut p rest hp ih =>
    rw [joinGroups_append hp, isGroup_append_closing (closing_not_mem_joinGroup hp)] at h
    rcases h with hopen | hrest
    · exact onOneLine_of_openGroup_joinGroup hp hopen
    · exact ih hrest

/-! ## Parentheses compacted -/

section Compacted

variable (t : Text)

/-- What the later passes do brings up no break after an opening parenthesis. -/
theorem not_breakAfter_compactParentheses : ¬ BreakAfter (ofChar '(') (compactParentheses t) :=
  fun h => not_breakAfter_joinAfterOpening t (Respaces.breakAfter (by decide)
    ((respaces_joinBeforeClosing _).trans (respaces_joinGroups _)) h)

theorem not_breakBefore_compactParentheses : ¬ BreakBefore (ofChar ')') (compactParentheses t) :=
  fun h => not_breakBefore_joinBeforeClosing (joinAfterOpening t)
    (Respaces.breakBefore (by decide) (respaces_joinGroups _) h)

/-- A line ends in a group that was found only if it is too long for one line. -/
theorem feed_not_mem_or_long_of_isGroup {inside : Text}
    (h : IsGroup (compactParentheses t) inside) :
    ofChar '\n' ∉ inside ∨ maxGroup ≤ (joinBreaks (innerText inside)).length :=
  feed_not_mem_or_long (onOneLine_of_isGroup h)

/-- **One run reaches a normal form.**  Compacting the parentheses a second time changes nothing.
In the outcome there is no break after an opening parenthesis and none before a closing one, and a
line ends in a group only if the group is too long for one line. -/
theorem compactParentheses_compactParentheses :
    compactParentheses (compactParentheses t) = compactParentheses t ∧
      ¬ BreakAfter (ofChar '(') (compactParentheses t) ∧
      ¬ BreakBefore (ofChar ')') (compactParentheses t) ∧
      ∀ inside, IsGroup (compactParentheses t) inside →
        ofChar '\n' ∉ inside ∨ maxGroup ≤ (joinBreaks (innerText inside)).length := by
  have hopening := not_breakAfter_compactParentheses t
  have hclosing := not_breakBefore_compactParentheses t
  refine ⟨?_, hopening, hclosing, fun inside => feed_not_mem_or_long_of_isGroup t⟩
  conv_lhs => rw [compactParentheses, joinAfterOpening_eq_self_iff.mpr hopening,
    joinBeforeClosing_eq_self_iff.mpr hclosing]
  exact joinGroups_joinGroups _

end Compacted

end StructuredText.Sql
