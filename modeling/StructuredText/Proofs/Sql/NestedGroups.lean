/-
# Groups inside of groups

A group ends at the next closing parenthesis, whichever opening one belongs to it.  So of a pair of
parentheses with others inside only a part is ever read as a group, and line ends behind an inner
closing parenthesis are left where they are, however short the inside of the pair is.

* `openGroup_append_eq_some` and `openGroup_opening_eq_none` tell where an open group began, and
  why none is open;
* `length_joinBreaks_le` says that a part of a text does not come out longer than the text;
* `feed_in_short_interior` finds all the line ends that are left in a short pair.
-/
import Mathlib
import StructuredText.Proofs.Sql.Groups

namespace StructuredText.Sql

open Text CodePoint

/-! ## Where groups begin -/

/-- The part of a text in front of its first closing parenthesis. -/
def upToClosing (t : Text) : Text := t.takeWhile fun (c : CodePoint) => c != ')'

theorem closing_not_mem_upToClosing (t : Text) : ofChar ')' ∉ upToClosing t := fun h => by
  simpa using List.mem_takeWhile_imp h

/-- Up to the first closing parenthesis a text does not matter behind it. -/
theorem exists_upToClosing (t after : Text) :
    ∃ rest, t ++ ofChar ')' :: after = upToClosing t ++ ofChar ')' :: rest := by
  by_cases ht : ofChar ')' ∈ t
  · obtain ⟨front, back, rfl, hfront⟩ := List.eq_append_cons_of_mem ht
    refine ⟨back ++ ofChar ')' :: after, ?_⟩
    rw [upToClosing, takeWhile_ne_append hfront, List.append_assoc, List.cons_append]
  · exact ⟨after, by rw [upToClosing, takeWhile_ne_eq_self ht]⟩

/-- An open group was open already, or an opening parenthesis further on began it. -/
theorem openGroup_append_eq_some {s t inside : Text} (h : openGroup (s ++ t) = some inside) :
    (∃ front, openGroup s = some front ∧ ofChar ')' ∉ t ∧ inside = front ++ t) ∨
      ∃ front, t = front ++ ofChar '(' :: inside := by
  induction t using List.reverseRecOn generalizing inside with
  | nil => exact Or.inl ⟨inside, by simpa using h, List.not_mem_nil, by simp⟩
  | append_singleton t c ih =>
    rw [← List.append_assoc, openGroup_concat] at h
    cases hopen : openGroup (s ++ t) with
    | none =>
      rw [hopen, nextInGroup] at h
      split at h
      · next hc =>
        rw [← Option.some.inj h, hc]
        exact Or.inr ⟨t, rfl⟩
      · exact absurd h (by simp)
    | some sofar =>
      rw [hopen, nextInGroup] at h
      split at h
      · exact absurd h (by simp)
      · next hc =>
        rw [← Option.some.inj h]
        rcases ih hopen with ⟨front, hs, ht, rfl⟩ | ⟨front, rfl⟩
        · exact Or.inl ⟨front, hs, by simpa using ⟨ht, Ne.symm hc⟩, by simp⟩
        · exact Or.inr ⟨front, by simp⟩

/-- If no group is open any more behind an opening parenthesis, then a closing one came and no
other opening one after it. -/
theorem openGroup_opening_eq_none {s t : Text} (h : openGroup (s ++ ofChar '(' :: t) = none) :
    ∃ front back, t = front ++ ofChar ')' :: back ∧ ofChar '(' ∉ back := by
  induction t using List.reverseRecOn with
  | nil =>
    rw [openGroup_concat] at h
    cases hopen : openGroup s with
    | none => exact absurd (hopen ▸ h) (by simp [nextInGroup])
    | some sofar =>
      rw [hopen, nextInGroup, if_neg (by decide)] at h
      exact absurd h (by simp)
  | append_singleton t c ih =>
    rw [← List.cons_append, ← List.append_assoc, openGroup_concat] at h
    cases hopen : openGroup (s ++ ofChar '(' :: t) with
    | none =>
      rw [hopen, nextInGroup] at h
      obtain ⟨front, back, rfl, hback⟩ := ih hopen
      refine ⟨front, back ++ [c], by simp, ?_⟩
      rw [List.mem_append, List.mem_singleton, not_or]
      exact ⟨hback, fun hc => absurd h (by simp [← hc])⟩
    | some sofar =>
      rw [hopen, nextInGroup] at h
      split at h
      · next hc => exact ⟨t, [], by rw [hc], List.not_mem_nil⟩
      · exact absurd h (by simp)

/-! ## Parts of a text -/

/-- A visible end of a text parts it from what follows. -/
theorem joinBreaks_append_of_getLast? {s : Text} (hs : ∀ c, s.getLast? = some c → ¬ c.isBlank)
    (t : Text) : joinBreaks (s ++ t) = joinBreaks s ++ joinBreaks t := by
  rcases List.eq_nil_or_concat s with rfl | ⟨front, c, rfl⟩
  · rfl
  · rw [List.concat_eq_append] at hs ⊢
    have hc := hs c List.getLast?_concat
    rw [joinBreaks_concat hc, List.append_assoc, List.append_assoc]
    exact joinBreaks_append_cons hc front t

theorem joinBreaks_append_of_head? (s : Text) {t : Text}
    (ht : ∀ c, t.head? = some c → ¬ c.isBlank) :
    joinBreaks (s ++ t) = joinBreaks s ++ joinBreaks t := by
  cases t with
  | nil => simp
  | cons c t =>
    have hc := ht c rfl
    rw [joinBreaks_append_cons hc, joinBreaks_cons hc]

/-- A trimmed part of a text does not come out longer than the text. -/
theorem length_joinBreaks_le {s : Text} (hs : s.trim = s) (hne : s ≠ []) (front back : Text) :
    (joinBreaks s).length ≤ (joinBreaks (front ++ s ++ back)).length := by
  rw [trim_eq_self_iff] at hs
  have hhead : ∀ c, (s ++ back).head? = some c → ¬ c.isBlank := by
    obtain ⟨d, s, rfl⟩ := List.exists_cons_of_ne_nil hne
    exact hs.1
  rw [List.append_assoc, joinBreaks_append_of_head? front hhead, joinBreaks_append_of_getLast? hs.2,
    List.length_append, List.length_append]
  omega

/-- The inside of a group that lies in a short text is short itself. -/
theorem length_joinBreaks_innerText_lt {inside t : Text} (h : inside <:+: t)
    (hshort : (joinBreaks t.trim).length < maxGroup) :
    (joinBreaks (innerText inside)).length < maxGroup := by
  by_cases hblank : inside.isBlank
  · exact (length_joinBreaks_innerText_le_one hblank).trans_lt (by decide)
  · have hinner : innerText inside = inside.trim := if_neg hblank
    obtain ⟨w, w', hw, hw', hinside⟩ := exists_trim inside
    have hne : inside.trim ≠ [] := by
      intro hnil
      rw [hnil, List.append_nil] at hinside
      exact hblank (by rw [hinside, isBlank_append, hw, hw', Bool.and_self])
    obtain ⟨front, back, ht⟩ := h
    have hparts : t = front ++ w ++ inside.trim ++ (w' ++ back) := by
      rw [← ht]
      conv_lhs => rw [hinside]
      simp only [List.append_assoc]
    rw [hinner]
    refine lt_of_le_of_lt ?_ hshort
    rw [hparts, trim_append_append (trim_trim inside) hne]
    exact length_joinBreaks_le (trim_trim inside) hne _ _

/-! ## Pairs of parentheses -/

/-- Every parenthesis belongs to another one. -/
inductive Balanced : Text → Prop
  | nil : Balanced []
  | other {c : CodePoint} {t : Text} (hopening : c ≠ ofChar '(') (hclosing : c ≠ ofChar ')')
      (h : Balanced t) : Balanced (c :: t)
  | pair {interior t : Text} (hinterior : Balanced interior) (h : Balanced t) :
      Balanced (ofChar '(' :: (interior ++ ofChar ')' :: t))

/-- The last parenthesis of a text is a closing one. -/
def BehindClosing (t : Text) : Prop :=
  ∃ front back : Text, t = front ++ ofChar ')' :: back ∧ ofChar '(' ∉ back

/-- A line end between two parts of the inside of a pair lies in a group that was open in front of
the pair, and that is too long for one line. -/
def InLongGroup (before x y : Text) : Prop :=
  ∃ inside, openGroup before = some inside ∧ ofChar ')' ∉ x ∧
    maxGroup ≤ (joinBreaks (innerText
      (inside ++ ofChar '(' :: (x ++ ofChar '\n' :: upToClosing y)))).length

section Pairs

variable {t before interior after : Text}
  (h : compactParentheses t = before ++ ofChar '(' :: (interior ++ ofChar ')' :: after))
  (hshort : (joinBreaks interior.trim).length < maxGroup)
include h hshort

theorem behindClosing_or_inLongGroup {x y : Text} (hfeed : interior = x ++ ofChar '\n' :: y) :
    BehindClosing x ∨ InLongGroup before x y := by
  subst hfeed
  cases hopen : openGroup (before ++ ofChar '(' :: x) with
  | none => exact Or.inl (openGroup_opening_eq_none hopen)
  | some inside =>
    -- The group goes on up to the next closing parenthesis, and a line ends in it.
    obtain ⟨rest, hrest⟩ := exists_upToClosing y after
    have hgroup : IsGroup (compactParentheses t) (inside ++ ofChar '\n' :: upToClosing y) := by
      refine ⟨before ++ ofChar '(' :: x ++ ofChar '\n' :: upToClosing y, rest, ?_, ?_⟩
      · rw [h]
        simp [hrest]
      · refine openGroup_append hopen ?_
        rw [List.mem_cons, not_or]
        exact ⟨by decide, closing_not_mem_upToClosing y⟩
    have hlong := (feed_not_mem_or_long_of_isGroup t hgroup).resolve_left (by simp)
    rcases openGroup_append_eq_some hopen with ⟨front, hfront, hx, rfl⟩ | ⟨front, hfront⟩
    · rw [List.mem_cons, not_or] at hx
      refine Or.inr ⟨front, hfront, hx.2, ?_⟩
      rwa [List.append_assoc, List.cons_append] at hlong
    · -- A group that began in the pair is no longer than the inside of the pair.
      have hsuffix : inside <:+ x := by
        cases front with
        | nil => exact (List.cons.inj hfront).2 ▸ List.suffix_rfl
        | cons c front =>
          exact ⟨front ++ [ofChar '('], by simpa using (List.cons.inj hfront).2.symm⟩
      obtain ⟨start, rfl⟩ := hsuffix
      have hpart : inside ++ ofChar '\n' :: upToClosing y <:+:
          start ++ inside ++ ofChar '\n' :: y := by
        refine ⟨start, y.dropWhile fun (c : CodePoint) => c != ofChar ')', ?_⟩
        simp [upToClosing]
      exact absurd (length_joinBreaks_innerText_lt hpart hshort) (not_lt.mpr hlong)

/-- **Line ends in a short pair.**  If the text between two parentheses of the outcome would fit on
one line, then a line still ends in it for one of two reasons only: the last parenthesis in front of
the place closes a group inside of the pair, or the place lies in a group that was open in front of
the pair and is too long for one line.  So a short pair with no parenthesis in it that is in no open
group is on one line. -/
theorem feed_in_short_interior :
    (∀ x y, interior = x ++ ofChar '\n' :: y → BehindClosing x ∨ InLongGroup before x y) ∧
      (ofChar ')' ∉ interior → openGroup before = none → ofChar '\n' ∉ interior) := by
  refine ⟨fun x y => behindClosing_or_inLongGroup h hshort, fun hclosing hclosed hfeed => ?_⟩
  obtain ⟨x, y, hinterior⟩ := List.append_of_mem hfeed
  rcases behindClosing_or_inLongGroup h hshort hinterior with
    ⟨front, back, rfl, -⟩ | ⟨inside, hopen, -⟩
  · exact hclosing (by simp [hinterior])
  · exact absurd (hopen.symm.trans hclosed) (by simp)

end Pairs

theorem feed_in_short_interior_nested :
    compactParentheses "((b)\nc)" = [] ++ ofChar '(' :: (("(b)\nc" : Text) ++ ofChar ')' :: []) ∧
      (joinBreaks (trim "(b)\nc")).length < maxGroup ∧
      (BehindClosing "(b)" ∨ InLongGroup [] "(b)" "c") := by
  have h : compactParentheses "((b)\nc)" =
      [] ++ ofChar '(' :: (("(b)\nc" : Text) ++ ofChar ')' :: []) := by decide
  have hshort : (joinBreaks (trim "(b)\nc")).length < maxGroup := by decide
  exact ⟨h, hshort, (feed_in_short_interior h hshort).1 "(b)" "c" rfl⟩

/-- Not every short pair is on one line, even if all parentheses belong together: the group inside
ends what was read as one group. -/
theorem feed_in_short_interior_left :
    Balanced "((b)\nc)" ∧ Balanced "(b)\nc" ∧
      compactParentheses "((b)\nc)" =
        [] ++ ofChar '(' :: (("(b)\nc" : Text) ++ ofChar ')' :: []) ∧
      (joinBreaks (trim "(b)\nc")).length < maxGroup ∧
      ofChar '\n' ∈ ("(b)\nc" : Text) := by
  have hinner : Balanced "(b)\nc" :=
    .pair (.other (by decide) (by decide) .nil)
      (.other (by decide) (by decide) (.other (by decide) (by decide) .nil))
  exact ⟨.pair hinner .nil, hinner, by decide, by decide, by decide⟩

end StructuredText.Sql
