/-
# The passes over parentheses

Each pass is a fold or works on pieces of a text.  Here it is told how each goes on from one place
of the text to the next, and what it leaves alone.

* `dropBreaksAfter_cons` and `joinBeforeClosing_concat`: one code point more for the passes that
  drop breaks, the first from the front and the other from the end;
* `joinBreaks_append_cons` and `joinBreaks_of_isBlank` say all about the space for a break;
* `joinGroup_append` and `joinGroups_append` take the pass over groups apart at the parentheses,
  `onOneLine` is what becomes of the inside of a group.
-/
import Mathlib
import StructuredText.Proofs.Text.Lines
import StructuredText.Proofs.Text.Trimming
import StructuredText.Sql.Parentheses

namespace StructuredText.Sql

open Text CodePoint

/-! ## Dropping breaks -/

theorem startsWithBreak_iff {t : Text} :
    startsWithBreak t ↔ ∃ w after : Text, t = w ++ after ∧ w.isBlank ∧ ofChar '\n' ∈ w := by
  rw [startsWithBreak, List.contains_iff_mem]
  constructor
  · intro h
    exact ⟨_, _, List.takeWhile_append_dropWhile.symm, List.all_takeWhile, h⟩
  · rintro ⟨w, after, rfl, hw, h⟩
    rw [List.takeWhile_append_of_pos fun _ => isBlank_of_mem hw]
    exact List.mem_append_left _ h

theorem dropBreak_suffix (t : Text) : dropBreak t <:+ t := by
  unfold dropBreak
  split
  · exact List.dropWhile_suffix _
  · exact List.suffix_refl t

theorem dropBreak_eq_self {t : Text} (h : ¬ startsWithBreak t) : dropBreak t = t := if_neg h

/-- After a break was dropped, none is left at its place. -/
theorem not_startsWithBreak_dropBreak (t : Text) : ¬ startsWithBreak (dropBreak t) := by
  unfold dropBreak
  split
  · -- What is left begins with no blank at all.
    rw [startsWithBreak_iff]
    rintro ⟨w, after, h, hw, hfeed⟩
    obtain ⟨c, w, rfl⟩ := List.exists_cons_of_ne_nil (List.ne_nil_of_mem hfeed)
    rw [isBlank_cons, Bool.and_eq_true] at hw
    exact not_isBlank_of_trimStart h hw.1
  · assumption

/-- The text without the breaks that follow a code point. -/
def dropBreaksAfter (x : CodePoint) (t : Text) : Text :=
  t.foldr (fun (c : CodePoint) rest => if c = x then c :: dropBreak rest else c :: rest) []

theorem dropBreaksAfter_cons (x c : CodePoint) (t : Text) :
    dropBreaksAfter x (c :: t) =
      if c = x then c :: dropBreak (dropBreaksAfter x t) else c :: dropBreaksAfter x t :=
  rfl

theorem dropBreaksAfter_sublist (x : CodePoint) (t : Text) : (dropBreaksAfter x t).Sublist t := by
  induction t with
  | nil => exact .refl _
  | cons c t ih =>
    rw [dropBreaksAfter_cons]
    split
    · exact ((dropBreak_suffix _).sublist.trans ih).cons_cons c
    · exact ih.cons_cons c

/-- Dropping a break takes blanks off the front, or nothing. -/
theorem exists_dropBreak (t : Text) : ∃ w : Text, w.isBlank ∧ t = w ++ dropBreak t := by
  unfold dropBreak
  split
  · exact exists_trimStart t
  · exact ⟨[], rfl, rfl⟩

theorem joinAfterOpening_eq (t : Text) : joinAfterOpening t = dropBreaksAfter (ofChar '(') t := rfl

/-- The other pass does the same from the end. -/
theorem joinBeforeClosing_eq (t : Text) :
    joinBeforeClosing t = (dropBreaksAfter (ofChar ')') t.reverse).reverse := by
  rw [dropBreaksAfter, List.foldr_reverse]
  rfl

theorem joinBeforeClosing_concat (t : Text) (c : CodePoint) :
    joinBeforeClosing (t ++ [c]) =
      if c = ofChar ')' then (dropBreak (joinBeforeClosing t).reverse).reverse ++ [c]
      else joinBeforeClosing t ++ [c] := by
  rw [joinBeforeClosing_eq, joinBeforeClosing_eq, List.reverse_concat, dropBreaksAfter_cons,
    List.reverse_reverse]
  split <;> rw [List.reverse_cons]

/-! ## A space for each break -/

/-- Blanks as they are, or one space if a line ends in them. -/
def squeezed (w : Text) : Text := if ofChar '\n' ∈ w then [ofChar ' '] else w

theorem feed_not_mem_squeezed (w : Text) : ofChar '\n' ∉ squeezed w := by
  unfold squeezed
  split
  · decide
  · assumption

theorem length_squeezed_le (w : Text) : (squeezed w).length ≤ w.length := by
  unfold squeezed
  split
  · next hfeed => exact List.length_pos_of_mem hfeed
  · exact le_rfl

theorem isBlank_squeezed {w : Text} (hw : w.isBlank) : (squeezed w).isBlank := by
  unfold squeezed
  split
  · decide
  · exact hw

theorem squeezed_reverse (w : Text) : squeezed w.reverse = (squeezed w).reverse := by
  unfold squeezed
  by_cases hfeed : ofChar '\n' ∈ w
  · rw [if_pos (List.mem_reverse.mpr hfeed), if_pos hfeed]
    rfl
  · rw [if_neg fun h => hfeed (List.mem_reverse.mp h), if_neg hfeed]

/-- The text with a space for each break, where some blanks were read before. -/
def squeezedFrom (w : Text) : Text → Text
  | [] => squeezed w
  | c :: t => if c.isBlank then squeezedFrom (w ++ [c]) t else squeezed w ++ c :: squeezedFrom [] t

/-- Blanks in front of what is no blank, in reverse. -/
theorem spaceForBreak_append {w front : Text} (hw : w.isBlank)
    (hfront : ∀ c, front.head? = some c → ¬ c.isBlank) :
    spaceForBreak (w ++ front) = squeezed w ++ front := by
  have htake : (w ++ front).takeWhile CodePoint.isBlank = w := by
    rw [List.takeWhile_append_of_pos fun _ => isBlank_of_mem hw]
    cases front with
    | nil => simp
    | cons c front => rw [List.takeWhile_cons_of_neg (hfront c rfl), List.append_nil]
  have htrim : (w ++ front).trimStart = front := by
    rw [trimStart_append_of_isBlank hw]
    exact trimStart_eq_self_iff.mpr hfront
  unfold spaceForBreak startsWithBreak squeezed
  rw [htake, htrim]
  by_cases hfeed : ofChar '\n' ∈ w
  · rw [if_pos (List.contains_iff_mem.mpr hfeed), if_pos hfeed]
    rfl
  · rw [if_neg (by simpa using hfeed), if_neg hfeed]

/-- Reading from left to right with the blanks read last put apart. -/
theorem joinBreaks_eq (t : Text) : joinBreaks t = squeezedFrom [] t := by
  have hread (front w : Text) (hw : w.isBlank)
      (hfront : ∀ c, front.head? = some c → ¬ c.isBlank) :
      (spaceForBreak (t.foldl (fun before (c : CodePoint) =>
        if c.isBlank then c :: before else c :: spaceForBreak before)
          (w.reverse ++ front))).reverse = front.reverse ++ squeezedFrom w t := by
    induction t generalizing front w with
    | nil =>
      rw [List.foldl_nil, spaceForBreak_append (by rwa [isBlank_reverse]) hfront,
        squeezed_reverse, List.reverse_append, List.reverse_reverse]
      rfl
    | cons c t ih =>
      rw [List.foldl_cons, squeezedFrom]
      by_cases hc : c.isBlank
      · rw [if_pos hc, if_pos hc, ← ih front (w ++ [c]) (by simp [hw, hc]) hfront,
          List.reverse_append]
        rfl
      · rw [if_neg hc, if_neg hc, spaceForBreak_append (by rwa [isBlank_reverse]) hfront,
          squeezed_reverse]
        have hrest := ih (c :: ((squeezed w).reverse ++ front)) [] rfl (by simpa using hc)
        rw [List.reverse_nil, List.nil_append] at hrest
        rw [hrest]
        simp
  exact hread [] [] rfl (by simp)

theorem joinBreaks_of_isBlank {w : Text} (hw : w.isBlank) : joinBreaks w = squeezed w := by
  have hread (u : Text) : squeezedFrom u w = squeezed (u ++ w) := by
    induction w generalizing u with
    | nil => rw [squeezedFrom, List.append_nil]
    | cons c w ih =>
      rw [isBlank_cons, Bool.and_eq_true] at hw
      rw [squeezedFrom, if_pos hw.1, ih hw.2, List.append_assoc, List.singleton_append]
  rw [joinBreaks_eq, hread, List.nil_append]

/-- **A visible code point parts a text**: breaks on its two sides are joined by themselves. -/
theorem joinBreaks_append_cons {c : CodePoint} (hc : ¬ c.isBlank) (s t : Text) :
    joinBreaks (s ++ c :: t) = joinBreaks s ++ c :: joinBreaks t := by
  have hread (w : Text) :
      squeezedFrom w (s ++ c :: t) = squeezedFrom w s ++ c :: squeezedFrom [] t := by
    induction s generalizing w with
    | nil => simp only [List.nil_append, squeezedFrom, if_neg hc]
    | cons d s ih =>
      rw [List.cons_append, squeezedFrom, squeezedFrom]
      split
      · rw [ih]
      · rw [ih, List.append_assoc, List.cons_append]
  rw [joinBreaks_eq, joinBreaks_eq, joinBreaks_eq, hread]

@[simp] theorem joinBreaks_nil : joinBreaks [] = [] := rfl

theorem joinBreaks_cons {c : CodePoint} (hc : ¬ c.isBlank) (t : Text) :
    joinBreaks (c :: t) = c :: joinBreaks t :=
  joinBreaks_append_cons hc [] t

theorem joinBreaks_concat {c : CodePoint} (hc : ¬ c.isBlank) (t : Text) :
    joinBreaks (t ++ [c]) = joinBreaks t ++ [c] :=
  joinBreaks_append_cons hc t []

/-- The blanks in front of the first visible code point, and what follows it. -/
theorem joinBreaks_blanks_append {w : Text} (hw : w.isBlank) {c : CodePoint} (hc : ¬ c.isBlank)
    (t : Text) : joinBreaks (w ++ c :: t) = squeezed w ++ c :: joinBreaks t := by
  rw [joinBreaks_append_cons hc, joinBreaks_of_isBlank hw]

/-- No line ends where breaks are joined. -/
theorem feed_not_mem_joinBreaks (t : Text) : ofChar '\n' ∉ joinBreaks t := by
  induction t using blanks_induction with
  | blank w hw =>
    rw [joinBreaks_of_isBlank hw]
    exact feed_not_mem_squeezed w
  | visible w c t hw hc ih =>
    rw [joinBreaks_blanks_append hw hc, List.mem_append, List.mem_cons, not_or, not_or]
    exact ⟨feed_not_mem_squeezed w, fun h => hc (h ▸ by decide), ih⟩

theorem joinBreaks_eq_self {t : Text} (ht : ofChar '\n' ∉ t) : joinBreaks t = t := by
  induction t using blanks_induction with
  | blank w hw => rw [joinBreaks_of_isBlank hw, squeezed, if_neg ht]
  | visible w c t hw hc ih =>
    rw [List.mem_append, List.mem_cons, not_or, not_or] at ht
    rw [joinBreaks_blanks_append hw hc, squeezed, if_neg ht.1, ih ht.2.2]

/-- The ends of a trimmed text are no part of any break. -/
theorem trim_joinBreaks {t : Text} (ht : t.trim = t) : (joinBreaks t).trim = joinBreaks t := by
  rw [trim_eq_self_iff] at ht ⊢
  constructor
  · cases t with
    | nil => simp
    | cons c t =>
      have hc := ht.1 c rfl
      rw [joinBreaks_cons hc]
      rintro _ ⟨⟩
      exact hc
  · rcases List.eq_nil_or_concat t with rfl | ⟨front, c, rfl⟩
    · simp
    · rw [List.concat_eq_append] at ht ⊢
      have hc := ht.2 c List.getLast?_concat
      rw [joinBreaks_concat hc, List.getLast?_concat]
      rintro _ ⟨⟩
      exact hc

/-! ## The inside of a group -/

/-- The inside of a group as the pass leaves it: on one line, if it is short. -/
def onOneLine (inside : Text) : Text :=
  if maxGroup ≤ (joinBreaks (innerText inside)).length then inside
  else joinBreaks (innerText inside)

/-- Trimmed texts are their own inner text. -/
theorem innerText_of_trim {t : Text} (ht : t.trim = t) : innerText t = t := by
  unfold innerText
  split
  · next hblank =>
    rw [← ht, trim, trimStart_of_isBlank hblank]
    rfl
  · exact ht

theorem innerText_of_length_le_one {t : Text} (hblank : t.isBlank) (ht : t.length ≤ 1) :
    innerText t = t := by
  rw [innerText, if_pos hblank, Nat.sub_eq_zero_of_le ht, List.drop_zero]

theorem length_innerText_le_one {t : Text} (hblank : t.isBlank) : (innerText t).length ≤ 1 := by
  rw [innerText, if_pos hblank, List.length_drop]
  omega

theorem isBlank_innerText {t : Text} (hblank : t.isBlank) : (innerText t).isBlank := by
  rw [innerText, if_pos hblank]
  exact List.all_eq_true.mpr fun c hc => isBlank_of_mem hblank (List.mem_of_mem_drop hc)

/-- Nothing but blanks comes out as one blank at most. -/
theorem length_joinBreaks_innerText_le_one {t : Text} (hblank : t.isBlank) :
    (joinBreaks (innerText t)).length ≤ 1 := by
  rw [joinBreaks_of_isBlank (isBlank_innerText hblank)]
  exact (length_squeezed_le _).trans (length_innerText_le_one hblank)

theorem innerText_joinBreaks_innerText (t : Text) :
    innerText (joinBreaks (innerText t)) = joinBreaks (innerText t) := by
  by_cases hblank : t.isBlank
  · refine innerText_of_length_le_one ?_ (length_joinBreaks_innerText_le_one hblank)
    rw [joinBreaks_of_isBlank (isBlank_innerText hblank)]
    exact isBlank_squeezed (isBlank_innerText hblank)
  · have hinner : innerText t = t.trim := if_neg hblank
    rw [hinner]
    exact innerText_of_trim (trim_joinBreaks (trim_trim t))

/-- What is on one line stays on it. -/
@[simp] theorem onOneLine_onOneLine (inside : Text) :
    onOneLine (onOneLine inside) = onOneLine inside := by
  by_cases hlong : maxGroup ≤ (joinBreaks (innerText inside)).length
  · have hself : onOneLine inside = inside := if_pos hlong
    rw [hself, hself]
  · have hjoined : onOneLine inside = joinBreaks (innerText inside) := if_neg hlong
    rw [hjoined, onOneLine, innerText_joinBreaks_innerText,
      joinBreaks_eq_self (feed_not_mem_joinBreaks _), ite_self]

/-- A group that is left alone is on one line, or too long for it. -/
theorem feed_not_mem_or_long {inside : Text} (h : onOneLine inside = inside) :
    ofChar '\n' ∉ inside ∨ maxGroup ≤ (joinBreaks (innerText inside)).length := by
  by_cases hlong : maxGroup ≤ (joinBreaks (innerText inside)).length
  · exact Or.inr hlong
  · rw [onOneLine, if_neg hlong] at h
    exact Or.inl (h ▸ feed_not_mem_joinBreaks _)

/-! ## Groups -/

theorem joinGroup_of_not_mem {t : Text} (ht : ofChar '(' ∉ t) : joinGroup t = t := by
  unfold joinGroup
  rw [dropWhile_ne_eq_nil ht]

theorem joinGroup_append {before : Text} (hbefore : ofChar '(' ∉ before) (inside : Text) :
    joinGroup (before ++ ofChar '(' :: inside) = before ++ ofChar '(' :: onOneLine inside := by
  unfold joinGroup
  rw [dropWhile_ne_append hbefore, takeWhile_ne_append hbefore]
  cases inside with
  | nil => rfl
  | cons c inside =>
    simp only [List.isEmpty_cons, Bool.false_or, decide_eq_true_eq]
    unfold onOneLine
    split <;> rfl

theorem joinGroups_of_not_mem {t : Text} (ht : ofChar ')' ∉ t) : joinGroups t = t := by
  rw [joinGroups, splitOn_of_not_mem ht, mapInit, join_singleton]

/-- **The pass goes from one closing parenthesis to the next.** -/
theorem joinGroups_append {p : Text} (hp : ofChar ')' ∉ p) (rest : Text) :
    joinGroups (p ++ ofChar ')' :: rest) = joinGroup p ++ ofChar ')' :: joinGroups rest := by
  obtain ⟨next, pieces, hrest⟩ := List.exists_cons_of_ne_nil (splitOn_ne_nil (ofChar ')') rest)
  have hne : mapInit joinGroup (next :: pieces) ≠ [] := by
    cases pieces <;> simp [mapInit]
  obtain ⟨next', pieces', hmapped⟩ := List.exists_cons_of_ne_nil hne
  rw [joinGroups, joinGroups, splitOn_append_cons hp, hrest, mapInit, hmapped, join_cons_cons,
    List.append_assoc, List.singleton_append]

end StructuredText.Sql
