/-
# Breaks next to parentheses

A break is a run of blanks with a line end in it.  Next to the inside of a parenthesis breaks are
dropped, and no change of blanks brings one up again.

* `BreakAfter` and `BreakBefore` say where breaks stand, `joinAfterOpening_eq_self_iff` and
  `joinBeforeClosing_eq_self_iff` that the two passes leave alone what holds none of theirs;
* `breakAfter_iff` and `breakBefore_iff` find them by the visible code points alone, and from this
  `Respaces.breakAfter` and `Respaces.breakBefore` follow.
-/
import Mathlib
import StructuredText.Proofs.Sql.Spacing

namespace StructuredText.Sql

open Text CodePoint Relation

/-! ## Breaks next to a code point -/

/-- A break follows a code point somewhere. -/
def BreakAfter (x : CodePoint) (t : Text) : Prop :=
  ∃ before w after : Text, t = before ++ x :: (w ++ after) ∧ w.isBlank ∧ ofChar '\n' ∈ w

/-- A break comes before a code point somewhere. -/
def BreakBefore (x : CodePoint) (t : Text) : Prop :=
  ∃ before w after : Text, t = before ++ w ++ x :: after ∧ w.isBlank ∧ ofChar '\n' ∈ w

theorem breakAfter_cons_iff {x c : CodePoint} {t : Text} :
    BreakAfter x (c :: t) ↔ (c = x ∧ startsWithBreak t) ∨ BreakAfter x t := by
  rw [startsWithBreak_iff]
  constructor
  · rintro ⟨before, w, after, h, hw, hfeed⟩
    cases before with
    | nil =>
      obtain ⟨rfl, rfl⟩ := List.cons.inj h
      exact Or.inl ⟨rfl, w, after, rfl, hw, hfeed⟩
    | cons d before =>
      obtain ⟨-, rfl⟩ := List.cons.inj h
      exact Or.inr ⟨before, w, after, rfl, hw, hfeed⟩
  · rintro (⟨rfl, w, after, rfl, hw, hfeed⟩ | ⟨before, w, after, rfl, hw, hfeed⟩)
    · exact ⟨[], w, after, rfl, hw, hfeed⟩
    · exact ⟨c :: before, w, after, rfl, hw, hfeed⟩

theorem BreakAfter.of_suffix {x : CodePoint} {s t : Text} (h : BreakAfter x s) (hst : s <:+ t) :
    BreakAfter x t := by
  obtain ⟨front, rfl⟩ := hst
  obtain ⟨before, w, after, rfl, hw, hfeed⟩ := h
  exact ⟨front ++ before, w, after, by simp, hw, hfeed⟩

theorem breakBefore_iff_reverse {x : CodePoint} {t : Text} :
    BreakBefore x t ↔ BreakAfter x t.reverse := by
  constructor
  · rintro ⟨before, w, after, rfl, hw, hfeed⟩
    exact ⟨after.reverse, w.reverse, before.reverse, by simp, by rwa [isBlank_reverse],
      List.mem_reverse.mpr hfeed⟩
  · rintro ⟨before, w, after, h, hw, hfeed⟩
    refine ⟨after.reverse, w.reverse, before.reverse, ?_, by rwa [isBlank_reverse],
      List.mem_reverse.mpr hfeed⟩
    rw [← t.reverse_reverse, h]
    simp

/-! ## Dropping breaks -/

theorem not_breakAfter_dropBreaksAfter (x : CodePoint) (t : Text) :
    ¬ BreakAfter x (dropBreaksAfter x t) := by
  induction t with
  | nil =>
    rintro ⟨before, w, after, h, -⟩
    have hnil : ([] : Text) = before ++ x :: (w ++ after) := h
    exact absurd hnil.symm (by simp)
  | cons c t ih =>
    rw [dropBreaksAfter_cons]
    split
    · rw [breakAfter_cons_iff]
      rintro (⟨-, hbreak⟩ | hrest)
      · exact not_startsWithBreak_dropBreak _ hbreak
      · exact ih (hrest.of_suffix (dropBreak_suffix _))
    · next hc =>
      rw [breakAfter_cons_iff]
      rintro (⟨hx, -⟩ | hrest)
      · exact hc hx
      · exact ih hrest

theorem dropBreaksAfter_eq_self {x : CodePoint} {t : Text} (h : ¬ BreakAfter x t) :
    dropBreaksAfter x t = t := by
  induction t with
  | nil => rfl
  | cons c t ih =>
    rw [breakAfter_cons_iff, not_or, not_and] at h
    rw [dropBreaksAfter_cons, ih h.2]
    split
    · next hc => rw [dropBreak_eq_self (h.1 hc)]
    · rfl

/-- Exactly the texts without a break after an opening parenthesis are left alone by the pass that
drops these. -/
theorem joinAfterOpening_eq_self_iff {t : Text} :
    joinAfterOpening t = t ↔ ¬ BreakAfter (ofChar '(') t := by
  rw [joinAfterOpening_eq]
  exact ⟨fun h => h ▸ not_breakAfter_dropBreaksAfter _ t, dropBreaksAfter_eq_self⟩

theorem joinBeforeClosing_eq_self_iff {t : Text} :
    joinBeforeClosing t = t ↔ ¬ BreakBefore (ofChar ')') t := by
  rw [joinBeforeClosing_eq, breakBefore_iff_reverse, List.reverse_eq_iff]
  exact ⟨fun h => h ▸ not_breakAfter_dropBreaksAfter _ _, dropBreaksAfter_eq_self⟩

theorem not_breakAfter_joinAfterOpening (t : Text) :
    ¬ BreakAfter (ofChar '(') (joinAfterOpening t) :=
  not_breakAfter_dropBreaksAfter _ t

theorem not_breakBefore_joinBeforeClosing (t : Text) :
    ¬ BreakBefore (ofChar ')') (joinBeforeClosing t) := by
  rw [breakBefore_iff_reverse, joinBeforeClosing_eq, List.reverse_reverse]
  exact not_breakAfter_dropBreaksAfter _ _

/-! ## Breaks under changes of blanks -/

/-- A line ends after exactly so many visible code points. -/
abbrev LineEndAfter : Text → ℕ → Prop := StandsAfter (· = ofChar '\n')

theorem lineEndAfter_of_isBlank {w : Text} (hw : w.isBlank) (n : ℕ) :
    LineEndAfter w n ↔ ofChar '\n' ∈ w ∧ n = 0 :=
  (standsAfter_of_isBlank hw n).trans (and_congr_left' exists_eq_right)

/-- **A change of blanks brings up no line end.** -/
theorem LineEndAfter.of_step {s t : Text} {n : ℕ} (hstep : SpacingStep s t)
    (h : LineEndAfter t n) : LineEndAfter s n := by
  cases hstep with
  | @exchange p w w' q hw hw' hline hne' =>
    simp only [List.append_assoc, standsAfter_append, lineEndAfter_of_isBlank hw,
      lineEndAfter_of_isBlank hw', visible_of_isBlank hw, visible_of_isBlank hw'] at h ⊢
    refine h.imp_right fun ⟨m, hn, hm⟩ => ⟨m, hn, hm.imp_left fun hfeed => ⟨hline, hfeed.2⟩⟩
  | @afterOpening p w q hw =>
    have hmore := StandsAfter.insert_blanks (s := p ++ [ofChar '(']) (t := q) hw (by simpa using h)
    simpa using hmore
  | @beforeClosing p w q hw => exact h.insert_blanks hw

theorem LineEndAfter.of_respaces {s t : Text} {n : ℕ} (hst : Respaces s t)
    (h : LineEndAfter t n) : LineEndAfter s n := by
  induction hst with
  | refl => exact h
  | tail _ hstep ih => exact ih (h.of_step hstep)

/-- The last visible code point of a text. -/
theorem exists_visible_last {t : Text} {n : ℕ} (h : (visible t).length = n + 1) :
    ∃ (before w : Text) (c : CodePoint), t = before ++ c :: w ∧ w.isBlank ∧
      visible t = visible before ++ [c] := by
  obtain ⟨w, hw, ht⟩ := exists_trimEnd t
  rcases List.eq_nil_or_concat t.trimEnd with hnil | ⟨before, c, hconcat⟩
  · rw [hnil, List.nil_append] at ht
    rw [ht, visible_of_isBlank hw] at h
    exact absurd h (by simp)
  · rw [List.concat_eq_append] at hconcat
    have hc : ¬ c.isBlank := by
      refine trimEnd_eq_self_iff.mp (trimEnd_trimEnd t) c ?_
      rw [hconcat, List.getLast?_concat]
    refine ⟨before, w, c, ?_, hw, ?_⟩
    · rw [ht, hconcat, List.append_assoc]
      rfl
    · rw [ht, hconcat, visible_append, visible_append, visible_of_isBlank hw, List.append_nil,
        visible_cons_of_visible hc]
      rfl

section Places

variable {x : CodePoint} (hx : ¬ x.isBlank) {s t : Text}
include hx

theorem breakAfter_iff :
    BreakAfter x t ↔ ∃ n, (visible t)[n]? = some x ∧ LineEndAfter t (n + 1) := by
  constructor
  · rintro ⟨before, w, after, rfl, hw, hfeed⟩
    refine ⟨(visible before).length, ?_, ?_⟩
    · rw [visible_append, visible_cons_of_visible hx,
        List.getElem?_append_right (Nat.le_refl _), Nat.sub_self]
      rfl
    · obtain ⟨front, back, rfl⟩ := List.append_of_mem hfeed
      rw [isBlank_append, Bool.and_eq_true] at hw
      refine ⟨before ++ x :: front, _, back ++ after, by simp, rfl, ?_⟩
      rw [visible_append, visible_cons_of_visible hx, visible_of_isBlank hw.1, List.length_append,
        List.length_singleton]
  · rintro ⟨n, hn, before, _, after, rfl, rfl, hlength⟩
    -- The code point is the last visible one in front of the line end.
    obtain ⟨front, w, c, rfl, hw, hvisible⟩ := exists_visible_last hlength
    have hfront : (visible front).length = n := by
      rw [hvisible, List.length_append, List.length_singleton] at hlength
      omega
    rw [visible_append, hvisible, List.append_assoc, List.singleton_append,
      List.getElem?_append_right hfront.le, hfront, Nat.sub_self] at hn
    obtain rfl : c = x := Option.some.inj hn
    refine ⟨front, w ++ [ofChar '\n'], after, by simp, ?_, by simp⟩
    rw [isBlank_append, hw]
    decide

theorem breakBefore_iff :
    BreakBefore x t ↔ ∃ n, (visible t)[n]? = some x ∧ LineEndAfter t n := by
  constructor
  · rintro ⟨before, w, after, rfl, hw, hfeed⟩
    refine ⟨(visible before).length, ?_, ?_⟩
    · rw [visible_append, visible_append, visible_of_isBlank hw, List.append_nil,
        visible_cons_of_visible hx, List.getElem?_append_right (Nat.le_refl _), Nat.sub_self]
      rfl
    · obtain ⟨front, back, rfl⟩ := List.append_of_mem hfeed
      rw [isBlank_append, Bool.and_eq_true] at hw
      refine ⟨before ++ front, _, back ++ x :: after, by simp, rfl, ?_⟩
      rw [visible_append, visible_of_isBlank hw.1, List.append_nil]
  · rintro ⟨n, hn, before, _, after, rfl, rfl, rfl⟩
    -- The code point is the first visible one behind the line end.
    obtain ⟨w, hw, hafter⟩ := exists_trimStart after
    have hfeed : visible (ofChar '\n' :: after) = visible (trimStart after) := by
      conv_lhs => rw [hafter]
      rw [← List.cons_append, visible_append, visible_of_isBlank (w := ofChar '\n' :: w),
        List.nil_append]
      rw [isBlank_cons, hw]
      decide
    rw [visible_append, hfeed, List.getElem?_append_right (Nat.le_refl _), Nat.sub_self] at hn
    cases hrest : trimStart after with
    | nil =>
      rw [hrest] at hn
      exact absurd hn (by simp)
    | cons c rest =>
      rw [hrest, visible_cons_of_visible (not_isBlank_of_trimStart hrest)] at hn
      obtain rfl : c = x := Option.some.inj hn
      refine ⟨before, ofChar '\n' :: w, rest, ?_, ?_, by simp⟩
      · rw [hafter, hrest]
        simp
      · rw [isBlank_cons, hw]
        decide

/-- **Changes of blanks bring up no break** after a visible code point. -/
theorem Respaces.breakAfter (h : Respaces s t) (ht : BreakAfter x t) : BreakAfter x s := by
  rw [breakAfter_iff hx] at ht ⊢
  obtain ⟨n, hn, hend⟩ := ht
  exact ⟨n, by rw [← h.respaced.visible_eq, hn], hend.of_respaces h⟩

theorem Respaces.breakBefore (h : Respaces s t) (ht : BreakBefore x t) : BreakBefore x s := by
  rw [breakBefore_iff hx] at ht ⊢
  obtain ⟨n, hn, hend⟩ := ht
  exact ⟨n, by rw [← h.respaced.visible_eq, hn], hend.of_respaces h⟩

end Places

end StructuredText.Sql
