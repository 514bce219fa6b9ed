/-
# The gaps of a text

A gap is a place between a closing and an opening bracket where blanks stand, or nothing at all.
Closing gaps leaves nothing in them; laying out leaves one line feed and the margin of the next line
in each, wherever in the text the brackets stand.

* `GapsAre` says something of every gap of a text, with one lemma for each way of building a text;
* `gapsAre_closeGaps` and `noGap_of_mem_splitTagLines` are the gaps of closed texts and of pieces;
* `gapsAre_placeLines` are the gaps of a text laid out.
-/
import Mathlib
import StructuredText.Proofs.Xml.SpacedLines

namespace StructuredText.Xml

open Text
open CodePoint (ofChar)

/-! ## Gaps -/

/-- What stands in each gap of a text is as told. -/
def GapsAre (P : Text → Prop) (t : Text) : Prop :=
  ∀ before w after : Text, t = before ++ ofChar '>' :: (w ++ ofChar '<' :: after) → w.isBlank → P w

section GapsAre

variable {P : Text → Prop} {c : CodePoint} {s t w w' q : Text}

theorem noGap_iff : NoGap t ↔ GapsAre (fun _ => False) t := by
  constructor
  · intro h before w after heq hw
    exact h before w after hw heq
  · intro h before w after hw heq
    exact h before w after heq hw

theorem gapsAre_nil : GapsAre P [] := by
  intro before w after heq
  exact absurd heq (by simp)

theorem GapsAre.mono {Q : Text → Prop} (hPQ : ∀ w, P w → Q w) (h : GapsAre P t) : GapsAre Q t :=
  fun before w after heq hw => hPQ w (h before w after heq hw)

/-- The gaps of a part of a text are gaps of the text. -/
theorem GapsAre.of_part (hs : s <:+: t) (h : GapsAre P t) : GapsAre P s := by
  obtain ⟨a, b, rfl⟩ := hs
  intro before w after heq hw
  refine h (a ++ before) w (after ++ b) ?_ hw
  rw [heq]
  simp

/-- Blanks in front of an opening bracket are told by the text. -/
theorem blanks_unique (hw : w.isBlank) (hw' : w'.isBlank)
    (h : w ++ ofChar '<' :: s = w' ++ ofChar '<' :: t) : w = w' ∧ s = t := by
  induction w generalizing w' with
  | nil =>
    cases w' with
    | nil => exact ⟨rfl, (List.cons.inj h).2⟩
    | cons c w' =>
      obtain ⟨rfl, -⟩ := List.cons.inj h
      exact absurd (isBlank_of_mem hw' List.mem_cons_self) not_isBlank_opening
  | cons c w ih =>
    cases w' with
    | nil =>
      obtain ⟨rfl, -⟩ := List.cons.inj h
      exact absurd (isBlank_of_mem hw List.mem_cons_self) not_isBlank_opening
    | cons d w' =>
      obtain ⟨rfl, hrest⟩ := List.cons.inj h
      rw [isBlank_cons, Bool.and_eq_true] at hw hw'
      obtain ⟨rfl, rfl⟩ := ih hw.2 hw'.2 hrest
      exact ⟨rfl, rfl⟩

/-- Where no gap begins with a code point, the gaps are those behind it. -/
theorem gapsAre_cons_iff
    (noGap : ∀ w s : Text, w.isBlank → c :: t ≠ ofChar '>' :: (w ++ ofChar '<' :: s)) :
    GapsAre P (c :: t) ↔ GapsAre P t := by
  constructor
  · exact GapsAre.of_part (List.suffix_cons c t).isInfix
  · intro h before w after heq hw
    cases before with
    | nil => exact absurd heq (noGap w after hw)
    | cons d before => exact h before w after (List.cons.inj heq).2 hw

/-- Only a closing bracket begins a gap. -/
theorem gapsAre_cons_of_ne (hc : c ≠ ofChar '>') : GapsAre P (c :: t) ↔ GapsAre P t :=
  gapsAre_cons_iff fun _ _ _ heq => hc (List.cons.inj heq).1

theorem gapsAre_blanks_append (hw : w.isBlank) : GapsAre P (w ++ t) ↔ GapsAre P t := by
  induction w with
  | nil => exact Iff.rfl
  | cons c w ih =>
    rw [isBlank_cons, Bool.and_eq_true] at hw
    rw [List.cons_append, gapsAre_cons_of_ne (isBlank_ne_closing hw.1), ih hw.2]

/-- The gaps of a text that begins with one. -/
theorem gapsAre_gap_iff (hw : w.isBlank) :
    GapsAre P (ofChar '>' :: (w ++ ofChar '<' :: t)) ↔ P w ∧ GapsAre P t := by
  constructor
  · intro h
    refine ⟨h [] w t rfl hw, h.of_part ?_⟩
    exact ⟨ofChar '>' :: (w ++ [ofChar '<']), [], by simp⟩
  · rintro ⟨hP, ht⟩ before v after heq hv
    cases before with
    | nil =>
      obtain ⟨rfl, -⟩ := blanks_unique hw hv (List.cons.inj heq).2
      exact hP
    | cons d before =>
      -- The gap is one of the text behind, as no bracket stands in the blanks.
      obtain ⟨r, rfl⟩ := exists_gap_of_append hw (List.cons.inj heq).2.symm
      have hrest : w ++ ofChar '<' :: t =
          w ++ ofChar '<' :: (r ++ ofChar '>' :: (v ++ ofChar '<' :: after)) := by
        simpa using (List.cons.inj heq).2
      exact ht r v after (blanks_unique hw hw hrest).2 hv

/-- The gaps behind a line that has none of its own. -/
theorem gapsAre_line (hq : NoGap (q ++ [ofChar '>'])) (hw : w.isBlank) :
    GapsAre P (q ++ ofChar '>' :: (w ++ ofChar '<' :: t)) ↔ P w ∧ GapsAre P t := by
  induction q with
  | nil => exact gapsAre_gap_iff hw
  | cons c q ih =>
    rw [List.cons_append, gapsAre_cons_iff, ih hq.tail]
    intro v s hv heq
    obtain ⟨rfl, hrest⟩ := List.cons.inj heq
    obtain ⟨r, rfl⟩ := exists_gap_of_append hv hrest
    exact hq [] v (r ++ [ofChar '>']) hv (by simp)

end GapsAre

/-! ## Closed texts and their pieces -/

/-- Nothing stands in the gaps of a closed text. -/
theorem gapsAre_closeGaps (t : Text) : GapsAre (· = []) (closeGaps t) := by
  have hclosed : GapsClosed t (closeGaps t) := gapsClosed_iff.mpr rfl
  generalize closeGaps t = u at hclosed
  induction hclosed with
  | nil => exact gapsAre_nil
  | gap _ _ ih => exact (gapsAre_gap_iff isBlank_nil).mpr ⟨rfl, ih⟩
  | @keep c t u noGap rest ih =>
    refine (gapsAre_cons_iff ?_).mpr ih
    intro w s hw heq
    obtain ⟨rfl, rfl⟩ := List.cons.inj heq
    -- A gap of the closed text would be a gap of the text.
    obtain ⟨v, r, hv, rfl⟩ := exists_gap_of_head? (t := t) (by
      rw [gapsClosed_iff.mp rest, trimStart_append_of_isBlank hw,
        trimStart_cons_visible not_isBlank_opening]
      rfl)
    exact noGap v r hv rfl

theorem isInfix_trim (t : Text) : t.trim <:+: t := by
  obtain ⟨w, w', -, -, h⟩ := exists_trim t
  exact ⟨w, w', h.symm⟩

theorem isInfix_of_mem_cutAtBoundaries {piece t : Text} (h : piece ∈ cutAtBoundaries t) :
    piece <:+: t := by
  obtain ⟨before, after, hpieces⟩ := List.append_of_mem h
  refine ⟨before.flatten, after.flatten, ?_⟩
  rw [← flatten_cutAtBoundaries t, hpieces, List.flatten_append, List.flatten_cons,
    List.append_assoc]

/-- No opening bracket follows a closing one in a piece. -/
theorem not_adjacent_of_mem_cutAtBoundaries {piece t : Text} (h : piece ∈ cutAtBoundaries t)
    (before after : Text) : piece ≠ before ++ ofChar '>' :: ofChar '<' :: after := by
  induction t generalizing piece before with
  | nil =>
    obtain rfl : piece = [] := by simpa [cutAtBoundaries] using h
    simp
  | cons c t ih =>
    obtain ⟨first, rest, hcut⟩ := List.exists_cons_of_ne_nil (cutAtBoundaries_ne_nil t)
    rw [hcut] at ih
    rw [cutAtBoundaries_cons c hcut] at h
    split at h
    · rcases List.mem_cons.mp h with rfl | hmem
      · intro heq
        have hlength := congrArg List.length heq
        simp only [List.length_cons, List.length_append, List.length_nil] at hlength
        omega
      · exact ih hmem before
    · next hkept =>
      rcases List.mem_cons.mp h with rfl | hmem
      · intro heq
        cases before with
        | nil =>
          obtain ⟨rfl, rfl⟩ := List.cons.inj heq
          exact hkept ⟨rfl, rfl⟩
        | cons d before => exact ih List.mem_cons_self before (List.cons.inj heq).2
      · exact ih (List.mem_cons_of_mem _ hmem) before

/-- A piece of a text has no gap. -/
theorem noGap_of_mem_splitTagLines {piece t : Text} (h : piece ∈ splitTagLines t) :
    NoGap piece := by
  intro before w after hw heq
  have hpart : piece <:+: closeGaps t := (isInfix_of_mem_cutAtBoundaries h).trans (isInfix_trim _)
  obtain rfl : w = [] := (gapsAre_closeGaps t).of_part hpart before w after heq hw
  exact not_adjacent_of_mem_cutAtBoundaries h before after heq

/-! ## Texts laid out -/

/-- What stands between two lines. -/
def IsLineBreak (margin : ℕ → Text) (w : Text) : Prop := ∃ d, w = ofChar '\n' :: margin d

/-- The gaps of lines are the breaks between them. -/
theorem gapsAre_unlines {margin : ℕ → Text} (blank : ∀ d, (margin d).isBlank) {depth : ℕ}
    {piece : Text} {lines : List (ℕ × Text)} (h : CutLines depth piece lines)
    (noGap : ∀ p ∈ piece :: lines.map Prod.snd, NoGap p) :
    GapsAre (IsLineBreak margin)
      (unlines (((depth, piece) :: lines).map fun (d, p) => margin d ++ p)) := by
  induction h with
  | single depth piece =>
    have hpiece : GapsAre (IsLineBreak margin) piece :=
      (noGap_iff.mp (noGap piece List.mem_cons_self)).mono fun _ h => h.elim
    simpa [gapsAre_blanks_append (blank depth)] using hpiece
  | @more depth depth' before after lines _ ih =>
    obtain ⟨hpiece, hpieces⟩ := List.forall_mem_cons.mp noGap
    have hlines := ih hpieces
    -- The lines behind begin with their margin and the bracket.
    obtain ⟨r, hr⟩ : ∃ r, unlines (((depth', ofChar '<' :: after) :: lines).map
        fun (d, p) => margin d ++ p) = margin depth' ++ ofChar '<' :: r := by
      cases lines with
      | nil => exact ⟨after, by simp⟩
      | cons line lines =>
        refine ⟨after ++ ofChar '\n' :: unlines ((line :: lines).map fun (d, p) => margin d ++ p), ?_⟩
        rw [List.map_cons, List.map_cons, unlines_cons_cons]
        simp
    have hgap : isBlank (ofChar '\n' :: margin depth') := by
      rw [isBlank_cons, blank depth', Bool.and_true]
      decide
    rw [hr, gapsAre_blanks_append (blank depth'), gapsAre_cons_of_ne (by decide)] at hlines
    have hline := (gapsAre_line (P := IsLineBreak margin) hpiece hgap).mpr ⟨⟨depth', rfl⟩, hlines⟩
    rw [List.map_cons] at hr
    rw [List.map_cons, List.map_cons, unlines_cons_cons, hr, List.append_assoc,
      gapsAre_blanks_append (blank depth)]
    simpa using hline

/-- **The gaps of a text laid out are its line breaks**, wherever in the text they stand. -/
theorem gapsAre_placeLines {margin : ℕ → Text} (blank : ∀ d, (margin d).isBlank) (t : Text) :
    GapsAre (IsLineBreak margin) (placeLines margin (splitTagLines t)) := by
  obtain ⟨depth, piece, lines, hlines, hpieces, hcut⟩ := exists_cutLines t
  refine GapsAre.of_part (isInfix_trim _) ?_
  rw [hlines]
  refine gapsAre_unlines blank hcut ?_
  rw [hpieces]
  exact fun p hp => noGap_of_mem_splitTagLines hp

end StructuredText.Xml
