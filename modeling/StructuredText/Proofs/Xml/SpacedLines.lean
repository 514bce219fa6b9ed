/-
# Lines with blanks between them

A document in which tags are adjacent but for blanks is a sequence of lines: single tags, and text
between its two tags.  Cutting finds these lines again, whatever the blanks between them.

* `IsLine` says what a line is, `isLine_start` and the like that tags and elements of text are lines;
* `Spaced` relates lines to a text that has blanks between them;
* `splitTagLines_spaced`: from such a text the lines are found again.
-/
import Mathlib
import StructuredText.Proofs.Xml.NormalForm
import StructuredText.Proofs.Xml.WrittenTags

namespace StructuredText.Xml

open Text
open CodePoint (ofChar)

/-! ## Lines -/

/-- Nowhere in a text do blanks, or nothing at all, stand between a closing and an opening bracket. -/
def NoGap (t : Text) : Prop :=
  ∀ s w u : Text, w.isBlank → t ≠ s ++ ofChar '>' :: (w ++ ofChar '<' :: u)

theorem noGap_nil : NoGap [] := by
  intro s w u _ heq
  exact absurd heq (by simp)

theorem NoGap.tail {c : CodePoint} {t : Text} (h : NoGap (c :: t)) : NoGap t := by
  intro s w u hw heq
  exact h (c :: s) w u hw (by rw [heq, List.cons_append])

theorem NoGap.cons {c : CodePoint} {t : Text} (hc : c ≠ ofChar '>') (h : NoGap t) :
    NoGap (c :: t) := by
  intro s w u hw heq
  cases s with
  | nil => exact hc (List.cons.inj heq).1
  | cons d s => exact h s w u hw (List.cons.inj heq).2

theorem NoGap.append {s t : Text} (hs : NoBracket s) (h : NoGap t) : NoGap (s ++ t) := by
  induction s with
  | nil => exact h
  | cons c s ih =>
    simp only [NoBracket, List.mem_cons, not_or] at hs
    exact .cons (Ne.symm hs.2.1) (ih ⟨hs.1.2, hs.2.2⟩)

/-- A closing bracket begins no gap if something visible comes before the next opening one. -/
theorem NoGap.closing {t : Text} (hvisible : ∀ w u : Text, w.isBlank → t ≠ w ++ ofChar '<' :: u)
    (h : NoGap t) : NoGap (ofChar '>' :: t) := by
  intro s w u hw heq
  cases s with
  | nil => exact hvisible w u hw (List.cons.inj heq).2
  | cons d s => exact h s w u hw (List.cons.inj heq).2

theorem noGap_singleton : NoGap [ofChar '>'] :=
  .closing (fun w u _ heq => absurd heq (by simp)) noGap_nil

/-- A line stands between brackets, and no gap is in it. -/
structure IsLine (line : Text) : Prop where
  opens : line.head? = some (ofChar '<')
  closes : line.getLast? = some (ofChar '>')
  noGap : NoGap line

/-- A single tag is a line. -/
theorem isLine_of_noBracket {body : Text} (h : NoBracket body) :
    IsLine (ofChar '<' :: body ++ [ofChar '>']) where
  opens := rfl
  closes := List.getLast?_concat
  noGap := .cons (by decide) (.append h noGap_singleton)

theorem isLine_start (tag : Tag) : IsLine tag.start := isLine_of_noBracket tag.noBracket_inside

theorem isLine_alone (tag : Tag) : IsLine tag.alone :=
  isLine_of_noBracket
    (tag.noBracket_inside.append (.cons (by decide) (by decide) noBracket_nil))

theorem isLine_stop (tag : Tag) (space : Space) : IsLine (tag.stop space) :=
  isLine_of_noBracket ((NoBracket.cons (by decide) (by decide) tag.name.noBracket).append
    (noBracket_of_isBlank space.2))

/-- What comes before the first opening bracket is visible if it has something visible in it. -/
theorem Content.ne_blanks_append (content : Content) (t : Text) {w : Text} (hw : w.isBlank)
    (u : Text) : content.text ++ ofChar '<' :: t ≠ w ++ ofChar '<' :: u := by
  intro heq
  have hsame : content.text = w := by
    have htake := congrArg (List.takeWhile fun c => c != ofChar '<') heq
    rwa [takeWhile_ne_append content.noBracket.1,
      takeWhile_ne_append (noBracket_of_isBlank hw).1] at htake
  have hvisible := content.visible
  rw [hsame, hw] at hvisible
  exact absurd hvisible (by simp)

theorem isLine_textLine (tag : Tag) (content : Content) (space : Space) :
    IsLine (textLine tag content space) := by
  have hline : textLine tag content space =
      ofChar '<' :: (tag.inside ++ ofChar '>' :: (content.text ++ tag.stop space)) := by
    simp [textLine, Tag.start]
  refine ⟨by rw [hline]; rfl, ?_, ?_⟩
  · rw [textLine, Tag.stop, ← List.append_assoc, List.getLast?_concat]
  · rw [hline]
    refine .cons (by decide) (.append tag.noBracket_inside (.closing ?_ ?_))
    · intro w u hw
      exact content.ne_blanks_append _ hw u
    · exact .append content.noBracket (isLine_stop tag space).noGap

/-! ## Blanks between lines -/

/-- Lines with blanks between them, in front of the first one and behind the last one. -/
inductive Spaced : List Text → Text → Prop
  | nil (gap : Space) : Spaced [] gap.1
  | cons (gap : Space) {line : Text} {lines : List Text} {t : Text} (isLine : IsLine line)
      (rest : Spaced lines t) : Spaced (line :: lines) (gap.1 ++ line ++ t)

theorem Spaced.blanks_append {lines : List Text} {t w : Text} (hw : w.isBlank)
    (h : Spaced lines t) : Spaced lines (w ++ t) := by
  cases h with
  | nil gap => exact .nil ⟨w ++ gap.1, by simp [hw, gap.2]⟩
  | cons gap isLine rest =>
    have hgap := Spaced.cons ⟨w ++ gap.1, by simp [hw, gap.2]⟩ isLine rest
    simpa using hgap

theorem Spaced.append {lines lines' : List Text} {t u : Text} (h : Spaced lines t)
    (h' : Spaced lines' u) : Spaced (lines ++ lines') (t ++ u) := by
  induction h with
  | nil gap => exact h'.blanks_append gap.2
  | cons gap isLine _ ih =>
    have := Spaced.cons gap isLine ih
    simpa using this

theorem Spaced.singleton {line : Text} (h : IsLine line) : Spaced [line] line := by
  have := Spaced.cons ⟨[], rfl⟩ h (.nil ⟨[], rfl⟩)
  simpa using this

theorem Spaced.isLine {lines : List Text} {t : Text} (h : Spaced lines t) :
    ∀ line ∈ lines, IsLine line := by
  induction h with
  | nil => simp
  | cons _ isLine _ ih => exact List.forall_mem_cons.mpr ⟨isLine, ih⟩

/-! ## Finding the lines -/

/-- A gap that begins in front of a closing bracket ends in front of it. -/
theorem exists_gap_of_append {q u w s : Text} (hw : w.isBlank)
    (h : q ++ ofChar '>' :: u = w ++ ofChar '<' :: s) : ∃ r, q = w ++ ofChar '<' :: r := by
  have hne : ofChar '>' ≠ ofChar '<' := by decide
  rcases List.append_eq_append_iff.mp h with ⟨a, rfl, hu⟩ | ⟨a, rfl, hs⟩
  · -- The closing bracket would be a blank or the opening one.
    cases a with
    | nil => exact absurd (List.cons.inj hu).1 hne
    | cons c a =>
      have hc : c = ofChar '>' := (List.cons.inj hu).1.symm
      have hblank : c.isBlank := isBlank_of_mem hw (by simp)
      exact absurd hc (isBlank_ne_closing hblank)
  · cases a with
    | nil => exact absurd (List.cons.inj hs).1.symm hne
    | cons c a =>
      obtain ⟨rfl, -⟩ := List.cons.inj hs
      exact ⟨a, rfl⟩

/-- Closing gaps passes over a line up to its closing bracket. -/
theorem closeGaps_line {q : Text} (h : NoGap (q ++ [ofChar '>'])) (u : Text) :
    closeGaps (q ++ ofChar '>' :: u) = q ++ closeGaps (ofChar '>' :: u) := by
  induction q with
  | nil => rfl
  | cons c q ih =>
    have hq := ih h.tail
    rw [List.cons_append, closeGaps_cons, if_neg, hq, List.cons_append]
    rintro ⟨rfl, hhead⟩
    obtain ⟨w, s, hw, hgap⟩ := exists_gap_of_head? hhead
    obtain ⟨r, rfl⟩ := exists_gap_of_append hw hgap
    exact h [] w (r ++ [ofChar '>']) hw (by simp)

/-- The first piece begins as the text does. -/
theorem head?_cutAtBoundaries {t piece : Text} {rest : List Text} {c : CodePoint}
    (h : cutAtBoundaries (c :: t) = piece :: rest) : piece.head? = some c := by
  obtain ⟨piece', rest', h'⟩ := List.exists_cons_of_ne_nil (cutAtBoundaries_ne_nil t)
  rw [cutAtBoundaries_cons c h'] at h
  split at h
  · obtain ⟨rfl, -⟩ := List.cons.inj h
    rfl
  · obtain ⟨rfl, -⟩ := List.cons.inj h
    rfl

/-- Cutting passes over a line up to its closing bracket. -/
theorem cutAtBoundaries_line {q u piece : Text} {rest : List Text}
    (h : NoGap (q ++ [ofChar '>'])) (hcut : cutAtBoundaries (ofChar '>' :: u) = piece :: rest) :
    cutAtBoundaries (q ++ ofChar '>' :: u) = (q ++ piece) :: rest := by
  have hpiece := head?_cutAtBoundaries hcut
  induction q with
  | nil => exact hcut
  | cons c q ih =>
    have hq := ih h.tail
    rw [List.cons_append, cutAtBoundaries_cons c hq, if_neg, List.cons_append]
    rintro ⟨rfl, hhead⟩
    cases q with
    | nil =>
      rw [List.nil_append, hpiece] at hhead
      exact absurd (Option.some.inj hhead) (by decide)
    | cons d q =>
      obtain rfl : d = ofChar '<' := by simpa using hhead
      exact h [] [] (q ++ [ofChar '>']) rfl (by simp)

theorem head?_flatten_lines {line : Text} (h : IsLine line) (lines : List Text) (t : Text) :
    ∃ r, (line :: lines).flatten ++ t = ofChar '<' :: r := by
  obtain ⟨r, rfl⟩ := List.head?_eq_some_iff.mp h.opens
  exact ⟨_, rfl⟩

/-- Lines with blanks between them, with the gaps closed. -/
theorem closeGaps_spaced {lines : List Text} {t : Text} (h : Spaced lines t) :
    ∃ w w' : Text, w.isBlank ∧ w'.isBlank ∧ closeGaps t = w ++ lines.flatten ++ w' := by
  induction h with
  | nil gap =>
    refine ⟨gap.1, [], gap.2, rfl, ?_⟩
    have hgap := closeGaps_blanks_append gap.2 []
    simpa using hgap
  | @cons gap line lines t isLine rest ih =>
    obtain ⟨q, rfl⟩ := List.getLast?_eq_some_iff.mp isLine.closes
    obtain ⟨w, w', hw, hw', hclosed⟩ := ih
    have hfront : closeGaps (gap.1 ++ (q ++ [ofChar '>']) ++ t) =
        gap.1 ++ (q ++ closeGaps (ofChar '>' :: t)) := by
      rw [List.append_assoc, closeGaps_blanks_append gap.2, List.append_assoc,
        List.singleton_append, closeGaps_line isLine.noGap]
    -- Behind the closing bracket a gap is closed if another line follows.
    cases lines with
    | nil =>
      have hblank : (w ++ w').isBlank := by rw [isBlank_append, hw, hw', Bool.and_true]
      rw [List.flatten_nil, List.append_nil] at hclosed
      refine ⟨gap.1, w ++ w', gap.2, hblank, ?_⟩
      rw [hfront, closeGaps_cons, hclosed, trimStart_of_isBlank hblank, if_neg (by simp)]
      simp
    | cons next lines =>
      obtain ⟨r, hr⟩ := head?_flatten_lines (rest.isLine next List.mem_cons_self) lines w'
      refine ⟨gap.1, w', gap.2, hw', ?_⟩
      rw [hfront, closeGaps_cons, hclosed, List.append_assoc w, trimStart_append_of_isBlank hw, hr,
        trimStart_cons_visible not_isBlank_opening, if_pos ⟨rfl, rfl⟩, ← hr]
      simp

/-- Lines one after another are cut apart again. -/
theorem cutAtBoundaries_flatten {lines : List Text} (hne : lines ≠ [])
    (h : ∀ line ∈ lines, IsLine line) : cutAtBoundaries lines.flatten = lines := by
  induction lines with
  | nil => exact absurd rfl hne
  | cons line lines ih =>
    have hline := h line List.mem_cons_self
    obtain ⟨q, rfl⟩ := List.getLast?_eq_some_iff.mp hline.closes
    rw [List.flatten_cons, List.append_assoc, List.singleton_append]
    cases lines with
    | nil => exact cutAtBoundaries_line hline.noGap (by simp [cutAtBoundaries])
    | cons next lines =>
      have hrest := ih (by simp) fun l hl => h l (List.mem_cons_of_mem _ hl)
      have hopens := (h next (by simp)).opens
      refine cutAtBoundaries_line hline.noGap ?_
      rw [cutAtBoundaries_cons _ hrest, if_pos ⟨rfl, hopens⟩]

/-- Nothing is trimmed off a text between brackets. -/
theorem trim_of_brackets {t : Text} (hopens : t.head? = some (ofChar '<'))
    (hcloses : t.getLast? = some (ofChar '>')) : t.trim = t := by
  refine trim_eq_self_iff.mpr ⟨fun c hc => ?_, fun c hc => ?_⟩
  · obtain rfl : ofChar '<' = c := Option.some.inj (hopens.symm.trans hc)
    decide
  · obtain rfl : ofChar '>' = c := Option.some.inj (hcloses.symm.trans hc)
    decide

theorem getLast?_flatten_lines {lines : List Text} (hne : lines ≠ [])
    (h : ∀ line ∈ lines, IsLine line) : lines.flatten.getLast? = some (ofChar '>') := by
  obtain ⟨before, line, rfl⟩ : ∃ before line, lines = before ++ [line] :=
    ⟨_, _, (List.dropLast_append_getLast hne).symm⟩
  obtain ⟨q, rfl⟩ := List.getLast?_eq_some_iff.mp (h line (by simp)).closes
  rw [List.flatten_append, List.flatten_singleton, ← List.append_assoc, List.getLast?_concat]

/-- **Lines with blanks between them are found again.** -/
theorem splitTagLines_spaced {lines : List Text} {t : Text} (h : Spaced lines t)
    (hne : lines ≠ []) : splitTagLines t = lines := by
  obtain ⟨w, w', hw, hw', hclosed⟩ := closeGaps_spaced h
  have hlines := h.isLine
  have htrim : Text.trim lines.flatten = lines.flatten := by
    obtain ⟨line, rest, rfl⟩ := List.exists_cons_of_ne_nil hne
    obtain ⟨r, hr⟩ := head?_flatten_lines (hlines line List.mem_cons_self) rest []
    rw [List.append_nil] at hr
    exact trim_of_brackets (by rw [hr]; rfl) (getLast?_flatten_lines hne hlines)
  rw [splitTagLines, hclosed, trim_append_blanks hw _ hw', htrim,
    cutAtBoundaries_flatten hne hlines]

end StructuredText.Xml
