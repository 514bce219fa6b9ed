/-
# The normal form of tag lines

Placing tag lines only writes blanks around a text and between its adjacent tags.  Taking those
blanks away gives a normal form: it is the same before and after, it decides the outcome, and
so a second run changes nothing.

* `GapsClosed` is the substitution that closes gaps, `gapsClosed_iff` computes it;
* `CutLines` are the lines that a text is cut into, `exists_cutLines` says so;
* `normalForm_placeLines` says that placing lines keeps the normal form, whatever the margins;
* `indentLines_normalForm` says the same of indenting, with the two laws that follow.
-/
import Mathlib
import StructuredText.Proofs.Text.Lines
import StructuredText.Proofs.Text.Trimming
import StructuredText.Xml.TagLine

namespace StructuredText.Xml

open Text CodePoint

/-! ## Closing gaps -/

/-- Every gap between a closing and an opening bracket replaced by nothing, from left to right:
a gap is taken where there is one, and any other code point is kept. -/
inductive GapsClosed : Text → Text → Prop
  | nil : GapsClosed [] []
  | gap {w t u : Text} (blank : w.isBlank) (rest : GapsClosed t u) :
      GapsClosed (ofChar '>' :: (w ++ ofChar '<' :: t)) (ofChar '>' :: ofChar '<' :: u)
  | keep {c : CodePoint} {t u : Text}
      (noGap : ∀ w s : Text, w.isBlank → c :: t ≠ ofChar '>' :: (w ++ ofChar '<' :: s))
      (rest : GapsClosed t u) : GapsClosed (c :: t) (c :: u)

@[simp] theorem closeGaps_nil : closeGaps [] = [] := rfl

theorem closeGaps_cons (c : CodePoint) (t : Text) :
    closeGaps (c :: t) =
      if c = ofChar '>' ∧ (trimStart (closeGaps t)).head? = some (ofChar '<') then
        c :: trimStart (closeGaps t)
      else c :: closeGaps t := rfl

theorem closeGaps_cons_of_ne {c : CodePoint} (hc : c ≠ ofChar '>') (t : Text) :
    closeGaps (c :: t) = c :: closeGaps t := by
  rw [closeGaps_cons, if_neg fun h => hc h.1]

/-- What stands in front of a text sees it only through its closed form. -/
theorem closeGaps_append_congr (s : Text) {t u : Text} (h : closeGaps t = closeGaps u) :
    closeGaps (s ++ t) = closeGaps (s ++ u) := by
  induction s with
  | nil => exact h
  | cons c s ih => rw [List.cons_append, List.cons_append, closeGaps_cons, closeGaps_cons, ih]

theorem isBlank_ne_closing {c : CodePoint} (hc : c.isBlank) : c ≠ ofChar '>' := by
  rintro rfl
  exact absurd hc (by decide)

theorem not_isBlank_opening : ¬ (ofChar '<').isBlank := by decide

/-- Blanks in front stay as they are. -/
theorem closeGaps_blanks_append {w : Text} (hw : w.isBlank) (t : Text) :
    closeGaps (w ++ t) = w ++ closeGaps t := by
  induction w with
  | nil => rfl
  | cons c w ih =>
    rw [isBlank_cons, Bool.and_eq_true] at hw
    rw [List.cons_append, closeGaps_cons_of_ne (isBlank_ne_closing hw.1), ih hw.2, List.cons_append]

theorem closeGaps_opening (t : Text) :
    closeGaps (ofChar '<' :: t) = ofChar '<' :: closeGaps t :=
  closeGaps_cons_of_ne (by decide) t

/-- A gap is closed, however wide it is. -/
theorem closeGaps_gap {w : Text} (hw : w.isBlank) (t : Text) :
    closeGaps (ofChar '>' :: (w ++ ofChar '<' :: t)) = ofChar '>' :: ofChar '<' :: closeGaps t := by
  have htrim : trimStart (closeGaps (w ++ ofChar '<' :: t)) = ofChar '<' :: closeGaps t := by
    rw [closeGaps_blanks_append hw, trimStart_append_of_isBlank hw, closeGaps_opening,
      trimStart_cons_visible not_isBlank_opening]
  rw [closeGaps_cons, htrim, if_pos ⟨rfl, rfl⟩]

/-- An opening bracket that comes first among what is visible stands behind blanks. -/
theorem exists_gap_of_head? {t : Text}
    (h : (trimStart (closeGaps t)).head? = some (ofChar '<')) :
    ∃ w s : Text, w.isBlank ∧ t = w ++ ofChar '<' :: s := by
  obtain ⟨w, hw, ht⟩ := exists_trimStart t
  rw [ht, closeGaps_blanks_append hw, trimStart_append_of_isBlank hw] at h
  cases hs : trimStart t with
  | nil =>
    rw [hs] at h
    exact absurd h (by simp)
  | cons c s =>
    have hc := not_isBlank_of_trimStart hs
    have hhead : (trimStart (closeGaps (c :: s))).head? = some c := by
      rw [closeGaps_cons]
      split <;> rw [trimStart_cons_visible hc] <;> rfl
    rw [hs, hhead, Option.some.injEq] at h
    exact ⟨w, s, hw, by rw [← h, ← hs, ← ht]⟩

/-- **Closing gaps is the substitution of gaps.** -/
theorem gapsClosed_iff {t u : Text} : GapsClosed t u ↔ closeGaps t = u := by
  constructor
  · intro h
    induction h with
    | nil => rfl
    | gap blank _ ih => rw [closeGaps_gap blank, ih]
    | keep noGap _ ih =>
      rw [closeGaps_cons, if_neg, ih]
      rintro ⟨rfl, hhead⟩
      obtain ⟨w, s, hw, ht⟩ := exists_gap_of_head? hhead
      exact noGap w s hw (by rw [ht])
  · rintro rfl
    -- A gap is passed at once with its blanks, so the induction is on the length.
    induction h : t.length using Nat.strong_induction_on generalizing t with
    | _ n ih =>
      cases t with
      | nil => exact .nil
      | cons c t =>
        by_cases hgap : ∃ w s : Text, w.isBlank ∧ c :: t = ofChar '>' :: (w ++ ofChar '<' :: s)
        · obtain ⟨w, s, hw, hs⟩ := hgap
          rw [hs, closeGaps_gap hw]
          refine .gap hw (ih s.length ?_ rfl)
          rw [← h, hs]
          simp only [List.length_cons, List.length_append]
          omega
        · rw [closeGaps_cons, if_neg]
          · refine .keep (fun w s hw hs => hgap ⟨w, s, hw, hs⟩) (ih t.length ?_ rfl)
            rw [← h, List.length_cons]
            omega
          · rintro ⟨rfl, hhead⟩
            obtain ⟨w, s, hw, ht⟩ := exists_gap_of_head? hhead
            exact hgap ⟨w, s, hw, by rw [ht]⟩

/-- A text whose gaps are closed has none left. -/
@[simp] theorem closeGaps_closeGaps (t : Text) : closeGaps (closeGaps t) = closeGaps t := by
  induction t with
  | nil => rfl
  | cons c t ih =>
    -- Blanks in front are kept, so closing gaps changes nothing behind them either.
    have htrim : closeGaps (trimStart (closeGaps t)) = trimStart (closeGaps t) := by
      obtain ⟨w, hw, h⟩ := exists_trimStart (closeGaps t)
      rw [h, closeGaps_blanks_append hw] at ih
      exact List.append_cancel_left ih
    rw [closeGaps_cons]
    split
    · next hgap =>
      obtain ⟨s, hs⟩ := List.head?_eq_some_iff.mp hgap.2
      rw [hs] at htrim ⊢
      rw [closeGaps_cons, htrim, trimStart_cons_visible not_isBlank_opening,
        if_pos ⟨hgap.1, rfl⟩]
    · next hgap => rw [closeGaps_cons, ih, if_neg hgap]

/-- Blanks at the end stay as they are. -/
theorem closeGaps_append_blanks (t : Text) {w : Text} (hw : w.isBlank) :
    closeGaps (t ++ w) = closeGaps t ++ w := by
  induction t with
  | nil => simpa using closeGaps_blanks_append hw []
  | cons c t ih =>
    rw [List.cons_append, closeGaps_cons, closeGaps_cons, ih]
    by_cases ht : trimStart (closeGaps t) = []
    · have hblank : trimStart (closeGaps t ++ w) = [] := by
        obtain ⟨v, hv, h⟩ := exists_trimStart (closeGaps t)
        rw [ht, List.append_nil] at h
        rw [trimStart_append_of_isBlank (by rw [h]; exact hv), trimStart_of_isBlank hw]
      simp [ht, hblank]
    · rw [trimStart_append ht, List.head?_append_of_ne_nil _ ht]
      split <;> rfl

/-! ## The normal form -/

/-- A text with its gaps closed and without the blanks around it. -/
def normalForm (t : Text) : Text := (closeGaps t).trim

/-- Blanks around a text do not count. -/
theorem normalForm_append_blanks {w w' : Text} (hw : w.isBlank) (t : Text) (hw' : w'.isBlank) :
    normalForm (w ++ t ++ w') = normalForm t := by
  unfold normalForm
  rw [closeGaps_append_blanks _ hw', closeGaps_blanks_append hw, trim_append_blanks hw _ hw']

@[simp] theorem normalForm_trim (t : Text) : normalForm t.trim = normalForm t := by
  obtain ⟨w, w', hw, hw', h⟩ := exists_trim t
  conv_rhs => rw [h, normalForm_append_blanks hw _ hw']

@[simp] theorem normalForm_closeGaps (t : Text) : normalForm (closeGaps t) = normalForm t := by
  rw [normalForm, closeGaps_closeGaps, normalForm]

/-- The normal form is its own normal form. -/
@[simp] theorem normalForm_normalForm (t : Text) : normalForm (normalForm t) = normalForm t := by
  conv_lhs => rw [normalForm.eq_1 t, normalForm_trim, normalForm_closeGaps]

/-! ## Cutting and placing -/

theorem cutAtBoundaries_ne_nil (t : Text) : cutAtBoundaries t ≠ [] := by
  cases t with
  | nil => simp [cutAtBoundaries]
  | cons c t =>
    unfold cutAtBoundaries
    rw [List.foldr_cons]
    split
    · simp
    · split <;> simp

theorem cutAtBoundaries_cons (c : CodePoint) {t piece : Text} {rest : List Text}
    (h : cutAtBoundaries t = piece :: rest) :
    cutAtBoundaries (c :: t) =
      if c = ofChar '>' ∧ piece.head? = some (ofChar '<') then [c] :: piece :: rest
      else (c :: piece) :: rest := by
  unfold cutAtBoundaries at h ⊢
  rw [List.foldr_cons, h]
  rfl

/-- Nothing is lost in cutting. -/
theorem flatten_cutAtBoundaries (t : Text) : (cutAtBoundaries t).flatten = t := by
  induction t with
  | nil => rfl
  | cons c t ih =>
    obtain ⟨piece, rest, h⟩ := List.exists_cons_of_ne_nil (cutAtBoundaries_ne_nil t)
    rw [h] at ih
    rw [cutAtBoundaries_cons c h, ← ih]
    split <;> rfl

/-- Two pieces between which a text was cut. -/
def Adjacent (s t : Text) : Prop :=
  s.getLast? = some (ofChar '>') ∧ t.head? = some (ofChar '<')

/-- A text is cut between adjacent tags only. -/
theorem isChain_cutAtBoundaries (t : Text) : (cutAtBoundaries t).IsChain Adjacent := by
  induction t with
  | nil => exact .singleton _
  | cons c t ih =>
    obtain ⟨piece, rest, h⟩ := List.exists_cons_of_ne_nil (cutAtBoundaries_ne_nil t)
    rw [h] at ih
    rw [cutAtBoundaries_cons c h]
    split
    · next hcut => exact .cons_cons ⟨by rw [hcut.1]; rfl, hcut.2⟩ ih
    · -- The first piece grows at its front, so its last code point stays what it was.
      cases rest with
      | nil => exact .singleton _
      | cons next rest =>
        obtain ⟨⟨hlast, hhead⟩, hrest⟩ := List.isChain_cons_cons.mp ih
        refine .cons_cons ⟨?_, hhead⟩ hrest
        rw [List.getLast?_cons, hlast]
        rfl

theorem map_snd_withDepths (depth : ℕ) (pieces : List Text) :
    (withDepths depth pieces).map Prod.snd = pieces := by
  induction pieces generalizing depth with
  | nil => rfl
  | cons piece rest ih => rw [withDepths, List.map_cons, ih]

/-- Lines with their depths, the first one apart, between which a text was cut. -/
inductive CutLines : ℕ → Text → List (ℕ × Text) → Prop
  | single (depth : ℕ) (piece : Text) : CutLines depth piece []
  | more (depth depth' : ℕ) (before after : Text) {lines : List (ℕ × Text)}
      (rest : CutLines depth' (ofChar '<' :: after) lines) :
      CutLines depth (before ++ [ofChar '>']) ((depth', ofChar '<' :: after) :: lines)

theorem cutLines_of_isChain (depth : ℕ) (piece : Text) (lines : List (ℕ × Text))
    (chain : (piece :: lines.map Prod.snd).IsChain Adjacent) : CutLines depth piece lines := by
  induction lines generalizing depth piece with
  | nil => exact .single depth piece
  | cons line lines ih =>
    obtain ⟨depth', piece'⟩ := line
    obtain ⟨⟨hlast, hhead⟩, hrest⟩ := List.isChain_cons_cons.mp chain
    obtain ⟨before, rfl⟩ := List.getLast?_eq_some_iff.mp hlast
    obtain ⟨after, rfl⟩ := List.head?_eq_some_iff.mp hhead
    exact .more depth depth' before after (ih depth' _ hrest)

/-- The lines of a text are such lines. -/
theorem exists_cutLines (t : Text) :
    ∃ depth piece lines, withDepths 0 (splitTagLines t) = (depth, piece) :: lines ∧
      piece :: lines.map Prod.snd = cutAtBoundaries (normalForm t) ∧
      CutLines depth piece lines := by
  have hpieces : (withDepths 0 (splitTagLines t)).map Prod.snd = cutAtBoundaries (normalForm t) :=
    map_snd_withDepths 0 _
  cases hlines : withDepths 0 (splitTagLines t) with
  | nil =>
    rw [hlines] at hpieces
    exact absurd hpieces.symm (cutAtBoundaries_ne_nil _)
  | cons line lines =>
    obtain ⟨depth, piece⟩ := line
    rw [hlines, List.map_cons] at hpieces
    refine ⟨depth, piece, lines, rfl, hpieces, cutLines_of_isChain depth piece lines ?_⟩
    rw [hpieces]
    exact isChain_cutAtBoundaries _

/-- Lines behind blank margins have no gaps but those where the text was cut. -/
theorem closeGaps_unlines {margin : ℕ → Text} (blank : ∀ d, (margin d).isBlank) {depth : ℕ}
    {piece : Text} {lines : List (ℕ × Text)} (h : CutLines depth piece lines) :
    closeGaps (unlines (((depth, piece) :: lines).map fun (d, p) => margin d ++ p)) =
      margin depth ++ closeGaps (piece :: lines.map Prod.snd).flatten := by
  induction h with
  | single depth piece => simp [closeGaps_blanks_append (blank depth)]
  | @more depth depth' before after lines _ ih =>
    set later := (lines.map Prod.snd).flatten
    -- The line break and the next margin are one gap.
    have hgap : isBlank (ofChar '\n' :: margin depth') := by
      rw [isBlank_cons, blank depth', Bool.and_true]
      decide
    have hnext : closeGaps (ofChar '\n' :: unlines (((depth', ofChar '<' :: after) :: lines).map
          fun (d, p) => margin d ++ p)) =
        closeGaps ((ofChar '\n' :: margin depth') ++ ofChar '<' :: (after ++ later)) := by
      rw [closeGaps_cons_of_ne (by decide), ih, closeGaps_blanks_append hgap]
      rfl
    have hclosed : closeGaps ((before ++ [ofChar '>']) ++
          ((ofChar '\n' :: margin depth') ++ ofChar '<' :: (after ++ later))) =
        closeGaps ((before ++ [ofChar '>']) ++ ofChar '<' :: (after ++ later)) := by
      rw [List.append_assoc, List.append_assoc]
      refine closeGaps_append_congr before ?_
      rw [List.singleton_append, List.singleton_append, closeGaps_gap hgap]
      exact (closeGaps_gap isBlank_nil _).symm
    calc closeGaps (unlines (((depth, before ++ [ofChar '>']) ::
            (depth', ofChar '<' :: after) :: lines).map fun (d, p) => margin d ++ p))
        = margin depth ++ closeGaps ((before ++ [ofChar '>']) ++ ofChar '\n' ::
            unlines (((depth', ofChar '<' :: after) :: lines).map
              fun (d, p) => margin d ++ p)) := by
          rw [List.map_cons, List.map_cons, unlines_cons_cons, List.append_assoc,
            closeGaps_blanks_append (blank depth)]
      _ = margin depth ++
          closeGaps ((before ++ [ofChar '>']) ++ ofChar '<' :: (after ++ later)) := by
          rw [closeGaps_append_congr _ hnext, hclosed]

/-- **Placing lines keeps the normal form**, whatever the blank margins. -/
theorem normalForm_placeLines {margin : ℕ → Text} (blank : ∀ d, (margin d).isBlank) (t : Text) :
    normalForm (placeLines margin (splitTagLines t)) = normalForm t := by
  obtain ⟨depth, piece, lines, hlines, hpieces, hcut⟩ := exists_cutLines t
  have hclosed := closeGaps_unlines blank hcut
  rw [hpieces, flatten_cutAtBoundaries] at hclosed
  have htrim := trim_append_blanks (blank depth) (closeGaps (normalForm t)) isBlank_nil
  rw [List.append_nil] at htrim
  calc normalForm (placeLines margin (splitTagLines t))
      = (margin depth ++ closeGaps (normalForm t)).trim := by
        rw [placeLines, hlines, normalForm_trim, normalForm, hclosed]
    _ = normalForm (normalForm t) := htrim
    _ = normalForm t := normalForm_normalForm t

/-- The normal form is all that placing lines sees of a text. -/
theorem placeLines_congr (margin : ℕ → Text) {t u : Text} (h : normalForm t = normalForm u) :
    placeLines margin (splitTagLines t) = placeLines margin (splitTagLines u) :=
  congrArg (fun n => placeLines margin (cutAtBoundaries n)) h

/-- **Indenting lines computes a normal form**, which is the text with its gaps closed and trimmed.
Indenting keeps the normal form, a second run changes nothing, and two texts come out the same
just if their normal forms are the same. -/
theorem indentLines_normalForm (unit : Text) (blank : unit.isBlank) (t u : Text) :
    (∃ closed, GapsClosed t closed ∧ normalForm t = closed.trim) ∧
      normalForm (indentLines (splitTagLines t) unit) = normalForm t ∧
      indentLines (splitTagLines (indentLines (splitTagLines t) unit)) unit =
        indentLines (splitTagLines t) unit ∧
      (indentLines (splitTagLines t) unit = indentLines (splitTagLines u) unit ↔
        normalForm t = normalForm u) := by
  have keeps : ∀ s : Text, normalForm (indentLines (splitTagLines s) unit) = normalForm s :=
    normalForm_placeLines fun d => isBlank_times blank d
  refine ⟨⟨closeGaps t, gapsClosed_iff.mpr rfl, rfl⟩, keeps t, placeLines_congr _ (keeps t), ?_,
    placeLines_congr _⟩
  intro h
  rw [← keeps t, ← keeps u, h]

/-- Two texts with different gaps, indented by two columns. -/
theorem indentLines_normalForm_nested :
    Text.isBlank "  " ∧
      indentLines (splitTagLines "<a> \n<b/></a>") "  " =
        indentLines (splitTagLines "<a><b/>\t</a> ") "  " :=
  ⟨by decide, (indentLines_normalForm "  " (by decide) "<a> \n<b/></a>" "<a><b/>\t</a> ").2.2.2.mpr
    (by decide)⟩

end StructuredText.Xml
