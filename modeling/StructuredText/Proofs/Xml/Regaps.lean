/-
# Other blanks between brackets

Laying out a document writes other blanks between a closing and an opening bracket, wherever these
stand.  Read side by side, the two texts are the same code point by code point, but after a closing
bracket there may be a gap, with any blanks in the one and blanks of XML in the other.

* `Regaps` is the relation, with a flag for the place right after a closing bracket;
* `Regaps.isPrefixOf`, `Regaps.takeWhile_eq` and the like say what the two have in common in front;
* `regaps_placeLines`: a text laid out is the text with other blanks.
-/
import Mathlib
import StructuredText.Proofs.Xml.NormalForm
import StructuredText.Xml.Character

namespace StructuredText.Xml

open Text CodePoint

/-! ## The relation -/

/-- Two texts that are the same but for the gaps between a closing and an opening bracket, which are
blanks of XML in the second.  The flag tells whether a closing bracket was just passed. -/
inductive Regaps : Bool → Text → Text → Prop
  | nil (after : Bool) : Regaps after [] []
  | cons {after : Bool} {c : CodePoint} {t t' : Text} (rest : Regaps (c == ofChar '>') t t') :
      Regaps after (c :: t) (c :: t')
  | gap {w w' t t' : Text} (hw : w.isBlank) (hw' : w'.all isXmlBlank) (rest : Regaps false t t') :
      Regaps true (w ++ ofChar '<' :: t) (w' ++ ofChar '<' :: t')

/-- The blanks of XML are blanks. -/
theorem isBlank_of_isXmlBlank {c : CodePoint} (h : isXmlBlank c) : c.isBlank := by
  simp only [isXmlBlank, Bool.or_eq_true, beq_iff_eq] at h
  rcases h with ((rfl | rfl) | rfl) | rfl <;> decide

theorem isBlank_of_all_isXmlBlank {w : Text} (h : w.all isXmlBlank) : w.isBlank :=
  List.all_eq_true.mpr fun c hc => isBlank_of_isXmlBlank (List.all_eq_true.mp h c hc)

/-- A class takes all of some blanks or stops at one of them. -/
theorem dropWhile_blanks (p : CodePoint → Bool) {w : Text} (hw : w.isBlank) :
    (∀ c ∈ w, p c) ∨ ∃ c r, w.dropWhile p = c :: r ∧ c.isBlank ∧ ¬ p c := by
  cases hstop : w.dropWhile p with
  | nil => exact Or.inl (List.dropWhile_eq_nil_iff.mp hstop)
  | cons c r =>
    have hc : c ∈ w := (List.dropWhile_sublist p).subset (hstop ▸ List.mem_cons_self)
    have hhead := List.head?_dropWhile_not p w
    rw [hstop] at hhead
    exact Or.inr ⟨c, r, rfl, isBlank_of_mem hw hc, by simpa using hhead⟩

namespace Regaps

variable {after : Bool} {c : CodePoint} {t t' : Text}

/-- Texts that go on alike go on alike after a closing bracket too. -/
theorem of_aligned (h : Regaps false t t') : Regaps after t t' := by
  cases h with
  | nil => exact .nil after
  | cons rest => exact .cons rest

theorem loosen (h : Regaps after t t') : Regaps true t t' := by
  cases after with
  | false => exact h.of_aligned
  | true => exact h

theorem cons_of_aligned (c : CodePoint) (h : Regaps false t t') :
    Regaps after (c :: t) (c :: t') := .cons h.of_aligned

/-- Texts that go on alike both end or have the same code point next. -/
theorem aligned_cases (h : Regaps false t t') :
    (t = [] ∧ t' = []) ∨
      ∃ c r r', t = c :: r ∧ t' = c :: r' ∧ Regaps (c == ofChar '>') r r' := by
  cases h with
  | nil => exact Or.inl ⟨rfl, rfl⟩
  | cons rest => exact Or.inr ⟨_, _, _, rfl, rfl, rest⟩

/-- After a closing bracket the texts go on alike, or with a gap. -/
theorem gap_cases (h : Regaps after t t') :
    Regaps false t t' ∨ after = true ∧ ∃ w w' r r', w.isBlank ∧ w'.all isXmlBlank ∧
      Regaps false r r' ∧ t = w ++ ofChar '<' :: r ∧ t' = w' ++ ofChar '<' :: r' := by
  cases h with
  | nil => exact Or.inl (.nil false)
  | cons rest => exact Or.inl (.cons rest)
  | gap hw hw' rest => exact Or.inr ⟨rfl, _, _, _, _, hw, hw', rest, rfl, rfl⟩

theorem head?_eq (h : Regaps false t t') : t.head? = t'.head? := by
  cases h <;> rfl

theorem isEmpty_eq (h : Regaps after t t') : t.isEmpty = t'.isEmpty := by
  cases h with
  | nil => rfl
  | cons => rfl
  | @gap w w' => cases w <;> cases w' <;> rfl

/-- After another code point than a closing bracket there is no gap. -/
theorem tail (h : Regaps false (c :: t) (c :: t')) (hc : c ≠ ofChar '>') : Regaps false t t' := by
  cases h with
  | cons rest => rwa [beq_eq_false_iff_ne.mpr hc] at rest

/-- Texts that go on alike begin with the same words, if these hold closing brackets at their end
only, and go on alike or with a gap after them. -/
theorem isPrefixOf {word : Text} (hword : ∀ c ∈ word.dropLast, c ≠ ofChar '>')
    (h : Regaps false t t') :
    word.isPrefixOf t = word.isPrefixOf t' ∧
      (word ≠ [] → word.isPrefixOf t →
        Regaps (word.getLast? == some (ofChar '>')) (t.drop word.length)
          (t'.drop word.length)) := by
  induction word generalizing t t' with
  | nil => exact ⟨rfl, fun hne => absurd rfl hne⟩
  | cons c word ih =>
    cases h with
    | nil => exact ⟨rfl, fun _ h => absurd h (by simp)⟩
    | @cons _ d t t' rest =>
      simp only [List.isPrefixOf_cons_cons]
      cases word with
      | nil =>
        refine ⟨by simp, fun _ h => ?_⟩
        obtain rfl : c = d := by simpa using h
        exact rest
      | cons e word =>
        rw [List.dropLast_cons_cons] at hword
        obtain ⟨hc, hword⟩ := List.forall_mem_cons.mp hword
        by_cases hcd : c = d
        · subst hcd
          rw [beq_eq_false_iff_ne.mpr hc] at rest
          obtain ⟨heq, hdrop⟩ := ih hword rest
          refine ⟨congrArg (c == c && ·) heq, fun _ h => ?_⟩
          exact hdrop (by simp) (by simpa using h)
        · have hne : (c == d) = false := beq_eq_false_iff_ne.mpr hcd
          refine ⟨by rw [hne, Bool.false_and, Bool.false_and], fun _ h => ?_⟩
          rw [hne, Bool.false_and] at h
          exact absurd h (by simp)

/-- Texts that go on alike have the same code points of a class in front, if the class does not hold
the closing bracket. -/
theorem takeWhile_eq {p : CodePoint → Bool} (hp : p (ofChar '>') = false)
    (h : Regaps false t t') :
    t.takeWhile p = t'.takeWhile p ∧ Regaps false (t.dropWhile p) (t'.dropWhile p) := by
  induction t generalizing t' with
  | nil =>
    cases h
    exact ⟨rfl, .nil false⟩
  | cons c t ih =>
    cases h with
    | cons rest =>
      by_cases hc : p c
      · have hne : c ≠ ofChar '>' := by
          rintro rfl
          rw [hp] at hc
          exact absurd hc (by simp)
        rw [beq_eq_false_iff_ne.mpr hne] at rest
        obtain ⟨htake, hdrop⟩ := ih rest
        rw [List.takeWhile_cons_of_pos hc, List.takeWhile_cons_of_pos hc,
          List.dropWhile_cons_of_pos hc, List.dropWhile_cons_of_pos hc, htake]
        exact ⟨rfl, hdrop⟩
      · rw [List.takeWhile_cons_of_neg hc, List.takeWhile_cons_of_neg hc,
          List.dropWhile_cons_of_neg hc, List.dropWhile_cons_of_neg hc]
        exact ⟨rfl, .cons rest⟩

/-- A class that holds brackets and the blanks of XML takes gaps with what is around them, unless it
stops at a blank in one. -/
theorem takeWhile_literal {p : CodePoint → Bool} (hopening : p (ofChar '<'))
    (hblank : ∀ c, isXmlBlank c → p c) (h : Regaps after t t') :
    (Regaps after (t.takeWhile p) (t'.takeWhile p) ∧
        Regaps false (t.dropWhile p) (t'.dropWhile p)) ∨
      ∃ c r, t.dropWhile p = c :: r ∧ c.isBlank ∧ ¬ p c := by
  induction h with
  | nil after => exact Or.inl ⟨.nil after, .nil false⟩
  | @cons after c t t' rest ih =>
    by_cases hc : p c
    · rw [List.takeWhile_cons_of_pos hc, List.takeWhile_cons_of_pos hc,
        List.dropWhile_cons_of_pos hc, List.dropWhile_cons_of_pos hc]
      exact ih.imp (fun ⟨htake, hdrop⟩ => ⟨.cons htake, hdrop⟩) id
    · rw [List.takeWhile_cons_of_neg hc, List.takeWhile_cons_of_neg hc,
        List.dropWhile_cons_of_neg hc, List.dropWhile_cons_of_neg hc]
      exact Or.inl ⟨.nil _, .cons rest⟩
  | @gap w w' t t' hw hw' rest ih =>
    have hall' : ∀ c ∈ w', p c := fun c hc => hblank c (List.all_eq_true.mp hw' c hc)
    rw [List.takeWhile_append_of_pos hall', List.dropWhile_append_of_pos hall',
      List.takeWhile_cons_of_pos hopening, List.dropWhile_cons_of_pos hopening]
    rcases dropWhile_blanks p hw with hall | ⟨c, r, hr, hc, hp⟩
    · rw [List.takeWhile_append_of_pos hall, List.dropWhile_append_of_pos hall,
        List.takeWhile_cons_of_pos hopening, List.dropWhile_cons_of_pos hopening]
      exact ih.imp (fun ⟨htake, hdrop⟩ => ⟨.gap hw hw' htake, hdrop⟩) id
    · exact Or.inr ⟨c, r ++ ofChar '<' :: t, by rw [List.dropWhile_append, hr]; rfl, hc, hp⟩

/-- A class that holds the blanks of XML but no opening bracket takes the rest of a gap, unless it
stops at a blank in it. -/
theorem dropWhile_gap {p : CodePoint → Bool} (hopening : ¬ p (ofChar '<'))
    (hblank : ∀ c, isXmlBlank c → p c) (h : Regaps after t t') :
    Regaps false (t.dropWhile p) (t'.dropWhile p) ∨
      ∃ c r, t.dropWhile p = c :: r ∧ c.isBlank ∧ ¬ p c := by
  induction h with
  | nil => exact Or.inl (.nil false)
  | @cons _ c _ _ rest ih =>
    by_cases hc : p c
    · rw [List.dropWhile_cons_of_pos hc, List.dropWhile_cons_of_pos hc]
      exact ih
    · rw [List.dropWhile_cons_of_neg hc, List.dropWhile_cons_of_neg hc]
      exact Or.inl (.cons rest)
  | @gap w w' t t' hw hw' rest _ =>
    have hall' : ∀ c ∈ w', p c := fun c hc => hblank c (List.all_eq_true.mp hw' c hc)
    rw [List.dropWhile_append_of_pos hall', List.dropWhile_cons_of_neg hopening]
    rcases dropWhile_blanks p hw with hall | ⟨c, r, hr, hc, hp⟩
    · rw [List.dropWhile_append_of_pos hall, List.dropWhile_cons_of_neg hopening]
      exact Or.inl (cons_of_aligned _ rest)
    · exact Or.inr ⟨c, r ++ ofChar '<' :: t, by rw [List.dropWhile_append, hr]; rfl, hc, hp⟩

/-- Behind anything that is the same in both, texts that go on alike do so too. -/
theorem append_left (s : Text) (h : Regaps false t t') : Regaps after (s ++ t) (s ++ t') := by
  induction s generalizing after with
  | nil => exact h.of_aligned
  | cons c s ih => exact .cons ih

/-- Texts without an opening bracket have no gaps. -/
theorem eq_of_not_mem (h : Regaps after t t') (hopening : ofChar '<' ∉ t) : t = t' := by
  induction h with
  | nil => rfl
  | cons _ ih => rw [ih fun hmem => hopening (List.mem_cons_of_mem _ hmem)]
  | gap => exact absurd (by simp) hopening

/-- An opening bracket stands in both texts or in none. -/
theorem mem_opening (h : Regaps after t t') (hopening : ofChar '<' ∈ t) : ofChar '<' ∈ t' := by
  induction h with
  | nil => exact hopening
  | cons _ ih =>
    rcases List.mem_cons.mp hopening with rfl | hmem
    · exact List.mem_cons_self
    · exact List.mem_cons_of_mem _ (ih hmem)
  | gap => simp

end Regaps

/-! ## Laying out -/

/-- A text in which blanks of XML were written between adjacent brackets. -/
inductive Spread : Bool → Text → Text → Prop
  | nil (after : Bool) : Spread after [] []
  | cons {after : Bool} {c : CodePoint} {t t' : Text} (rest : Spread (c == ofChar '>') t t') :
      Spread after (c :: t) (c :: t')
  | gap {w' t t' : Text} (hw' : w'.all isXmlBlank) (rest : Spread false t t') :
      Spread true (ofChar '<' :: t) (w' ++ ofChar '<' :: t')

namespace Spread

variable {after : Bool} {t t' : Text}

theorem of_aligned (h : Spread false t t') : Spread after t t' := by
  cases h with
  | nil => exact .nil after
  | cons rest => exact .cons rest

theorem append_left (s : Text) (h : Spread false t t') : Spread after (s ++ t) (s ++ t') := by
  induction s generalizing after with
  | nil => exact h.of_aligned
  | cons c s ih => exact .cons ih

theorem head?_eq (h : Spread false t t') : t.head? = t'.head? := by
  cases h <;> rfl

theorem getLast?_eq (h : Spread after t t') : t.getLast? = t'.getLast? := by
  induction h with
  | nil => rfl
  | cons _ ih => rw [List.getLast?_cons, List.getLast?_cons, ih]
  | gap _ _ ih =>
    rw [List.getLast?_append_of_ne_nil _ (by simp), List.getLast?_cons, List.getLast?_cons, ih]

/-- Closing the gaps and writing others is writing other gaps. -/
theorem regaps {s : Text} (hclosed : GapsClosed s t) (h : Spread after t t') :
    Regaps after s t' := by
  induction hclosed generalizing after t' with
  | nil =>
    cases h
    exact .nil after
  | gap hblank _ ih =>
    cases h with
    | cons rest =>
      refine .cons ?_
      cases rest with
      | cons rest =>
        have hempty : List.all [] isXmlBlank := rfl
        exact .gap hblank hempty (ih rest)
      | gap hw' rest => exact .gap hblank hw' (ih rest)
  | keep _ _ ih =>
    cases h with
    | cons rest => exact .cons (ih rest)
    | gap hw' rest => exact .gap isBlank_nil hw' (ih rest)

end Spread

theorem spread_self (t : Text) : Spread false t t := by
  have h : Spread false (t ++ []) (t ++ []) := .append_left t (.nil false)
  rwa [List.append_nil] at h

/-- Lines behind margins are spread out, behind the first margin. -/
theorem spread_unlines {margin : ℕ → Text} (blank : ∀ d, (margin d).all isXmlBlank) {depth : ℕ}
    {piece : Text} {lines : List (ℕ × Text)} (h : CutLines depth piece lines) :
    ∃ spread, unlines (((depth, piece) :: lines).map fun (d, p) => margin d ++ p) =
        margin depth ++ spread ∧ Spread false (piece :: lines.map Prod.snd).flatten spread := by
  induction h with
  | single depth piece => exact ⟨piece, by simp, by simpa using spread_self piece⟩
  | @more depth depth' before after lines _ ih =>
    obtain ⟨spread, hlines, hspread⟩ := ih
    cases hspread with
    | @cons _ _ _ spread rest =>
      -- The line break and the next margin are what is written between the brackets.
      have hgap : List.all (ofChar '\n' :: margin depth') isXmlBlank := by
        rw [List.all_cons, blank depth', Bool.and_true]
        decide
      refine ⟨before ++ ofChar '>' :: (ofChar '\n' :: margin depth' ++ ofChar '<' :: spread),
        ?_, ?_⟩
      · rw [List.map_cons] at hlines ⊢
        rw [List.map_cons, unlines_cons_cons, hlines]
        simp
      · have hcut : Spread false (ofChar '>' :: ofChar '<' :: (after ++ (lines.map Prod.snd).flatten))
            (ofChar '>' :: (ofChar '\n' :: margin depth' ++ ofChar '<' :: spread)) :=
          .cons (.gap hgap rest)
        simpa using hcut.append_left before

/-- Closing gaps takes nothing off at the ends. -/
theorem GapsClosed.ends {t u : Text} (h : GapsClosed t u) :
    u.head? = t.head? ∧ u.getLast? = t.getLast? := by
  induction h with
  | nil => exact ⟨rfl, rfl⟩
  | gap _ _ ih =>
    refine ⟨rfl, ?_⟩
    rw [List.getLast?_cons, List.getLast?_cons, List.getLast?_cons, ih.2,
      List.getLast?_append_of_ne_nil _ (by simp), List.getLast?_cons]
  | keep _ _ ih => exact ⟨rfl, by rw [List.getLast?_cons, List.getLast?_cons, ih.2]⟩

/-- Nothing is taken off by trimming once the gaps of a trimmed text are closed. -/
theorem normalForm_eq (t : Text) : normalForm t = closeGaps t.trim := by
  have hclosed : GapsClosed t.trim (closeGaps t.trim) := gapsClosed_iff.mpr rfl
  rw [← normalForm_trim, normalForm, trim_eq_self_iff, hclosed.ends.1, hclosed.ends.2]
  exact trim_eq_self_iff.mp (trim_trim t)

/-- A text laid out is its normal form, spread out. -/
theorem spread_placeLines {margin : ℕ → Text} (blank : ∀ d, (margin d).all isXmlBlank)
    (t : Text) : Spread false (normalForm t) (placeLines margin (splitTagLines t)) := by
  obtain ⟨depth, piece, lines, hlines, hpieces, hcut⟩ := exists_cutLines t
  obtain ⟨spread, hspread, h⟩ := spread_unlines blank hcut
  rw [hpieces, flatten_cutAtBoundaries] at h
  -- The normal form is trimmed, and the spread text begins and ends as it does.
  have hout : placeLines margin (splitTagLines t) = spread := by
    have htrim := trim_append_blanks (isBlank_of_all_isXmlBlank (blank depth)) spread isBlank_nil
    rw [List.append_nil] at htrim
    rw [placeLines, hlines, hspread, htrim, trim_eq_self_iff, ← h.head?_eq, ← h.getLast?_eq]
    exact trim_eq_self_iff.mp (trim_trim _)
  rw [hout]
  exact h

/-- **A text laid out is the text with other blanks** between its brackets, whatever the
margins. -/
theorem regaps_placeLines {margin : ℕ → Text} (blank : ∀ d, (margin d).all isXmlBlank)
    (t : Text) : Regaps false t.trim (placeLines margin (splitTagLines t)) := by
  have h := spread_placeLines blank t
  rw [normalForm_eq] at h
  exact h.regaps (gapsClosed_iff.mpr rfl)

end StructuredText.Xml
