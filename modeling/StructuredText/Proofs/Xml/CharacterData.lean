/-
# The character data of a text laid out

For XML only four code points are white space, and all others are data.  Laying out takes other
blanks for white space too, where they stand between brackets or around the text, and takes them off.
Everything else is kept, and nothing but white space is written.

* `characterData` is a text without the white space of XML;
* `BlanksOfXml` says that what is taken off is white space of XML;
* `reindent_characterData`: nothing visible is lost, and no data is lost just if a text is so.
-/
import Mathlib
import StructuredText.Proofs.Xml.Gaps
import StructuredText.Proofs.Xml.Relaying

namespace StructuredText.Xml

open Text CodePoint

/-! ## Data and what is visible -/

/-- A text without the white space of XML. -/
def characterData (t : Text) : Text := t.filter fun c => !isXmlBlank c

/-- A text without its blanks. -/
def visibleText (t : Text) : Text := t.filter fun c => !c.isBlank

theorem characterData_append (s t : Text) :
    characterData (s ++ t) = characterData s ++ characterData t := List.filter_append ..

theorem characterData_eq_nil_iff {w : Text} : characterData w = [] ↔ w.all isXmlBlank := by
  rw [characterData, List.filter_eq_nil_iff, List.all_eq_true]
  simp

theorem visibleText_eq_nil_iff {w : Text} : visibleText w = [] ↔ w.isBlank := by
  rw [visibleText, List.filter_eq_nil_iff, Text.isBlank, List.all_eq_true]
  simp

theorem isBlank_unifyLineEnds {t : Text} (ht : t.isBlank) : t.unifyLineEnds.isBlank := by
  rw [← visibleText_eq_nil_iff] at ht ⊢
  rw [← ht]
  exact filter_unifyLineEnds (by decide) (by decide) t

/-- A class holds nothing of a text that is all in a class apart from it. -/
theorem filter_eq_nil_of_all {p q : CodePoint → Bool} (hp : ∀ c, q c → p c = false) {w : Text}
    (hw : w.all q) : w.filter p = [] := by
  refine List.filter_eq_nil_iff.mpr fun c hc => ?_
  rw [hp c (List.all_eq_true.mp hw c hc)]
  exact Bool.false_ne_true

/-! ## Where blanks are taken off -/

/-- Blanks that are taken off are white space of XML: those in front, those at the end and those
between brackets. -/
structure BlanksOfXml (t : Text) : Prop where
  front : ∀ w rest : Text, t = w ++ rest → w.isBlank → w.all isXmlBlank
  back : ∀ rest w : Text, t = rest ++ w → w.isBlank → w.all isXmlBlank
  gaps : GapsAre (fun w => w.all isXmlBlank) t

/-- A text without other blanks than white space of XML. -/
theorem blanksOfXml_of_forall {t : Text} (h : ∀ c ∈ t, c.isBlank → isXmlBlank c) :
    BlanksOfXml t := by
  have hpart : ∀ w : Text, w ⊆ t → w.isBlank → w.all isXmlBlank := by
    intro w hw hblank
    refine List.all_eq_true.mpr fun c hc => ?_
    exact h c (hw hc) (isBlank_of_mem hblank hc)
  refine ⟨?_, ?_, ?_⟩
  · rintro w rest rfl
    exact hpart w (List.subset_append_left _ _)
  · rintro rest w rfl
    exact hpart w (List.subset_append_right _ _)
  · rintro before w after rfl
    refine hpart w fun c hc => ?_
    exact List.mem_append_right _ (List.mem_cons_of_mem _ (List.mem_append_left _ hc))

/-! ## Closing gaps -/

section GapsClosed

variable {t u : Text}

/-- Closing gaps takes blanks off. -/
theorem GapsClosed.sublist (h : GapsClosed t u) : u.Sublist t := by
  induction h with
  | nil => exact .slnil
  | gap _ _ ih => exact ((ih.cons_cons _).trans (List.sublist_append_right _ _)).cons_cons _
  | keep _ _ ih => exact ih.cons_cons _

/-- Closing gaps takes nothing off but blanks. -/
theorem GapsClosed.filter_eq {p : CodePoint → Bool} (hp : ∀ c, c.isBlank → p c = false)
    (h : GapsClosed t u) : u.filter p = t.filter p := by
  induction h with
  | nil => rfl
  | @gap w t u hw _ ih =>
    rw [List.filter_cons, List.filter_cons, List.filter_cons, List.filter_append,
      filter_eq_nil_of_all hp hw, List.nil_append, List.filter_cons, ih]
  | keep _ _ ih => rw [List.filter_cons, List.filter_cons, ih]

/-- The data of a text that begins with a gap. -/
theorem characterData_gap (w t : Text) : characterData (ofChar '>' :: (w ++ ofChar '<' :: t)) =
    ofChar '>' :: (characterData w ++ ofChar '<' :: characterData t) := by
  have hbrackets : isXmlBlank (ofChar '>') = false ∧ isXmlBlank (ofChar '<') = false := by decide
  simp [characterData, hbrackets]

/-- **Closing gaps keeps the data just if the gaps are white space of XML.** -/
theorem GapsClosed.characterData_eq_iff (h : GapsClosed t u) :
    characterData u = characterData t ↔ GapsAre (fun w => w.all isXmlBlank) t := by
  induction h with
  | nil => exact iff_of_true rfl gapsAre_nil
  | @gap w t u hw hrest ih =>
    have hlength : (characterData u).length ≤ (characterData t).length :=
      (hrest.sublist.filter _).length_le
    have hclosed : characterData (ofChar '>' :: ofChar '<' :: u) =
        ofChar '>' :: ofChar '<' :: characterData u := characterData_gap [] u
    rw [gapsAre_gap_iff hw, ← ih, ← characterData_eq_nil_iff, hclosed, characterData_gap]
    constructor
    · intro heq
      have hw' : characterData w = [] := by
        have hsame := congrArg List.length heq
        simp only [List.length_cons, List.length_append] at hsame
        exact List.eq_nil_of_length_eq_zero (by omega)
      rw [hw'] at heq ⊢
      exact ⟨rfl, (List.cons.inj (List.cons.inj heq).2).2⟩
    · rintro ⟨hw', heq⟩
      rw [hw', heq]
      rfl
  | @keep c t u noGap hrest ih =>
    rw [gapsAre_cons_iff noGap, ← ih, characterData, characterData, List.filter_cons,
      List.filter_cons]
    split
    · exact List.cons_inj_right _
    · exact Iff.rfl

end GapsClosed

/-! ## Trimming -/

/-- What a class holds that holds no blanks is all in the normal form. -/
theorem filter_normalForm {p : CodePoint → Bool} (hp : ∀ c, c.isBlank → p c = false) (t : Text) :
    (normalForm t).filter p = t.filter p := by
  have hclosed : GapsClosed t (closeGaps t) := gapsClosed_iff.mpr rfl
  obtain ⟨w, w', hw, hw', h⟩ := exists_trim (closeGaps t)
  rw [← hclosed.filter_eq hp, h, List.filter_append, List.filter_append,
    filter_eq_nil_of_all hp hw, filter_eq_nil_of_all hp hw', List.nil_append, List.append_nil]
  rfl

/-- The data of the normal form is some of the data. -/
theorem characterData_normalForm_sublist (t : Text) :
    (characterData (normalForm t)).Sublist (characterData (closeGaps t)) := by
  obtain ⟨w, w', -, -, h⟩ := exists_trim (closeGaps t)
  have hpart : (closeGaps t).trim.Sublist (closeGaps t) := by
    conv_rhs => rw [h]
    exact (List.sublist_append_right _ _).trans (List.sublist_append_left _ _)
  exact hpart.filter _

/-- **Trimming and closing gaps keeps the data just if it takes off white space of XML.** -/
theorem characterData_normalForm_eq_iff (t : Text) :
    characterData (normalForm t) = characterData t ↔ BlanksOfXml t := by
  have hclosed : GapsClosed t (closeGaps t) := gapsClosed_iff.mpr rfl
  have hle : ∀ s : Text, (characterData (normalForm s)).length ≤ (characterData s).length :=
    fun s => ((characterData_normalForm_sublist s).trans
      ((gapsClosed_iff.mpr rfl : GapsClosed s (closeGaps s)).sublist.filter _)).length_le
  constructor
  · intro heq
    refine ⟨?_, ?_, ?_⟩
    · -- What comes behind blanks has the same normal form, so the blanks hold no data.
      rintro w rest rfl hw
      have hnormal := normalForm_append_blanks hw rest isBlank_nil
      rw [List.append_nil] at hnormal
      have hlength := congrArg List.length heq
      rw [hnormal, characterData_append, List.length_append] at hlength
      have hrest := hle rest
      exact characterData_eq_nil_iff.mp (List.eq_nil_of_length_eq_zero (by omega))
    · rintro rest w rfl hw
      have hnormal : normalForm (rest ++ w) = normalForm rest :=
        normalForm_append_blanks isBlank_nil rest hw
      have hlength := congrArg List.length heq
      rw [hnormal, characterData_append, List.length_append] at hlength
      have hrest := hle rest
      exact characterData_eq_nil_iff.mp (List.eq_nil_of_length_eq_zero (by omega))
    · rw [← hclosed.characterData_eq_iff]
      refine (hclosed.sublist.filter _).eq_of_length_le ?_
      rw [← characterData, ← characterData, ← heq]
      exact (characterData_normalForm_sublist t).length_le
  · rintro ⟨hfront, hback, hgaps⟩
    obtain ⟨w, w', hw, hw', h⟩ := exists_trim t
    have hopen : closeGaps t = w ++ normalForm t ++ w' := by
      conv_lhs => rw [h, closeGaps_append_blanks _ hw', closeGaps_blanks_append hw]
      rw [normalForm_eq]
    have hnone : characterData w = [] ∧ characterData w' = [] := by
      rw [characterData_eq_nil_iff, characterData_eq_nil_iff]
      exact ⟨hfront w _ (by rw [← List.append_assoc]; exact h) hw, hback _ w' h hw'⟩
    calc characterData (normalForm t)
        = characterData (closeGaps t) := by
          rw [hopen, characterData_append, characterData_append, hnone.1, hnone.2,
            List.nil_append, List.append_nil]
      _ = characterData t := hclosed.characterData_eq_iff.mpr hgaps

/-! ## Writing lines -/

/-- Spreading a text writes white space of XML only. -/
theorem Spread.filter_eq {after : Bool} {t t' : Text} {p : CodePoint → Bool}
    (hp : ∀ c, isXmlBlank c → p c = false) (h : Spread after t t') : t'.filter p = t.filter p := by
  induction h with
  | nil => rfl
  | cons _ ih => rw [List.filter_cons, List.filter_cons, ih]
  | @gap w' t t' hw' _ ih =>
    rw [List.filter_append, filter_eq_nil_of_all hp hw', List.filter_cons, List.filter_cons, ih]
    rfl

/-- A text laid out is the normal form of the text, but for white space of XML. -/
theorem filter_reindent {p : CodePoint → Bool} (hp : ∀ c, isXmlBlank c → p c = false)
    {text indent out : Text} (hindent : indent.all isXmlBlank)
    (h : reindent text indent = .ok out) :
    out.filter p = (normalForm text.unifyLineEnds).filter p := by
  rw [reindent_eq_ok] at h
  split at h
  · next hblank =>
    have hnormal : normalForm text.unifyLineEnds = [] := by
      have hnil := normalForm_append_blanks (isBlank_unifyLineEnds hblank) [] isBlank_nil
      rwa [List.append_nil, List.append_nil] at hnil
    rw [h, hnormal]
  · rw [h.2]
    exact (spread_placeLines (all_isXmlBlank_times hindent) _).filter_eq hp

/-! ## The law of laying out -/

/-- **What laying out keeps.**  All that is visible is kept, in its order, no data is made up, and
none is lost just if the blanks that are taken off are white space of XML. -/
theorem reindent_characterData {text indent out : Text} (hindent : indent.all isXmlBlank)
    (h : reindent text indent = .ok out) :
    visibleText out = visibleText text ∧
      (characterData out).Sublist (characterData text) ∧
      (characterData out = characterData text ↔ BlanksOfXml text.unifyLineEnds) := by
  have hclosed : ∀ t : Text, GapsClosed t (closeGaps t) := fun t => gapsClosed_iff.mpr rfl
  have hvisible : ∀ c, isXmlBlank c → (!c.isBlank) = false := by
    intro c hc
    rw [isBlank_of_isXmlBlank hc]
    rfl
  have hdata : characterData out = characterData (normalForm text.unifyLineEnds) :=
    filter_reindent (by simp) hindent h
  have htext : characterData text.unifyLineEnds = characterData text :=
    filter_unifyLineEnds (by decide) (by decide) text
  refine ⟨?_, ?_, ?_⟩
  · calc visibleText out
        = visibleText (normalForm text.unifyLineEnds) := filter_reindent hvisible hindent h
      _ = visibleText text.unifyLineEnds := filter_normalForm (by simp) _
      _ = visibleText text := filter_unifyLineEnds (by decide) (by decide) text
  · rw [hdata, ← htext]
    exact (characterData_normalForm_sublist _).trans ((hclosed _).sublist.filter _)
  · rw [hdata, ← htext]
    exact characterData_normalForm_eq_iff _

/-- A document with white space around its tags, and within its data. -/
theorem reindent_characterData_spaced :
    List.all "  " isXmlBlank ∧
      reindent " <a> <b>x y</b>\t</a>\r\n" "  " = .ok "<a>\n  <b>x y</b>\n</a>" ∧
      characterData "<a>\n  <b>x y</b>\n</a>" = characterData " <a> <b>x y</b>\t</a>\r\n" := by
  have hfault : fault? (Text.trim (unifyLineEnds " <a> <b>x y</b>\t</a>\r\n")) = none := by
    decide +kernel
  have hok : reindent " <a> <b>x y</b>\t</a>\r\n" "  " = .ok "<a>\n  <b>x y</b>\n</a>" := by
    refine reindent_eq_ok.mpr ?_
    rw [if_neg (by decide)]
    exact ⟨inspect_eq_ok.mpr ⟨by decide, hfault⟩, by decide +kernel⟩
  refine ⟨by decide, hok, ?_⟩
  exact (reindent_characterData (by decide) hok).2.2.mpr (blanksOfXml_of_forall (by decide))

/-- A blank that is data for XML is lost between two tags. -/
theorem reindent_characterData_lost :
    reindent "<a>\u00a0<b/></a>" "  " = .ok "<a>\n  <b/>\n</a>" ∧
      characterData "<a>\n  <b/>\n</a>" ≠ characterData "<a>\u00a0<b/></a>" := by
  have hfault : fault? (Text.trim (unifyLineEnds "<a>\u00a0<b/></a>")) = none := by decide +kernel
  refine ⟨reindent_eq_ok.mpr ?_, by decide⟩
  rw [if_neg (by decide)]
  exact ⟨inspect_eq_ok.mpr ⟨by decide, hfault⟩, by decide +kernel⟩

end StructuredText.Xml
