/-
# Laying out a text again

A text laid out has one spelling of line ends and no blanks around it, so laying it out again
comes down to the check: where it passes, the text stays as it is.

* `mem_placeLines` tells what a text laid out is made of;
* `inspect_eq_ok` and `reindent_eq_ok` say what is accepted;
* `reindent_of_reindent` is the second run in terms of the check alone.
-/
import Mathlib
import StructuredText.Proofs.Text.Encoding
import StructuredText.Proofs.Xml.Regaps
import StructuredText.Xml.Reindent

namespace StructuredText.Xml

open Text CodePoint

/-! ## What a text laid out is made of -/

theorem not_isBlank_of_isSurrogate {c : CodePoint} (h : c.isSurrogate) : ¬ c.isBlank := by
  simp only [isSurrogate, CodePoint.isBlank, between, Bool.and_eq_true, Bool.or_eq_true,
    decide_eq_true_eq, beq_iff_eq] at h ⊢
  omega

theorem mem_of_mem_closeGaps {c : CodePoint} {t : Text} (h : c ∈ closeGaps t) : c ∈ t := by
  induction t with
  | nil => exact h
  | cons d t ih =>
    rw [closeGaps_cons] at h
    split at h
    · rcases List.mem_cons.mp h with rfl | hc
      · exact List.mem_cons_self
      · exact List.mem_cons_of_mem _ (ih ((List.dropWhile_sublist CodePoint.isBlank).subset hc))
    · rcases List.mem_cons.mp h with rfl | hc
      · exact List.mem_cons_self
      · exact List.mem_cons_of_mem _ (ih hc)

/-- A text laid out is made of what it was made of, of margins and of line feeds. -/
theorem mem_placeLines {margin : ℕ → Text} {c : CodePoint} {t : Text}
    (h : c ∈ placeLines margin (splitTagLines t)) :
    c = ofChar '\n' ∨ (∃ d, c ∈ margin d) ∨ c ∈ t := by
  rcases mem_unlines (mem_of_mem_trim h) with hfeed | ⟨line, hline, hc⟩
  · exact Or.inl hfeed
  · obtain ⟨⟨d, piece⟩, hpiece, rfl⟩ := List.mem_map.mp hline
    rcases List.mem_append.mp hc with hmargin | hc
    · exact Or.inr (Or.inl ⟨d, hmargin⟩)
    · have hmem : piece ∈ splitTagLines t := by
        rw [← map_snd_withDepths 0 (splitTagLines t)]
        exact List.mem_map_of_mem hpiece
      have hflat : c ∈ (cutAtBoundaries (closeGaps t).trim).flatten :=
        List.mem_flatten.mpr ⟨piece, hmem, hc⟩
      rw [flatten_cutAtBoundaries] at hflat
      exact Or.inr (Or.inr (mem_of_mem_closeGaps (mem_of_mem_trim hflat)))

theorem mem_times {c : CodePoint} {n : ℕ} {t : Text} (h : c ∈ times n t) : c ∈ t := by
  unfold times at h
  split at h
  · exact absurd h (by simp)
  · obtain ⟨s, hs, hc⟩ := List.mem_flatten.mp h
    rwa [List.eq_of_mem_replicate hs] at hc

/-! ## What is accepted -/

/-- A text is accepted that has bytes and no fault. -/
theorem inspect_eq_ok {t : Text} :
    inspect t = .ok () ↔ (∀ c ∈ t, ¬ c.isSurrogate) ∧ fault? t = none := by
  rw [← Utf8.isOk_encode]
  unfold inspect check
  rcases Utf8.encode t with e | bytes
  · simp [bind, Except.bind, Except.mapError, Except.isOk, Except.toBool]
  · rcases fault? t with _ | fault
    · exact iff_of_true rfl ⟨rfl, rfl⟩
    · exact iff_of_false (by simp [bind, Except.bind, Except.mapError, throw, throwThe,
        MonadExceptOf.throw]) (by simp)

/-- What reindenting gives. -/
theorem reindent_eq_ok {text indent out : Text} :
    reindent text indent = .ok out ↔
      if text.isBlank then out = []
      else inspect text.unifyLineEnds.trim = .ok () ∧
        out = indentLines (splitTagLines text.unifyLineEnds) indent := by
  unfold reindent layOut
  split
  · exact ⟨fun h => (Except.ok.inj h).symm, fun h => h ▸ rfl⟩
  · dsimp only [bind, Except.bind]
    rcases inspect text.unifyLineEnds.trim with refusal | ⟨⟩
    · exact iff_of_false (by simp) (by simp)
    · simp [pure, Except.pure, indentLines, eq_comm]

/-! ## A second run -/

theorem all_isXmlBlank_times {indent : Text} (h : indent.all isXmlBlank) (d : ℕ) :
    (times d indent).all isXmlBlank :=
  List.all_eq_true.mpr fun c hc => List.all_eq_true.mp h c (mem_times hc)

/-- An indent made of spaces. -/
def IsSpaces (indent : Text) : Prop := ∀ c ∈ indent, c = ofChar ' '

instance (indent : Text) : Decidable (IsSpaces indent) :=
  inferInstanceAs (Decidable (∀ c ∈ indent, c = ofChar ' '))

theorem IsSpaces.all_isXmlBlank {indent : Text} (h : IsSpaces indent) (d : ℕ) :
    (times d indent).all isXmlBlank := by
  refine all_isXmlBlank_times (List.all_eq_true.mpr fun c hc => ?_) d
  rw [h c hc]
  decide

section Again

variable {text indent : Text}

/-- A text laid out with spaces is made of what it was made of, of spaces and of line feeds. -/
theorem mem_indentLines (hindent : IsSpaces indent) {c : CodePoint}
    (h : c ∈ indentLines (splitTagLines text) indent) :
    c = ofChar '\n' ∨ c = ofChar ' ' ∨ c ∈ text := by
  rcases mem_placeLines h with hfeed | ⟨d, hmargin⟩ | hc
  · exact Or.inl hfeed
  · exact Or.inr (Or.inl (hindent c (mem_times hmargin)))
  · exact Or.inr (Or.inr hc)

/-- Line ends in one spelling stay so. -/
theorem unifyLineEnds_indentLines (hindent : IsSpaces indent) (hreturn : ofChar '\r' ∉ text) :
    (indentLines (splitTagLines text) indent).unifyLineEnds =
      indentLines (splitTagLines text) indent := by
  refine unifyLineEnds_of_not_mem fun h => ?_
  rcases mem_indentLines hindent h with hc | hc | hc
  · exact absurd hc (by decide)
  · exact absurd hc (by decide)
  · exact hreturn hc

/-- A text laid out is cut and laid out as before. -/
theorem indentLines_indentLines (hindent : IsSpaces indent) (text : Text) :
    indentLines (splitTagLines (indentLines (splitTagLines text) indent)) indent =
      indentLines (splitTagLines text) indent := by
  have hblank : ∀ d, (times d indent).isBlank := fun d =>
    isBlank_of_all_isXmlBlank (hindent.all_isXmlBlank d)
  exact placeLines_congr _ (normalForm_placeLines hblank text)

/-- No surrogate comes from laying out. -/
theorem scalar_indentLines (hindent : IsSpaces indent)
    (htext : ∀ c ∈ text.trim, ¬ c.isSurrogate) :
    ∀ c ∈ indentLines (splitTagLines text) indent, ¬ c.isSurrogate := by
  intro c hc hsurrogate
  rcases mem_indentLines hindent hc with rfl | rfl | hc
  · exact absurd hsurrogate (by decide)
  · exact absurd hsurrogate (by decide)
  · exact htext c (mem_trim_of_visible (not_isBlank_of_isSurrogate hsurrogate) hc) hsurrogate

end Again

/-- A text without surrogates is refused for its fault only. -/
theorem inspect_of_scalar {t : Text} (h : ∀ c ∈ t, ¬ c.isSurrogate) :
    inspect t = match check t with
      | none => .ok ()
      | some diagnostic => .error (.illFormed diagnostic) := by
  rw [← Utf8.isOk_encode] at h
  rcases hencode : Utf8.encode t with e | bytes
  · rw [hencode] at h
    exact absurd h (by simp [Except.isOk, Except.toBool])
  · rw [inspect, hencode]
    rcases check t with _ | diagnostic <;> rfl

/-- **Laying out again.**  A text that was laid out stays as it is, unless the check refuses it. -/
theorem reindent_of_reindent {text indent out : Text} (hindent : IsSpaces indent)
    (h : reindent text indent = .ok out) :
    reindent out indent =
      if out = [] then .ok [] else
        match check out with
        | none => .ok out
        | some diagnostic => .error (.illFormed diagnostic) := by
  rw [reindent_eq_ok] at h
  split at h
  · rw [h]
    rfl
  · obtain ⟨hinspect, hout⟩ := h
    -- Nothing in the text is changed before it is cut.
    have hunified : out.unifyLineEnds = out := by
      rw [hout]
      exact unifyLineEnds_indentLines hindent (not_mem_unifyLineEnds text)
    have htrim : out.trim = out := by
      rw [hout, indentLines, placeLines, trim_trim]
    have hagain : indentLines (splitTagLines out) indent = out := by
      rw [hout]
      exact indentLines_indentLines hindent _
    have hscalar : ∀ c ∈ out, ¬ c.isSurrogate := by
      rw [hout]
      exact scalar_indentLines hindent (inspect_eq_ok.mp hinspect).1
    split
    · next hempty =>
      rw [hempty]
      rfl
    · next hne =>
      have hvisible : ¬ out.isBlank := by
        intro hblank
        rw [trim, trimStart_of_isBlank hblank] at htrim
        exact hne htrim.symm
      rw [reindent, layOut, if_neg hvisible]
      dsimp only
      rw [hunified, htrim, inspect_of_scalar hscalar]
      rcases check out with _ | diagnostic
      · exact congrArg Except.ok hagain
      · rfl

end StructuredText.Xml
