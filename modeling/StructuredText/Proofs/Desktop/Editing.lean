/-
# What an editor keeps

An editor changes line ends and blanks that must not break, and nothing else.  So a text without
carriage returns keeps its length, and no surrogate comes or goes.

* `length_keptText` and `scalar_keptText_iff` say so;
* `keptText_eq_nil_iff`: only nothing is kept as nothing.
-/
import Mathlib
import StructuredText.Desktop.Editor
import StructuredText.Proofs.Json.Surrogates
import StructuredText.Proofs.Text.Lines

namespace StructuredText.Desktop

open CodePoint (ofChar)
open Json (Scalar)

theorem length_keptText {t : Text} (h : ofChar '\r' ∉ t) : (keptText t).length = t.length := by
  rw [keptText, Text.unifyLineEnds_of_not_mem h, List.length_map]

theorem keptText_eq_nil_iff {t : Text} : keptText t = [] ↔ t = [] := by
  constructor
  · intro h
    cases t with
    | nil => rfl
    | cons c t =>
      have hfirst : (ofChar ' ' = ofChar '\r' ∧ c = ofChar '\n') ↔ False :=
        iff_false_intro fun h => absurd h.1 (by decide)
      simp [keptText, Text.unifyLineEnds, hfirst] at h
  · rintro rfl
    rfl

theorem isSurrogate_keptCodePoint (c : CodePoint) :
    (keptCodePoint c).isSurrogate = c.isSurrogate := by
  unfold keptCodePoint isEditorLineEnd
  split_ifs with hend hspace
  · have hc : c.isSurrogate = false := by
      simp only [CodePoint.isSurrogate, CodePoint.between, Bool.or_eq_true, beq_iff_eq] at hend ⊢
      rcases hend with ((h | h) | h) | h <;> rw [h] <;> rfl
    rw [hc]
    decide
  · have hc : c.isSurrogate = false := Json.not_surrogate_of_val_lt (by omega)
    rw [hc]
    decide
  · rfl

theorem scalar_iff_filter {t : Text} : Scalar t ↔ t.filter CodePoint.isSurrogate = [] := by
  rw [Scalar, List.filter_eq_nil_iff]
  simp only [Bool.not_eq_true]

/-- Line ends in one spelling have the surrogates of the text. -/
theorem scalar_unifyLineEnds_iff {t : Text} : Scalar t.unifyLineEnds ↔ Scalar t := by
  rw [scalar_iff_filter, scalar_iff_filter, Text.filter_unifyLineEnds (by decide) (by decide)]

theorem scalar_keptText_iff {t : Text} : Scalar (keptText t) ↔ Scalar t := by
  rw [keptText, Scalar, List.forall_mem_map]
  simp only [isSurrogate_keptCodePoint]
  exact scalar_unifyLineEnds_iff

/-- A literal text has no surrogates. -/
theorem scalar_ofString (s : String) : Scalar (Text.ofString s) := by
  intro c hc
  obtain ⟨ch, -, rfl⟩ := List.mem_map.mp hc
  rw [CodePoint.isSurrogate, CodePoint.between, Bool.and_eq_false_iff, decide_eq_false_iff_not,
    decide_eq_false_iff_not]
  rcases ch.valid with h | h
  · exact Or.inl (not_le.mpr h)
  · exact Or.inr (not_le.mpr h.1)

end StructuredText.Desktop
