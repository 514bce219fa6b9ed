/-
# Texts that have bytes

Lone surrogates are the only code points without bytes in UTF-8.

* `isOk_encode` tells the texts that can be encoded.
-/
import Mathlib
import StructuredText.Text.Utf8

namespace StructuredText.Utf8

/-- Bytes are there for a text without surrogates. -/
theorem isOk_encode {t : Text} : (encode t).isOk ↔ ∀ c ∈ t, ¬ c.isSurrogate := by
  unfold encode
  simp only
  split
  · next hdrop =>
    refine iff_of_true rfl fun c hc => ?_
    have htake : t.takeWhile (fun c => !c.isSurrogate) = t := by
      refine (List.takeWhile_prefix _).eq_of_length_le ?_
      exact List.drop_eq_nil_iff.mp hdrop
    rw [← htake] at hc
    simpa using List.mem_takeWhile_imp hc
  · next c rest hdrop =>
    refine iff_of_false (by simp [Except.isOk, Except.toBool]) fun h => ?_
    have hall : t.takeWhile (fun c => !c.isSurrogate) = t :=
      List.takeWhile_eq_self_iff.mpr fun c hc => by simpa using h c hc
    rw [hall, List.drop_length] at hdrop
    exact absurd hdrop (by simp)

end StructuredText.Utf8
