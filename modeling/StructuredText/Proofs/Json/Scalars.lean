/-
# Reading a word or a number

The values that hold no others, read at the front of a text.

* `readScalar_word` and `readScalar_number`: a word or a number is read to its end;
* `readScalar_sound`: what is read is one of them.
-/
import Mathlib
import StructuredText.Json.Parser
import StructuredText.Proofs.Json.Evaluation
import StructuredText.Proofs.Json.Grammar
import StructuredText.Proofs.Json.Numbers
import StructuredText.Proofs.Json.Strings
import StructuredText.Proofs.Text.Lines

namespace StructuredText.Json

open CodePoint (ofChar)

/-! ## Numbers -/

theorem NumberText.exists_cons {t : Text} {n : Numeral} (h : NumberText t n) :
    ∃ c r, t = c :: r ∧ (c = ofChar '-' ∨ c.isDigit) := by
  cases h with
  | @mk negative whole f ds x exponent hwhole =>
    cases negative with
    | true => exact ⟨_, _, rfl, Or.inl rfl⟩
    | false =>
      obtain ⟨d, rest, rfl, hd, -⟩ := hwhole.digits.exists_cons
      exact ⟨d, _, rfl, Or.inr hd⟩

/-- A number begins with its sign or with a digit. -/
theorem NumberText.head_ne {t : Text} {n : Numeral} (h : NumberText t n) (rest : Text) {x : Char}
    (hminus : ofChar '-' ≠ ofChar x) (hdigit : (ofChar x).isDigit = false) :
    ∀ c ∈ (t ++ rest).head?, c ≠ ofChar x := by
  obtain ⟨c, r, rfl, hc⟩ := h.exists_cons
  rintro c' hc'
  obtain rfl : c = c' := by simpa using hc'
  rcases hc with rfl | hc
  · exact hminus
  · exact ne_of_isDigit hc hdigit

/-- No number begins like a word. -/
theorem NumberText.startsNoWord {t : Text} {n : Numeral} (h : NumberText t n) (rest : Text) :
    ∀ c ∈ (t ++ rest).head?, c ≠ ofChar 'n' ∧ c ≠ ofChar 't' ∧ c ≠ ofChar 'f' := by
  intro c hc
  exact ⟨h.head_ne rest (by decide) (by decide) c hc, h.head_ne rest (by decide) (by decide) c hc,
    h.head_ne rest (by decide) (by decide) c hc⟩

theorem outcome?_readNumber (t : Text) :
    outcome? (readNumber t) =
      if (splitNumber t).digits = [] then none
      else
        (numberValue (splitNumber t).minus (splitNumber t).digits (splitNumber t).tail).toOption.map
          fun v => (v, (splitNumber t).rest) := by
  unfold readNumber
  by_cases h : (splitNumber t).digits = []
  · simp [h]
  · simp only [h, dite_false, if_false]
    cases numberValue (splitNumber t).minus (splitNumber t).digits (splitNumber t).tail <;> rfl

theorem readNumber_append {t rest : Text} {n : Numeral} (h : NumberText t n)
    (hrest : EndsNumber rest) :
    outcome? (readNumber (t ++ rest)) = n.value?.map fun v => (v, rest) := by
  cases h with
  | mk hwhole hfraction hexponent =>
    rw [outcome?_readNumber, splitNumber_append hwhole hfraction hexponent hrest,
      if_neg hwhole.digits.1, numberValue_eq hwhole hfraction hexponent]

theorem readNumber_sound {t rest : Text} {v : Value}
    (h : outcome? (readNumber t) = some (v, rest)) :
    ∃ front n, t = front ++ rest ∧ NumberText front n ∧ n.value? = some v := by
  rw [outcome?_readNumber] at h
  by_cases hdigits : (splitNumber t).digits = []
  · rw [if_pos hdigits] at h
    exact absurd h (by simp)
  · rw [if_neg hdigits] at h
    obtain ⟨negative, ds, f, x, exponent, hwhole, hfraction, hexponent, hminus, htail, htext⟩ :=
      splitNumber_sound hdigits
    rw [hminus, htail, numberValue_eq hwhole hfraction hexponent] at h
    obtain ⟨v', hv', heq⟩ := Option.map_eq_some_iff.mp h
    obtain ⟨rfl, rfl⟩ := Prod.mk.inj heq
    exact ⟨_, _, htext, .mk hwhole hfraction hexponent, hv'⟩

/-! ## Words -/

theorem afterWord?_sound {word t : Text} {h : word ≠ []} {r : Rest t}
    (hr : afterWord? word t h = some r) : t = word ++ r.val := by
  induction word generalizing t with
  | nil => exact absurd rfl h
  | cons w ws ih =>
    cases t with
    | nil => exact absurd hr (by simp [afterWord?])
    | cons c t =>
      by_cases hc : c = w
      · by_cases hws : ws = []
        · subst hws hc
          simp only [afterWord?, if_true, dite_true, Option.some.injEq] at hr
          rw [← hr]
          rfl
        · simp only [afterWord?, hc, if_true, hws, dite_false] at hr
          obtain ⟨r', hr', rfl⟩ := Option.map_eq_some_iff.mp hr
          rw [hc]
          exact congrArg (w :: ·) (ih hr')
      · exact absurd hr (by simp [afterWord?, hc])

/-! ## Either -/

/-- No number begins with the name of a constant. -/
theorem readNumber_constant {start t : Text}
    (hstart : start ∈ [("NaN" : Text), "Infinity", "-Infinity"]) (h : Text.beginsWith start t) :
    outcome? (readNumber t) = none := by
  obtain ⟨r, rfl⟩ := Text.beginsWith_iff.mp h
  simp only [List.mem_cons, List.not_mem_nil, or_false] at hstart
  rcases hstart with rfl | rfl | rfl <;> rfl

/-- A text without the first letter of a word does not begin with the word. -/
theorem afterWord?_eq_none {w : CodePoint} {ws t : Text} (h : ∀ c ∈ t.head?, c ≠ w)
    (hne : w :: ws ≠ []) : afterWord? (w :: ws) t hne = none := by
  cases t with
  | nil => rfl
  | cons c t => simp [afterWord?, h c rfl]

/-- A text that begins with no word is read as a number. -/
theorem readScalar_eq_readNumber {t : Text}
    (h : ∀ c ∈ t.head?, c ≠ ofChar 'n' ∧ c ≠ ofChar 't' ∧ c ≠ ofChar 'f') :
    outcome? (readScalar t) = outcome? (readNumber t) := by
  unfold readScalar
  rw [afterWord?_eq_none fun c hc => (h c hc).1, afterWord?_eq_none fun c hc => (h c hc).2.1,
    afterWord?_eq_none fun c hc => (h c hc).2.2]
  simp only
  split_ifs with hnan hinfinity hminus
  · exact (readNumber_constant (by simp) hnan).symm
  · exact (readNumber_constant (by simp) hinfinity).symm
  · exact (readNumber_constant (by simp) hminus).symm
  · rfl

/-- The words of JSON, each with its value. -/
def words : List (Text × Tree) := [("null", .null), ("true", .bool true), ("false", .bool false)]

theorem readScalar_word {word : Text} {tree : Tree} (h : (word, tree) ∈ words) (levels : ℕ)
    (rest : Text) :
    outcome? (readScalar (word ++ rest)) = (tree.value? levels).map fun v => (v, rest) := by
  simp only [words, List.mem_cons, Prod.mk.injEq, List.not_mem_nil, or_false] at h
  rcases h with ⟨rfl, rfl⟩ | ⟨rfl, rfl⟩ | ⟨rfl, rfl⟩ <;> rfl

theorem readScalar_number {t rest : Text} {n : Numeral} (h : NumberText t n)
    (hrest : EndsNumber rest) (levels : ℕ) :
    outcome? (readScalar (t ++ rest)) =
      ((Tree.number n).value? levels).map fun v => (v, rest) := by
  rw [readScalar_eq_readNumber (h.startsNoWord rest), readNumber_append h hrest, Tree.value?]

theorem readScalar_sound {t rest : Text} {v : Value} (h : outcome? (readScalar t) = some (v, rest))
    (levels : ℕ) :
    ∃ front tree, t = front ++ rest ∧ ValueText front tree ∧ tree.value? levels = some v := by
  unfold readScalar at h
  split at h
  · rename_i r hr
    obtain ⟨rfl, rfl⟩ := Prod.mk.inj (Option.some.inj h)
    exact ⟨_, _, afterWord?_sound hr, .null, rfl⟩
  split at h
  · rename_i r hr
    obtain ⟨rfl, rfl⟩ := Prod.mk.inj (Option.some.inj h)
    exact ⟨_, _, afterWord?_sound hr, .true, rfl⟩
  split at h
  · rename_i r hr
    obtain ⟨rfl, rfl⟩ := Prod.mk.inj (Option.some.inj h)
    exact ⟨_, _, afterWord?_sound hr, .false, rfl⟩
  split_ifs at h with hnan hinfinity hminus
  · exact absurd h (by simp)
  · exact absurd h (by simp)
  · exact absurd h (by simp)
  · obtain ⟨front, n, htext, hn, hv⟩ := readNumber_sound h
    exact ⟨front, _, htext, .number hn, by rw [Tree.value?, hv]⟩

end StructuredText.Json
