/-
# Decimal digits

The digits of a natural number and the number that digits stand for.

* `digitsValue_ofNat`: digits are read back;
* `digitsValue_append`: digits one after another.
-/
import Mathlib
import StructuredText.Text.Numeral

namespace StructuredText

open CodePoint (ofChar)

/-! ## One digit -/

namespace CodePoint

theorem val_ofNat {n : ℕ} (h : n < 0x110000) : (ofNat n).val = n := by
  rw [ofNat, dif_pos h]

theorem val_ofDigit {n : ℕ} (h : n < 10) : (ofDigit n).val = 0x30 + n :=
  val_ofNat (by omega)

theorem isDigit_ofDigit {n : ℕ} (h : n < 10) : (ofDigit n).isDigit := by
  simp only [isDigit, between, val_ofDigit h, Bool.and_eq_true, decide_eq_true_eq]
  omega

theorem digitValue_ofDigit {n : ℕ} (h : n < 10) : (ofDigit n).digitValue = n := by
  rw [digitValue, val_ofDigit h]
  omega

theorem ofDigit_ne_zero {n : ℕ} (h : n < 10) (hn : n ≠ 0) : ofDigit n ≠ ofChar '0' := by
  intro heq
  have hval := congrArg val heq
  rw [val_ofDigit h] at hval
  exact hn (Nat.add_left_cancel hval)

end CodePoint

namespace Text

/-! ## The digits of a number -/

theorem prependDigits_eq (n : ℕ) (rest : Text) : prependDigits n rest = ofNat n ++ rest := by
  unfold ofNat
  induction n using Nat.strong_induction_on generalizing rest with
  | _ n ih =>
    rw [prependDigits, prependDigits.eq_def n []]
    by_cases hn : n < 10
    · rw [if_pos hn, if_pos hn]
      rfl
    · rw [if_neg hn, if_neg hn, ih (n / 10) (by omega), ih (n / 10) (by omega) [_]]
      simp

theorem ofNat_of_lt {n : ℕ} (h : n < 10) : ofNat n = [.ofDigit n] := by
  rw [ofNat, prependDigits, if_pos h]

theorem ofNat_of_not_lt {n : ℕ} (h : ¬ n < 10) :
    ofNat n = ofNat (n / 10) ++ [.ofDigit (n % 10)] := by
  rw [ofNat, prependDigits, if_neg h, prependDigits_eq]

/-- What holds of the digits of every number. -/
theorem ofNat_induction {motive : ℕ → Text → Prop}
    (one : ∀ n, n < 10 → motive n [.ofDigit n])
    (more : ∀ n, ¬ n < 10 → motive (n / 10) (ofNat (n / 10)) →
      motive n (ofNat (n / 10) ++ [.ofDigit (n % 10)]))
    (n : ℕ) : motive n (ofNat n) := by
  induction n using Nat.strong_induction_on with
  | _ n ih =>
    by_cases hn : n < 10
    · rw [ofNat_of_lt hn]
      exact one n hn
    · rw [ofNat_of_not_lt hn]
      exact more n hn (ih (n / 10) (by omega))

theorem ofNat_ne_nil (n : ℕ) : ofNat n ≠ [] :=
  ofNat_induction (motive := fun _ t => t ≠ []) (by simp) (by simp) n

theorem isDigit_of_mem_ofNat (n : ℕ) : ∀ c ∈ ofNat n, c.isDigit := by
  refine ofNat_induction (motive := fun _ t => ∀ c ∈ t, c.isDigit) ?_ ?_ n
  · intro n hn c hc
    rw [List.mem_singleton.mp hc]
    exact CodePoint.isDigit_ofDigit hn
  · intro n _ ih c hc
    rcases List.mem_append.mp hc with hc | hc
    · exact ih c hc
    · rw [List.mem_singleton.mp hc]
      exact CodePoint.isDigit_ofDigit (Nat.mod_lt n (by norm_num))

/-- Only zero begins with a zero. -/
theorem head_ofNat (n : ℕ) (hn : n ≠ 0) : (ofNat n).head? ≠ some (ofChar '0') := by
  refine ofNat_induction (motive := fun n t => n ≠ 0 → t.head? ≠ some (ofChar '0')) ?_ ?_ n hn
  · intro n hlt hn
    simpa using CodePoint.ofDigit_ne_zero hlt hn
  · intro n hlt ih _
    rw [List.head?_append_of_ne_nil _ (ofNat_ne_nil _)]
    exact ih (by omega)

/-- A number below a power of ten has no more digits. -/
theorem length_ofNat_le (n : ℕ) {k : ℕ} (hk : 0 < k) (h : n < 10 ^ k) : (ofNat n).length ≤ k := by
  -- The bound shrinks with the number, so it is part of what is proved by induction.
  refine ofNat_induction (motive := fun n t => ∀ k, 0 < k → n < 10 ^ k → t.length ≤ k) ?_ ?_ n
    k hk h
  · intro n _ k hk _
    exact hk
  · intro n hn ih k hk h
    obtain ⟨j, rfl⟩ := Nat.exists_eq_add_of_lt hk
    rw [Nat.zero_add, pow_succ] at h
    have hj : 0 < j := by
      rcases Nat.eq_zero_or_pos j with rfl | hj
      · simp at h
        omega
      · exact hj
    have := ih j hj ((Nat.div_lt_iff_lt_mul (by norm_num)).mpr h)
    simp only [List.length_append, List.length_singleton]
    omega

/-! ## The number of some digits -/

theorem digitsValue_append_singleton (t : Text) (c : CodePoint) :
    digitsValue (t ++ [c]) = 10 * digitsValue t + c.digitValue := by
  rw [digitsValue, List.foldl_append]
  rfl

theorem digitsValue_append (s t : Text) :
    digitsValue (s ++ t) = digitsValue s * 10 ^ t.length + digitsValue t := by
  induction t using List.reverseRecOn with
  | nil => simp [digitsValue]
  | append_singleton t c ih =>
    rw [← List.append_assoc, digitsValue_append_singleton, ih, digitsValue_append_singleton,
      List.length_append, List.length_singleton, pow_succ]
    ring

/-- A number has no more digits than are written. -/
theorem digitsValue_lt {t : Text} (h : ∀ c ∈ t, c.isDigit) : digitsValue t < 10 ^ t.length := by
  induction t using List.reverseRecOn with
  | nil => simp [digitsValue]
  | append_singleton t c ih =>
    have hbefore := ih fun d hd => h d (List.mem_append_left _ hd)
    have hdigit : c.digitValue < 10 := by
      have hc := h c (by simp)
      simp only [CodePoint.isDigit, CodePoint.between, Bool.and_eq_true, decide_eq_true_eq] at hc
      unfold CodePoint.digitValue
      omega
    rw [digitsValue_append_singleton, List.length_append, List.length_singleton, pow_succ]
    omega

/-- **Digits are read back.** -/
@[simp] theorem digitsValue_ofNat (n : ℕ) : digitsValue (ofNat n) = n := by
  refine ofNat_induction (motive := fun n t => digitsValue t = n) ?_ ?_ n
  · intro n hn
    simpa [digitsValue] using CodePoint.digitValue_ofDigit hn
  · intro n _ ih
    rw [digitsValue_append_singleton, ih, CodePoint.digitValue_ofDigit (Nat.mod_lt n (by norm_num))]
    omega

theorem ofNat_injective : Function.Injective ofNat :=
  Function.LeftInverse.injective digitsValue_ofNat

/-- A number that is told between the same words. -/
theorem concat_ofNat_inj {opening closing : Text} {m n : ℕ} :
    concat [opening, ofNat m, closing] = concat [opening, ofNat n, closing] ↔ m = n := by
  constructor
  · intro h
    exact ofNat_injective (List.append_cancel_right (List.append_cancel_left h))
  · rintro rfl
    rfl

@[simp] theorem digitsValue_zeros (n : ℕ) : digitsValue (List.replicate n (ofChar '0')) = 0 := by
  induction n with
  | zero => rfl
  | succ n ih =>
    rw [List.replicate_succ', digitsValue_append_singleton, ih]
    rfl

end Text

end StructuredText
