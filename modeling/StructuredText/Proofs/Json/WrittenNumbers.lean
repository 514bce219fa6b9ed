/-
# Written numbers

Integers and doubles are written as numbers of the grammar, and what is written denotes them again.

* `denotes_ofInt`: the number of an integer;
* `writes_toText`: the layouts of a decimal number, `exists_numeral_toText`: the number of a double.
-/
import Mathlib
import StructuredText.Double.Shortest
import StructuredText.Proofs.Double.ReadBack
import StructuredText.Proofs.Json.Grammar
import StructuredText.Proofs.Json.Numbers
import StructuredText.Proofs.Text.Digits

namespace StructuredText.Json

open CodePoint (ofChar)

/-! ## Digits -/

theorem digits_ofNat (n : ℕ) : Digits (Text.ofNat n) :=
  ⟨Text.ofNat_ne_nil n, Text.isDigit_of_mem_ofNat n⟩

theorem wholeText_ofNat (n : ℕ) : WholeText (Text.ofNat n) := by
  by_cases hn : n = 0
  · rw [hn, Text.ofNat_of_lt (by norm_num)]
    exact Or.inl rfl
  · exact Or.inr ⟨digits_ofNat n, Text.head_ofNat n hn⟩

theorem isDigit_of_mem_zeros (n : ℕ) : ∀ c ∈ Decimal.zeros n, c.isDigit := by
  intro c hc
  rw [List.eq_of_mem_replicate hc]
  decide

/-- A number from its parts. -/
theorem numberText_of_parts (negative : Bool) {whole f ds x t : Text} {exponent : Option ℤ}
    (hwhole : WholeText whole) (hfraction : FractionText f ds)
    (hexponent : ExponentText x exponent) (ht : t = whole ++ (f ++ x)) :
    NumberText (minusSign negative ++ t) ⟨negative, whole, ds, exponent⟩ := by
  rw [ht, ← List.append_assoc]
  exact .mk hwhole hfraction hexponent

/-! ## Integers -/

/-- An integer as it is written. -/
def Numeral.ofInt (n : ℤ) : Numeral := ⟨decide (n < 0), Text.ofNat n.natAbs, [], none⟩

theorem numberText_ofInt (n : ℤ) : NumberText (Text.ofInt n) (.ofInt n) := by
  have htext : Text.ofInt n = minusSign (decide (n < 0)) ++ Text.ofNat n.natAbs := by
    cases n with
    | ofNat n => simp [Text.ofInt, minusSign]
    | negSucc n => simp [Text.ofInt, minusSign, Int.negSucc_lt_zero]
  rw [htext]
  exact numberText_of_parts _ (wholeText_ofNat _) .absent .absent (by simp)

theorem integer_ofInt (n : ℤ) : (Numeral.ofInt n).integer = n := by
  unfold Numeral.integer Numeral.ofInt
  by_cases hn : n < 0
  · simp only [hn, decide_true, if_true, Text.digitsValue_ofNat]
    omega
  · simp only [hn, decide_false, Bool.false_eq_true, if_false, Text.digitsValue_ofNat]
    omega

theorem inRange_ofInt {n : ℤ} (h : n.natAbs < 10 ^ maxIntegerDigits) :
    (Numeral.ofInt n).InRange := by
  rw [Numeral.InRange, if_pos ⟨rfl, rfl⟩]
  exact Text.length_ofNat_le _ (by decide) h

/-- **An integer is what its number denotes.** -/
theorem denotes_ofInt (n : ℤ) : (Numeral.ofInt n).Denotes (.int n) := by
  have := Numeral.Denotes.int (n := Numeral.ofInt n) ⟨rfl, rfl⟩
  rwa [integer_ofInt] at this

/-! ## Decimals -/

/-- The exponent of a written decimal. -/
theorem exponentText_toText (e : ℤ) :
    ExponentText (ofChar 'e' :: Decimal.exponentText e) (some e) := by
  have hdigits :
      Digits (Decimal.zeros (2 - (Text.ofNat e.natAbs).length) ++ Text.ofNat e.natAbs) := by
    refine ⟨by simp [Text.ofNat_ne_nil], fun c hc => ?_⟩
    rcases List.mem_append.mp hc with hc | hc
    · exact isDigit_of_mem_zeros _ c hc
    · exact Text.isDigit_of_mem_ofNat _ c hc
  have hvalue : Text.digitsValue
      (Decimal.zeros (2 - (Text.ofNat e.natAbs).length) ++ Text.ofNat e.natAbs) = e.natAbs := by
    rw [Text.digitsValue_append, Decimal.zeros, Text.digitsValue_zeros, zero_mul, zero_add,
      Text.digitsValue_ofNat]
  unfold Decimal.exponentText
  by_cases he : e < 0
  · have := ExponentText.minus (Or.inl rfl) hdigits
    rw [hvalue, show -(e.natAbs : ℤ) = e by omega] at this
    simpa only [he, if_true] using this
  · have := ExponentText.plus (Or.inl rfl) hdigits
    rw [hvalue, show (e.natAbs : ℤ) = e by omega] at this
    simpa only [he, if_false] using this

/-- What a written decimal is: a number with a point or an exponent, of the same size. -/
def Writes (t : Text) (d : Decimal) : Prop :=
  ∃ whole f ds x exponent, WholeText whole ∧ FractionText f ds ∧ ExponentText x exponent ∧
    t = whole ++ (f ++ x) ∧ ¬ (ds = [] ∧ exponent = none) ∧
    (Text.digitsValue (whole ++ ds) : ℚ) * 10 ^ (exponent.getD 0 - ds.length) = d.size

section Layouts

variable {d : Decimal}

theorem writes_zero (hd : d.digits = 0) : Writes ("0.0" : Text) d := by
  refine ⟨[ofChar '0'], _, [ofChar '0'], [], none, Or.inl rfl, .present ⟨by simp, by decide⟩,
    .absent, rfl, by simp, ?_⟩
  rw [show Text.digitsValue ([ofChar '0'] ++ [ofChar '0']) = 0 by decide, Decimal.size, hd]
  simp

/-- With an exponent that is not negative, zeros follow the digits. -/
theorem writes_whole (hd : d.digits ≠ 0) {e : ℕ} (he : d.exponent = e) :
    Writes (Text.ofNat d.digits ++ Decimal.zeros e ++ (".0" : Text)) d := by
  have hwhole : WholeText (Text.ofNat d.digits ++ Decimal.zeros e) := by
    refine Or.inr ⟨⟨by simp [Text.ofNat_ne_nil], fun c hc => ?_⟩, ?_⟩
    · rcases List.mem_append.mp hc with hc | hc
      · exact Text.isDigit_of_mem_ofNat _ c hc
      · exact isDigit_of_mem_zeros _ c hc
    · rw [List.head?_append_of_ne_nil _ (Text.ofNat_ne_nil _)]
      exact Text.head_ofNat _ hd
  refine ⟨_, _, [ofChar '0'], [], none, hwhole, .present ⟨by simp, by decide⟩, .absent, rfl,
    by simp, ?_⟩
  rw [Text.digitsValue_append_singleton, Text.digitsValue_append, Text.digitsValue_ofNat,
    Decimal.zeros, Text.digitsValue_zeros, Decimal.size, he,
    show (ofChar '0').digitValue = 0 by decide]
  simp only [List.length_replicate, List.length_singleton, Option.getD_none, add_zero]
  push_cast
  rw [zpow_neg_one, zpow_natCast]
  ring

/-- A point between two digits. -/
theorem writes_point (hd : d.digits ≠ 0) {k : ℕ} (hk : 0 < k)
    (hlength : k < (Text.ofNat d.digits).length)
    (he : d.exponent = k - (Text.ofNat d.digits).length) :
    Writes ((Text.ofNat d.digits).take k ++ ("." : Text) ++ (Text.ofNat d.digits).drop k) d := by
  have hall := Text.isDigit_of_mem_ofNat d.digits
  have hhead := Text.head_ofNat d.digits hd
  have hvalue := Text.digitsValue_ofNat d.digits
  generalize Text.ofNat d.digits = digits at *
  have hwhole : WholeText (digits.take k) := by
    refine Or.inr ⟨⟨?_, fun c hc => hall c (List.mem_of_mem_take hc)⟩, ?_⟩
    · rw [ne_eq, List.take_eq_nil_iff]
      rintro (rfl | rfl)
      · exact absurd hk (lt_irrefl 0)
      · simp at hlength
    · rwa [List.head?_take, if_neg hk.ne']
  have hdrop : Digits (digits.drop k) :=
    ⟨by rw [ne_eq, List.drop_eq_nil_iff]; omega, fun c hc => hall c (List.mem_of_mem_drop hc)⟩
  refine ⟨_, _, _, [], none, hwhole, .present hdrop, .absent, ?_, by simp [hdrop.1], ?_⟩
  · rw [List.append_nil, List.append_assoc]
    rfl
  · rw [List.take_append_drop, hvalue, Decimal.size, he, List.length_drop,
      Nat.cast_sub hlength.le]
    simp

/-- Zeros between the point and the first digit. -/
theorem writes_small {j : ℕ} (he : d.exponent = -(j + (Text.ofNat d.digits).length : ℤ)) :
    Writes (("0." : Text) ++ Decimal.zeros j ++ Text.ofNat d.digits) d := by
  have hdigits : Digits (Decimal.zeros j ++ Text.ofNat d.digits) := by
    refine ⟨by simp [Text.ofNat_ne_nil], fun c hc => ?_⟩
    rcases List.mem_append.mp hc with hc | hc
    · exact isDigit_of_mem_zeros _ c hc
    · exact Text.isDigit_of_mem_ofNat _ c hc
  refine ⟨[ofChar '0'], _, _, [], none, Or.inl rfl, .present hdigits, .absent, ?_,
    by simp [hdigits.1], ?_⟩
  · rw [List.append_nil, List.append_assoc]
    rfl
  · rw [Text.digitsValue_append, Text.digitsValue_append, Decimal.zeros, Text.digitsValue_zeros,
      Text.digitsValue_ofNat, show Text.digitsValue [ofChar '0'] = 0 by decide, Decimal.size, he]
    simp

/-- One digit before the point, and an exponent. -/
theorem writes_exponent (hd : d.digits ≠ 0) {leading : ℤ}
    (hleading : leading = d.exponent + (Text.ofNat d.digits).length - 1) :
    Writes ((Text.ofNat d.digits).take 1 ++
      (if (Text.ofNat d.digits).length = 1 then [] else ("." : Text) ++
        (Text.ofNat d.digits).drop 1) ++ ("e" : Text) ++ Decimal.exponentText leading) d := by
  have hall := Text.isDigit_of_mem_ofNat d.digits
  have hhead := Text.head_ofNat d.digits hd
  have hvalue := Text.digitsValue_ofNat d.digits
  have hne := Text.ofNat_ne_nil d.digits
  generalize Text.ofNat d.digits = digits at *
  obtain ⟨c, ds, rfl⟩ := List.exists_cons_of_ne_nil hne
  have hwhole : WholeText [c] :=
    Or.inr ⟨⟨by simp, by simpa using hall c List.mem_cons_self⟩, by simpa using hhead⟩
  have hfraction : FractionText (if ds = [] then [] else ofChar '.' :: ds) ds := by
    by_cases hds : ds = []
    · rw [if_pos hds, hds]
      exact .absent
    · rw [if_neg hds]
      exact .present ⟨hds, fun c' hc' => hall c' (List.mem_cons_of_mem c hc')⟩
  refine ⟨_, _, _, _, _, hwhole, hfraction, exponentText_toText leading, ?_, by simp, ?_⟩
  · by_cases hds : ds = []
    · simp [hds]
      rfl
    · simp [hds]
      rfl
  · rw [List.singleton_append, hvalue, Decimal.size, Option.getD_some, hleading]
    congr 2
    rw [List.length_cons]
    push_cast
    ring

end Layouts

/-- **A decimal number is written as a number of its size.** -/
theorem writes_toText (d : Decimal) : Writes d.toText d := by
  unfold Decimal.toText
  simp only
  generalize hleading : d.exponent + (Text.ofNat d.digits).length - 1 = leading
  by_cases hzero : d.digits = 0
  · rw [if_pos hzero]
    exact writes_zero hzero
  · rw [if_neg hzero]
    -- Where the leading digit stands decides between the layouts.
    by_cases hpositional : -4 ≤ leading ∧ leading < 16
    · rw [if_pos hpositional]
      split_ifs with hwhole hpoint
      · exact writes_whole hzero (Int.toNat_of_nonneg hwhole).symm
      · refine writes_point hzero (Nat.succ_pos _) ?_ ?_ <;> omega
      · exact writes_small (by omega)
    · rw [if_neg hpositional]
      exact writes_exponent hzero hleading.symm

/-! ## Doubles -/

theorem minusSign_append (negative : Bool) (t : Text) :
    minusSign negative ++ t = if negative then ofChar '-' :: t else t := by
  cases negative <;> rfl

theorem toText_finite (negative : Bool) (m : Magnitude) :
    (Double.finite negative m).toText = minusSign negative ++ Double.magnitudeText m :=
  Eq.symm (minusSign_append negative (Double.magnitudeText m))

/-- **The text of a finite double is a number in range that denotes it.** -/
theorem exists_numeral_toText {x : Double} (hx : x.isFinite) :
    ∃ n, NumberText x.toText n ∧ n.InRange ∧ n.Denotes (.float x) := by
  cases x with
  | infinite => exact absurd hx (by simp [Double.isFinite])
  | notANumber => exact absurd hx (by simp [Double.isFinite])
  | finite negative m =>
    obtain ⟨whole, f, ds, x, exponent, hwhole, hfraction, hexponent, htext, hfloat, hsize⟩ :=
      writes_toText m.shortest.trimmed
    obtain ⟨hlimit, hnear⟩ := m.isNearest_shortest
    have hnumeral : (Numeral.mk negative whole ds exponent).size = m.shortest.trimmed.size := hsize
    have hinteger : ¬ (Numeral.mk negative whole ds exponent).IsInteger := hfloat
    rw [← hnumeral] at hlimit hnear
    refine ⟨⟨negative, whole, ds, exponent⟩, ?_, ?_, .float hinteger hnear⟩
    · -- The text has the digits without their trailing zeros, and these are the same number.
      rw [toText_finite, Double.magnitudeText]
      exact numberText_of_parts negative hwhole hfraction hexponent htext
    · rw [Numeral.InRange, if_neg hinteger]
      exact hlimit

/-- A double is written as a number, or by a name if it is not finite. -/
theorem toText_induction {motive : Text → Prop}
    (number : ∀ {t : Text} {n : Numeral}, NumberText t n → motive t)
    (name : ∀ t ∈ (["Infinity", "-Infinity", "NaN"] : List Text), motive t) (x : Double) :
    motive x.toText := by
  cases x with
  | finite negative m =>
    obtain ⟨n, htext, -⟩ := exists_numeral_toText (x := .finite negative m) rfl
    exact number htext
  | infinite negative =>
    cases negative with
    | true => exact name "-Infinity" (by simp)
    | false => exact name "Infinity" (by simp)
  | notANumber => exact name "NaN" (by simp)

end StructuredText.Json
