/-
# Reading back the shortest decimal number

The decimal number that is written for a magnitude is read back as that magnitude, and it stays the
same number when its trailing zeros are dropped.

* `Magnitude.ofDecimal?_shortest`: it reads back;
* `Magnitude.isNearest_shortest`: so it does without its trailing zeros.
-/
import Mathlib
import StructuredText.Double.Shortest
import StructuredText.Proofs.Double.Nearest

namespace StructuredText

namespace Decimal

/-- The number that a decimal stands for. -/
def size (d : Decimal) : ℚ := d.digits * 10 ^ d.exponent

/-- Dropping trailing zeros keeps the number. -/
theorem size_trimmed (d : Decimal) : d.trimmed.size = d.size := by
  induction d using trimmed.induct with
  | case1 d h ih =>
    rw [trimmed, dif_pos h, ih]
    have hdigits : (d.digits : ℚ) = (d.digits / 10 : ℕ) * 10 := by
      have : d.digits = d.digits / 10 * 10 := by omega
      exact_mod_cast this
    rw [size, size, hdigits, zpow_add_one₀ (by norm_num)]
    ring
  | case2 d h => rw [trimmed, dif_neg h]

end Decimal

namespace Magnitude

/-- Every magnitude is below the limit. -/
theorem value_lt_limit (m : Magnitude) : m.value < limit := by
  have hunits : (m.units : ℚ) ≤ unitsOf (bitsEnd - 1) := by
    have hbits : m.bits ≤ bitsEnd - 1 := Nat.le_sub_one_of_lt m.finite
    exact_mod_cast strictMono_unitsOf.monotone hbits
  have hlast : (unitsOf (bitsEnd - 1) : ℚ) < limit * 2 ^ 1074 := by
    obtain ⟨middle, half, hpos, hmiddle, hlast, -⟩ := exists_last_gap
    rw [limit_units, hmiddle, hlast]
    exact sub_lt_self middle hpos
  rw [value, div_lt_iff₀ (by positivity)]
  exact hunits.trans_lt hlast

/-- A magnitude is nearest to itself. -/
theorem isNearest_value (m : Magnitude) : IsNearest m.value m := by
  constructor
  · intro other
    rw [sub_self, abs_zero]
    exact abs_nonneg _
  · intro other hne htie
    rw [sub_self, abs_zero, eq_comm, abs_eq_zero, sub_eq_zero] at htie
    refine absurd (bits_injective ?_) hne
    rcases Nat.lt_trichotomy other.bits m.bits with h | h | h
    · exact absurd htie (value_strictMono.mpr h).ne
    · exact h
    · exact absurd htie (value_strictMono.mpr h).ne'

/-- The exact decimal number of a magnitude. -/
theorem size_exact (m : Magnitude) : m.exact.size = m.value := by
  have hten : (10 : ℚ) ^ 1074 = 2 ^ 1074 * 5 ^ 1074 := by
    rw [← mul_pow]
    norm_num
  simp only [exact, Decimal.size, value, Nat.pow_eq, Nat.cast_mul, Nat.cast_pow, Nat.cast_ofNat]
  rw [zpow_neg, zpow_ofNat, hten]
  have h5 : (5 : ℚ) ^ 1074 ≠ 0 := pow_ne_zero _ (by norm_num)
  generalize (5 : ℚ) ^ 1074 = five at h5
  rw [mul_inv_rev, mul_assoc, ← mul_assoc five, mul_inv_cancel₀ h5, one_mul, div_eq_mul_inv]

theorem ofDecimal?_exact (m : Magnitude) :
    ofDecimal? m.exact.digits m.exact.exponent = some m := by
  have hsize : (m.exact.digits : ℚ) * 10 ^ m.exact.exponent = m.value := size_exact m
  rw [ofDecimal?_eq_some_iff, hsize]
  exact ⟨value_lt_limit m, isNearest_value m⟩

/-- What is taken from a grid reads back. -/
theorem readsBack_of_onGrid? {m : Magnitude} {exponent : ℤ} {d : Decimal}
    (h : m.onGrid? exponent = some d) : m.readsBack d := by
  unfold onGrid? at h
  simp only at h
  split_ifs at h with hrounded hbelow habove
  · rwa [← Option.some.inj h]
  · rwa [← Option.some.inj h]
  · rwa [← Option.some.inj h]

/-- **The shortest decimal number is read back.** -/
theorem ofDecimal?_shortest (m : Magnitude) :
    ofDecimal? m.shortest.digits m.shortest.exponent = some m := by
  -- Whatever grid it was taken from, it was tried; the exact number needs no trial.
  unfold shortest
  cases h : (List.range 17).findSome? fun (more : ℕ) => m.onGrid? (m.leadingExponent - more) with
  | none => exact ofDecimal?_exact m
  | some d =>
    obtain ⟨more, -, hgrid⟩ := List.exists_of_findSome?_eq_some h
    have := readsBack_of_onGrid? hgrid
    simpa [readsBack] using this

/-- The shortest decimal number is in range, and no magnitude is nearer to it. -/
theorem isNearest_shortest (m : Magnitude) :
    m.shortest.trimmed.size < limit ∧ IsNearest m.shortest.trimmed.size m := by
  rw [Decimal.size_trimmed, Decimal.size]
  exact (ofDecimal?_eq_some_iff _ _ _).mp m.ofDecimal?_shortest

end Magnitude

end StructuredText
