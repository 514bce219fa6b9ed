/-
# Rounding to the nearest double

The magnitude that a rational number is rounded to is the nearest one, and of two equally near
ones the one with even bits; numbers from `2 ^ 1024 - 2 ^ 970` on have none.

* `unitsOf_significand` reads a pattern of bits as a significand with a power of two;
* `nearest_nearestBits` says what is nearest among all patterns of bits, also those that are no
  magnitudes;
* `ofDecimal?_eq_none_iff` and `ofDecimal?_eq_some_iff` are the two laws for decimal numbers.
-/
import Mathlib
import StructuredText.Double

namespace StructuredText.Magnitude

/-! ## Units -/

/-- The units that a pattern of bits stands for, be it finite or not. -/
def unitsOf (bits : ℕ) : ℕ :=
  if bits / 2 ^ 52 = 0 then bits % 2 ^ 52
  else (2 ^ 52 + bits % 2 ^ 52) * 2 ^ (bits / 2 ^ 52 - 1)

theorem units_eq (m : Magnitude) : m.units = unitsOf m.bits := rfl

/-- A significand and a power of two, read off the bits.  The significand may carry over into
the exponent. -/
theorem unitsOf_significand {k r : ℕ} (low : k = 0 ∨ 2 ^ 52 ≤ r) (high : r ≤ 2 ^ 53) :
    unitsOf (k * 2 ^ 52 + r) = r * 2 ^ k := by
  unfold unitsOf
  by_cases hsmall : r < 2 ^ 52
  · have hk : k = 0 := by omega
    subst hk
    rw [if_pos (by omega)]
    omega
  by_cases hcarry : r = 2 ^ 53
  · have hdiv : (k * 2 ^ 52 + r) / 2 ^ 52 = k + 2 := by omega
    have hmod : (k * 2 ^ 52 + r) % 2 ^ 52 = 0 := by omega
    rw [hdiv, hmod, if_neg (by omega), hcarry, show k + 2 - 1 = k + 1 by omega, pow_succ]
    ring
  · have hdiv : (k * 2 ^ 52 + r) / 2 ^ 52 = k + 1 := by omega
    have hmod : 2 ^ 52 + (k * 2 ^ 52 + r) % 2 ^ 52 = r := by omega
    rw [hdiv, hmod, if_neg (by omega), Nat.add_sub_cancel]

/-- Every pattern of bits is a significand with a power of two. -/
theorem exists_significand (bits : ℕ) :
    ∃ k r : ℕ, bits = k * 2 ^ 52 + r ∧ (k = 0 ∨ 2 ^ 52 ≤ r) ∧ r < 2 ^ 53 := by
  by_cases h : bits < 2 ^ 52
  · exact ⟨0, bits, by omega, Or.inl rfl, by omega⟩
  · exact ⟨bits / 2 ^ 52 - 1, 2 ^ 52 + bits % 2 ^ 52, by omega, Or.inr (by omega), by omega⟩

/-- Larger patterns of bits stand for more units. -/
theorem strictMono_unitsOf : StrictMono unitsOf := by
  refine strictMono_nat_of_lt_succ fun bits => ?_
  obtain ⟨k, r, rfl, low, high⟩ := exists_significand bits
  rw [unitsOf_significand low high.le, Nat.add_assoc, unitsOf_significand (by omega) (by omega)]
  exact Nat.mul_lt_mul_of_pos_right (by omega) (by positivity)

/-! ## Nearest patterns of bits -/

/-- A pattern of bits that is nearest to some number of units; a tie goes to the even one. -/
def NearestBits (x : ℚ) (bits : ℕ) : Prop :=
  ∀ other, other ≠ bits →
    |(unitsOf bits : ℚ) - x| < |(unitsOf other : ℚ) - x| ∨
      (|(unitsOf bits : ℚ) - x| = |(unitsOf other : ℚ) - x| ∧ Even bits)

theorem strictMono_unitsOf_rat : StrictMono fun bits => (unitsOf bits : ℚ) :=
  Nat.strictMono_cast.comp strictMono_unitsOf

/-- The nearer of the two neighbours of a number is nearest; half way between them it is the even
one. -/
theorem nearestBits_of_neighbours {x : ℚ} {b bits : ℕ} (low : unitsOf b ≤ x)
    (high : x < unitsOf (b + 1))
    (choice : (x - unitsOf b < unitsOf (b + 1) - x ∧ bits = b) ∨
      (unitsOf (b + 1) - x < x - unitsOf b ∧ bits = b + 1) ∨
      (x - unitsOf b = unitsOf (b + 1) - x ∧ (bits = b ∨ bits = b + 1) ∧ Even bits)) :
    NearestBits x bits := by
  have mono := strictMono_unitsOf_rat
  have below : |(unitsOf b : ℚ) - x| = x - unitsOf b := by
    rw [abs_sub_comm, abs_of_nonneg (by linarith)]
  have above : |(unitsOf (b + 1) : ℚ) - x| = unitsOf (b + 1) - x := abs_of_nonneg (by linarith)
  -- All other patterns are farther away than the neighbour on their side.
  have farBelow : ∀ other < b, x - unitsOf b < |(unitsOf other : ℚ) - x| := by
    intro other h
    have : (unitsOf other : ℚ) < unitsOf b := mono h
    rw [abs_sub_comm, abs_of_nonneg (by linarith)]
    linarith
  have farAbove : ∀ other > b + 1, unitsOf (b + 1) - x < |(unitsOf other : ℚ) - x| := by
    intro other h
    have : (unitsOf (b + 1) : ℚ) < unitsOf other := mono h
    rw [abs_of_nonneg (by linarith)]
    linarith
  intro other hother
  have hside : other < b ∨ other = b ∨ other = b + 1 ∨ b + 1 < other := by omega
  rcases choice with ⟨hlt, rfl⟩ | ⟨hlt, rfl⟩ | ⟨htie, hbits, heven⟩
  · left
    rw [below]
    rcases hside with h | h | rfl | h
    · exact farBelow other h
    · exact absurd h hother
    · rwa [above]
    · exact hlt.trans (farAbove other h)
  · left
    rw [above]
    rcases hside with h | rfl | h | h
    · exact hlt.trans (farBelow other h)
    · rwa [below]
    · exact absurd h hother
    · exact farAbove other h
  · have own : |(unitsOf bits : ℚ) - x| = x - unitsOf b := by
      rcases hbits with rfl | rfl
      · exact below
      · rw [above, htie]
    rw [own]
    rcases hside with h | rfl | rfl | h
    · exact Or.inl (farBelow other h)
    · exact Or.inr ⟨below.symm, heven⟩
    · exact Or.inr ⟨by rw [above, htie], heven⟩
    · exact Or.inl (htie ▸ farAbove other h)

/-- The leading fifty-three digits of a quotient, cut off and not rounded. -/
theorem between_significands (num den : ℕ) :
    let k := Nat.log2 (num / den) - 52
    let r := num / (den * 2 ^ k)
    (k = 0 ∨ 2 ^ 52 ≤ r) ∧ r < 2 ^ 53 := by
  intro k r
  have hr : r = num / den / 2 ^ k := (Nat.div_div_eq_div_mul num den _).symm
  by_cases hq : num / den = 0
  · rw [hr, hq, Nat.zero_div]
    refine ⟨Or.inl ?_, by norm_num⟩
    show Nat.log2 (num / den) - 52 = 0
    rw [hq]
    rfl
  have hlow : 2 ^ Nat.log2 (num / den) ≤ num / den := Nat.log2_self_le hq
  have hhigh : num / den < 2 ^ (Nat.log2 (num / den) + 1) := Nat.lt_log2_self
  constructor
  · by_cases hk : k = 0
    · exact Or.inl hk
    · refine Or.inr ?_
      rw [hr, Nat.le_div_iff_mul_le (by positivity), ← pow_add]
      have : 52 + k = Nat.log2 (num / den) := by omega
      rwa [this]
  · rw [hr, Nat.div_lt_iff_lt_mul (by positivity), ← pow_add]
    exact hhigh.trans_le (Nat.pow_le_pow_right (by norm_num) (by omega))

theorem roundDiv_cases (num den : ℕ) :
    (2 * (num % den) < den ∧ roundDiv num den = num / den) ∨
      (den < 2 * (num % den) ∧ roundDiv num den = num / den + 1) ∨
      (2 * (num % den) = den ∧ roundDiv num den = num / den + num / den % 2) := by
  unfold roundDiv
  simp only
  split
  · next h => exact Or.inl ⟨h, rfl⟩
  · split
    · next h => exact Or.inr (Or.inl ⟨h, rfl⟩)
    · exact Or.inr (Or.inr ⟨by omega, rfl⟩)

/-- **The bits found are the nearest.** -/
theorem nearest_nearestBits (num : ℕ) {den : ℕ} (hden : 0 < den) :
    NearestBits (num / den) (nearestBits num den) := by
  obtain ⟨low, high⟩ := between_significands num den
  set k := Nat.log2 (num / den) - 52
  set scale := den * 2 ^ k with hscale
  set r := num / scale
  set rem := num % scale
  have hdenQ : (0 : ℚ) < den := by exact_mod_cast hden
  -- How far off the two neighbours of the quotient are.
  have hnum : (num : ℚ) = den * 2 ^ k * r + rem := by
    have : scale * r + rem = num := Nat.div_add_mod num scale
    rw [← this, hscale]
    push_cast
    ring
  have hbelow : (num : ℚ) / den - unitsOf (k * 2 ^ 52 + r) = rem / den := by
    rw [unitsOf_significand low high.le, hnum]
    push_cast
    field_simp
    ring
  have habove : unitsOf (k * 2 ^ 52 + r + 1) - (num : ℚ) / den = (scale - rem) / den := by
    rw [Nat.add_assoc, unitsOf_significand (by omega) (by omega), hnum, hscale]
    push_cast
    field_simp
    ring
  have hrem : (rem : ℚ) < scale := by exact_mod_cast Nat.mod_lt num (by positivity : 0 < scale)
  have hlow : (0 : ℚ) ≤ rem / den := by positivity
  have hhigh : (0 : ℚ) < (scale - rem) / den := div_pos (by linarith) hdenQ
  have hbits : nearestBits num den = k * 2 ^ 52 + roundDiv num scale := rfl
  refine nearestBits_of_neighbours (b := k * 2 ^ 52 + r) (by linarith) (by linarith) ?_
  rw [hbelow, habove, div_lt_div_iff_of_pos_right hdenQ, div_lt_div_iff_of_pos_right hdenQ,
    div_left_inj' hdenQ.ne', hbits]
  rcases roundDiv_cases num scale with ⟨h, hround⟩ | ⟨h, hround⟩ | ⟨h, hround⟩
  · have : 2 * (rem : ℚ) < scale := by exact_mod_cast h
    exact Or.inl ⟨by linarith, by rw [hround]⟩
  · have : (scale : ℚ) < 2 * rem := by exact_mod_cast h
    exact Or.inr (Or.inl ⟨by linarith, by rw [hround, Nat.add_assoc]⟩)
  · have : 2 * (rem : ℚ) = scale := by exact_mod_cast h
    refine Or.inr (Or.inr ⟨by linarith, ?_⟩)
    rw [hround, Nat.even_iff]
    omega

/-! ## The range of magnitudes -/

/-- The pattern of bits after that of the greatest magnitude. -/
def bitsEnd : ℕ := 2047 * 2 ^ 52

theorem unitsOf_last : unitsOf (bitsEnd - 1) = (2 ^ 53 - 1) * 2 ^ 2045 := by
  rw [show bitsEnd - 1 = 2045 * 2 ^ 52 + (2 ^ 53 - 1) by decide]
  exact unitsOf_significand (Or.inr (by norm_num)) (by norm_num)

theorem unitsOf_end : unitsOf bitsEnd = 2 ^ 53 * 2 ^ 2045 := by
  rw [show bitsEnd = 2045 * 2 ^ 52 + 2 ^ 53 by decide]
  exact unitsOf_significand (Or.inr (by norm_num)) le_rfl

/-- The last gap: the middle between its ends, and half its width. -/
theorem exists_last_gap :
    ∃ middle half : ℚ, 0 < half ∧ (2 ^ 54 - 1) * 2 ^ 2044 = middle ∧
      unitsOf (bitsEnd - 1) = middle - half ∧ unitsOf bitsEnd = middle + half := by
  have hdouble : (2 : ℚ) ^ 2045 = 2 * 2 ^ 2044 := by rw [pow_succ, mul_comm]
  refine ⟨_, 2 ^ 2044, by positivity, rfl, ?_, ?_⟩
  · rw [unitsOf_last, Nat.cast_mul, Nat.cast_pow, Nat.cast_ofNat, hdouble]
    generalize (2 : ℚ) ^ 2044 = half
    norm_num
    ring
  · rw [unitsOf_end, Nat.cast_mul, Nat.cast_pow 2 2045, Nat.cast_ofNat, hdouble]
    generalize (2 : ℚ) ^ 2044 = half
    norm_num
    ring

/-- **Overflow is exactly at the middle** between the greatest magnitude and the next power of
two. -/
theorem NearestBits.lt_bitsEnd_iff {x : ℚ} {bits : ℕ} (h : NearestBits x bits) :
    bits < bitsEnd ↔ x < (2 ^ 54 - 1) * 2 ^ 2044 := by
  have mono := strictMono_unitsOf_rat
  obtain ⟨middle, half, hpos, hmiddle, hlast, hend⟩ := exists_last_gap
  rw [hmiddle]
  clear hmiddle
  -- Either way the other end of the last gap would be nearer; at the middle both ends are equally
  -- near, and the tie decides.
  constructor
  · intro hlt
    by_contra! hx
    have hle : (unitsOf bits : ℚ) ≤ unitsOf (bitsEnd - 1) := mono.monotone (by omega)
    have hown : |(unitsOf bits : ℚ) - x| = x - unitsOf bits := by
      rw [abs_sub_comm, abs_of_nonneg (by linarith)]
    have hother : |(unitsOf bitsEnd : ℚ) - x| ≤ x - unitsOf (bitsEnd - 1) := by
      rw [abs_le]
      constructor <;> linarith
    rcases h bitsEnd (by omega) with hnear | ⟨htie, heven⟩
    · linarith
    · -- A tie would be with the greatest magnitude, whose bits are odd.
      have heq : (unitsOf bits : ℚ) = unitsOf (bitsEnd - 1) := by linarith
      rw [mono.injective heq] at heven
      exact absurd heven (by decide)
  · intro hx
    by_contra! hge
    have hle : (unitsOf bitsEnd : ℚ) ≤ unitsOf bits := mono.monotone hge
    have hown : |(unitsOf bits : ℚ) - x| = unitsOf bits - x := abs_of_nonneg (by linarith)
    have hother : |(unitsOf (bitsEnd - 1) : ℚ) - x| < unitsOf bitsEnd - x := by
      rw [abs_lt]
      constructor <;> linarith
    have hends : bitsEnd - 1 ≠ bits := by
      have : 0 < bitsEnd := by decide
      omega
    rcases h (bitsEnd - 1) hends with hnear | ⟨htie, -⟩ <;> linarith

/-! ## The nearest magnitude -/

/-- The size that a magnitude stands for. -/
def value (m : Magnitude) : ℚ := m.units / 2 ^ 1074

/-- Numbers from here on are beyond every magnitude. -/
def limit : ℚ := 2 ^ 1024 - 2 ^ 970

/-- The magnitude that is nearest to a number; of two equally near ones, the one with even bits. -/
structure IsNearest (q : ℚ) (m : Magnitude) : Prop where
  near : ∀ other : Magnitude, |m.value - q| ≤ |other.value - q|
  even_of_tie : ∀ other : Magnitude, other ≠ m → |m.value - q| = |other.value - q| → Even m.bits

theorem bits_injective {m m' : Magnitude} (h : m.bits = m'.bits) : m = m' := by
  cases m
  cases m'
  simp_all

theorem value_strictMono {m m' : Magnitude} : m.value < m'.value ↔ m.bits < m'.bits := by
  unfold value
  rw [div_lt_div_iff_of_pos_right (by positivity), Nat.cast_lt]
  exact strictMono_unitsOf.lt_iff_lt

theorem abs_value_sub (m : Magnitude) (q : ℚ) :
    |m.value - q| = |(unitsOf m.bits : ℚ) - q * 2 ^ 1074| / 2 ^ 1074 := by
  rw [value, units_eq, ← abs_of_pos (show (0 : ℚ) < 2 ^ 1074 by positivity), ← abs_div,
    abs_of_pos (show (0 : ℚ) < 2 ^ 1074 by positivity)]
  congr 1
  field_simp

/-- What is nearest among all patterns of bits is nearest among magnitudes. -/
theorem NearestBits.isNearest {q : ℚ} {m : Magnitude} (h : NearestBits (q * 2 ^ 1074) m.bits) :
    IsNearest q m := by
  have hpos : (0 : ℚ) < 2 ^ 1074 := by positivity
  constructor
  · intro other
    rw [abs_value_sub, abs_value_sub, div_le_div_iff_of_pos_right hpos]
    by_cases hne : other.bits = m.bits
    · rw [hne]
    · rcases h other.bits hne with hlt | ⟨htie, -⟩
      · exact hlt.le
      · exact htie.le
  · intro other hne htie
    rw [abs_value_sub, abs_value_sub, div_left_inj' hpos.ne'] at htie
    rcases h other.bits (fun hbits => hne (bits_injective hbits)) with hlt | ⟨-, heven⟩
    · exact absurd htie hlt.ne
    · exact heven

/-- Two different magnitudes are never both nearest. -/
theorem IsNearest.unique {q : ℚ} {m m' : Magnitude} (h : IsNearest q m) (h' : IsNearest q m') :
    m = m' := by
  -- Both are even, so some magnitude lies between them and is nearer.
  have between : ∀ {m m' : Magnitude}, IsNearest q m → IsNearest q m' → ¬ m.bits < m'.bits := by
    intro m m' h h' hlt
    have hne : m' ≠ m := by
      rintro rfl
      exact absurd hlt (lt_irrefl _)
    have htie := le_antisymm (h.near m') (h'.near m)
    obtain ⟨n, hn⟩ := h.even_of_tie m' hne htie
    obtain ⟨n', hn'⟩ := h'.even_of_tie m (Ne.symm hne) htie.symm
    let middle : Magnitude := ⟨m.bits + 1, by have := m'.finite; omega⟩
    have hlow : m.value < middle.value := value_strictMono.mpr (Nat.lt_succ_self _)
    have hhigh : middle.value < m'.value :=
      value_strictMono.mpr (show m.bits + 1 < m'.bits by omega)
    have hnear := h.near middle
    have hnear' := h'.near middle
    rcases le_total middle.value q with hq | hq
    · rw [abs_of_nonpos (by linarith), abs_of_nonpos (by linarith)] at hnear
      linarith
    · rw [abs_of_nonneg (by linarith), abs_of_nonneg (by linarith)] at hnear'
      linarith
  exact bits_injective (le_antisymm (not_lt.mp (between h' h)) (not_lt.mp (between h h')))

/-! ## Quotients -/

theorem limit_units : limit * 2 ^ 1074 = (2 ^ 54 - 1) * 2 ^ 2044 := by
  have h₁ : (2 : ℚ) ^ 1024 * 2 ^ 1074 = 2 ^ 54 * 2 ^ 2044 := by
    rw [← pow_add, ← pow_add]
  have h₂ : (2 : ℚ) ^ 970 * 2 ^ 1074 = 2 ^ 2044 := (pow_add 2 970 1074).symm
  rw [limit, sub_mul, h₁, h₂]
  generalize (2 : ℚ) ^ 2044 = half
  ring

/-- A quotient of units has a magnitude just if it is below the limit. -/
theorem nearest?_eq_none_iff {num den : ℕ} (hden : 0 < den) {q : ℚ}
    (hq : (num : ℚ) / den = q * 2 ^ 1074) : nearest? num den = none ↔ limit ≤ q := by
  have h := (nearest_nearestBits num hden).lt_bitsEnd_iff
  rw [hq, ← limit_units, mul_lt_mul_iff_left₀ (by positivity)] at h
  unfold nearest?
  rw [← not_lt, ← h]
  simp [bitsEnd]

/-- The magnitude of a quotient is the nearest one. -/
theorem isNearest_of_nearest? {num den : ℕ} (hden : 0 < den) {q : ℚ}
    (hq : (num : ℚ) / den = q * 2 ^ 1074) {m : Magnitude} (h : nearest? num den = some m) :
    IsNearest q m := by
  unfold nearest? at h
  split at h
  · refine NearestBits.isNearest ?_
    rw [← Option.some.inj h, ← hq]
    exact nearest_nearestBits num hden
  · exact absurd h (by simp)

/-! ## Decimal numbers -/

theorem ofDecimal?_zero (exponent : ℤ) : ofDecimal? 0 exponent = some zero := rfl

/-- What is less than half the least magnitude above zero is nearest to zero. -/
theorem isNearest_zero {q : ℚ} (hq : 0 ≤ q) (hsmall : 2 * q * 2 ^ 1074 < 1) :
    IsNearest q zero := by
  have hpos : (0 : ℚ) < 2 ^ 1074 := by positivity
  have hzero : zero.value = 0 := by simp [value, units_eq, zero, unitsOf]
  have hfar : ∀ other : Magnitude, other ≠ zero → q < |other.value - q| := by
    intro other hne
    have hbits : 0 < other.bits := by
      by_contra! h
      exact hne (bits_injective (Nat.le_zero.mp h))
    have hunits : 1 ≤ unitsOf other.bits := Nat.one_le_iff_ne_zero.mpr
      (Nat.pos_iff_ne_zero.mp ((Nat.zero_le _).trans_lt (strictMono_unitsOf hbits)))
    have hunitsQ : (1 : ℚ) ≤ unitsOf other.bits := by exact_mod_cast hunits
    have hvalue : 2 * q < other.value := by
      rw [value, units_eq, lt_div_iff₀ hpos]
      exact hsmall.trans_le hunitsQ
    rw [abs_of_nonneg (by linarith)]
    linarith
  have hown : |zero.value - q| = q := by rw [hzero, zero_sub, abs_neg, abs_of_nonneg hq]
  constructor
  · intro other
    rw [hown]
    by_cases hne : other = zero
    · rw [hne, hown]
    · exact (hfar other hne).le
  · intro other hne htie
    rw [hown] at htie
    exact absurd htie (hfar other hne).ne

theorem two_pow_le_ten_pow : (2 : ℚ) ^ 1200 ≤ 10 ^ 400 :=
  calc (2 : ℚ) ^ 1200 = (2 ^ 3) ^ 400 := pow_mul 2 3 400
    _ ≤ 10 ^ 400 := pow_le_pow_left₀ (by norm_num) (by norm_num) 400

/-- A number that is not above `10 ^ (-400)` is less than half the least magnitude. -/
theorem two_mul_lt_one_of_le {q : ℚ} (hq : q ≤ (10 ^ 400)⁻¹) : 2 * q * 2 ^ 1074 < 1 := by
  have hscale : (2 : ℚ) * 2 ^ 1074 = 2 ^ 1075 := (pow_succ' 2 1074).symm
  calc 2 * q * 2 ^ 1074 = 2 ^ 1075 * q := by rw [← hscale, mul_right_comm]
    _ ≤ 2 ^ 1075 * (2 ^ 1200)⁻¹ := mul_le_mul_of_nonneg_left
        (hq.trans (inv_anti₀ (by positivity) two_pow_le_ten_pow)) (by positivity)
    _ < 1 := by
        rw [mul_inv_lt_iff₀ (by positivity), one_mul]
        exact pow_lt_pow_right₀ (by norm_num) (by norm_num)

theorem limit_le_of_large {mantissa : ℕ} (hm : mantissa ≠ 0) {exponent : ℤ}
    (hlarge : 400 < exponent) : limit ≤ mantissa * (10 : ℚ) ^ exponent := by
  have hone : (1 : ℚ) ≤ mantissa := by exact_mod_cast Nat.one_le_iff_ne_zero.mpr hm
  calc limit ≤ 2 ^ 1024 := by
        rw [limit]
        exact sub_le_self _ (by positivity)
    _ ≤ 2 ^ 1200 := pow_le_pow_right₀ (by norm_num) (by norm_num)
    _ ≤ 10 ^ 400 := two_pow_le_ten_pow
    _ = (10 : ℚ) ^ (400 : ℤ) := (zpow_ofNat 10 400).symm
    _ ≤ 10 ^ exponent := zpow_le_zpow_right₀ (by norm_num) hlarge.le
    _ ≤ mantissa * 10 ^ exponent := le_mul_of_one_le_left (by positivity) hone

theorem two_mul_lt_one_of_small {mantissa : ℕ} {exponent : ℤ}
    (hsmall : exponent + (Nat.log2 mantissa + 1) < -400) :
    2 * (mantissa * (10 : ℚ) ^ exponent) * 2 ^ 1074 < 1 := by
  have hmantissa : (mantissa : ℚ) ≤ (10 : ℚ) ^ ((Nat.log2 mantissa : ℤ) + 1) := by
    have hlog : mantissa < 2 ^ (Nat.log2 mantissa + 1) := Nat.lt_log2_self
    have : mantissa ≤ 10 ^ (Nat.log2 mantissa + 1) :=
      hlog.le.trans (Nat.pow_le_pow_left (by norm_num) _)
    exact_mod_cast this
  refine two_mul_lt_one_of_le ?_
  calc (mantissa : ℚ) * 10 ^ exponent
      ≤ 10 ^ ((Nat.log2 mantissa : ℤ) + 1) * 10 ^ exponent :=
        mul_le_mul_of_nonneg_right hmantissa (by positivity)
    _ = 10 ^ (exponent + ((Nat.log2 mantissa : ℤ) + 1)) := by
        rw [← zpow_add₀ (by norm_num), add_comm]
    _ ≤ (10 : ℚ) ^ (-400 : ℤ) := zpow_le_zpow_right₀ (by norm_num) hsmall.le
    _ = (10 ^ 400)⁻¹ := by rw [zpow_neg, zpow_ofNat]

/-- The three ways in which a decimal number is rounded. -/
theorem ofDecimal?_cases {mantissa : ℕ} (hm : mantissa ≠ 0) (exponent : ℤ) :
    (limit ≤ mantissa * (10 : ℚ) ^ exponent ∧ ofDecimal? mantissa exponent = none) ∨
      (2 * (mantissa * (10 : ℚ) ^ exponent) * 2 ^ 1074 < 1 ∧
        ofDecimal? mantissa exponent = some zero) ∨
      ∃ num den : ℕ, 0 < den ∧ (num : ℚ) / den = mantissa * (10 : ℚ) ^ exponent * 2 ^ 1074 ∧
        ofDecimal? mantissa exponent = nearest? num den := by
  -- Far outside the range of magnitudes the power of ten is not computed, so only the outermost
  -- exponents are compared there; in between there is a quotient.
  unfold ofDecimal?
  rw [if_neg hm]
  by_cases hlarge : 400 < exponent
  · left
    rw [if_pos hlarge]
    exact ⟨limit_le_of_large hm hlarge, rfl⟩
  rw [if_neg hlarge]
  right
  by_cases hsmall : exponent + (Nat.log2 mantissa + 1) < -400
  · left
    rw [if_pos hsmall]
    exact ⟨two_mul_lt_one_of_small hsmall, rfl⟩
  · right
    rw [if_neg hsmall]
    cases exponent with
    | ofNat e =>
      refine ⟨_, 1, Nat.one_pos, ?_, rfl⟩
      simp only [Nat.cast_one, div_one, Int.ofNat_eq_natCast, zpow_natCast, Nat.pow_eq,
        Nat.cast_mul, Nat.cast_pow, Nat.cast_ofNat]
    | negSucc e =>
      refine ⟨_, Nat.pow 10 (e + 1), Nat.pow_pos (by norm_num), ?_, rfl⟩
      simp only [zpow_negSucc, Nat.pow_eq, Nat.cast_mul, Nat.cast_pow, Nat.cast_ofNat]
      rw [div_eq_mul_inv, mul_right_comm]

theorem limit_pos : 0 < limit := by
  rw [limit, sub_pos]
  exact pow_lt_pow_right₀ (by norm_num) (by norm_num)

/-- **A decimal number has no magnitude just if it is beyond the limit.** -/
theorem ofDecimal?_eq_none_iff (mantissa : ℕ) (exponent : ℤ) :
    ofDecimal? mantissa exponent = none ↔ limit ≤ mantissa * (10 : ℚ) ^ exponent := by
  by_cases hm : mantissa = 0
  · rw [hm, ofDecimal?_zero, Nat.cast_zero, zero_mul]
    exact iff_of_false (by simp) (not_le.mpr limit_pos)
  · rcases ofDecimal?_cases hm exponent with ⟨h, hnone⟩ | ⟨h, hzero⟩ | ⟨num, den, hden, hq, heq⟩
    · exact iff_of_true hnone h
    · rw [hzero]
      refine iff_of_false (by simp) fun hlimit => ?_
      have hunits : 1 ≤ mantissa * (10 : ℚ) ^ exponent * 2 ^ 1074 :=
        calc (1 : ℚ) ≤ (2 ^ 54 - 1) * 2 ^ 2044 :=
              one_le_mul_of_one_le_of_one_le (by norm_num) (one_le_pow₀ (by norm_num))
          _ = limit * 2 ^ 1074 := limit_units.symm
          _ ≤ mantissa * (10 : ℚ) ^ exponent * 2 ^ 1074 :=
              mul_le_mul_of_nonneg_right hlimit (by positivity)
      rw [mul_assoc] at h
      generalize (mantissa : ℚ) * 10 ^ exponent * 2 ^ 1074 = units at h hunits
      linarith
    · rw [heq, nearest?_eq_none_iff hden hq]

/-- **The magnitude of a decimal number is the nearest one.** -/
theorem ofDecimal?_eq_some_iff (mantissa : ℕ) (exponent : ℤ) (m : Magnitude) :
    ofDecimal? mantissa exponent = some m ↔
      mantissa * (10 : ℚ) ^ exponent < limit ∧ IsNearest (mantissa * (10 : ℚ) ^ exponent) m := by
  -- What is found is nearest; as nothing else is, the converse needs only that something is found.
  have hnearest : ∀ m', ofDecimal? mantissa exponent = some m' →
      IsNearest (mantissa * (10 : ℚ) ^ exponent) m' := by
    intro m' h
    by_cases hm : mantissa = 0
    · rw [hm, ofDecimal?_zero] at h
      rw [← Option.some.inj h, hm, Nat.cast_zero, zero_mul]
      exact isNearest_zero le_rfl (by simp)
    · rcases ofDecimal?_cases hm exponent with ⟨-, hnone⟩ | ⟨hsmall, hzero⟩ |
        ⟨num, den, hden, hq, heq⟩
      · rw [hnone] at h
        exact absurd h (by simp)
      · rw [hzero] at h
        rw [← Option.some.inj h]
        exact isNearest_zero (by positivity) hsmall
      · exact isNearest_of_nearest? hden hq (heq ▸ h)
  constructor
  · intro h
    refine ⟨?_, hnearest m h⟩
    rw [← not_le, ← ofDecimal?_eq_none_iff, h]
    simp
  · rintro ⟨hlimit, hm⟩
    rw [← not_le, ← ofDecimal?_eq_none_iff] at hlimit
    obtain ⟨m', h⟩ := Option.ne_none_iff_exists'.mp hlimit
    rw [h, (hnearest m' h).unique hm]

end StructuredText.Magnitude
