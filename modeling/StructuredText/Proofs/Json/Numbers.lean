/-
# Reading a number

The reader takes the longest number that a text begins with.  What it takes is a number of the
grammar, and where nothing follows that would carry a number on, it takes exactly that number.

* `splitNumber_append` and `splitNumber_sound` are the two directions;
* `numberValue_eq` gives the value of a number, `Numeral.value?_eq_some_iff` says when there is one.
-/
import Mathlib
import StructuredText.Json.Parser
import StructuredText.Proofs.Double.Nearest
import StructuredText.Proofs.Json.Grammar

namespace StructuredText.Json

open CodePoint (ofChar)

/-! ## Runs of digits -/

/-- A text that does not begin with a digit. -/
def NoDigit (t : Text) : Prop := ∀ c ∈ t.head?, c.isDigit = false

theorem takeWhile_digits {ds rest : Text} (hds : ∀ c ∈ ds, c.isDigit) (hrest : NoDigit rest) :
    (ds ++ rest).takeWhile CodePoint.isDigit = ds := by
  rw [List.takeWhile_append_of_pos hds]
  cases rest with
  | nil => simp
  | cons c rest => rw [List.takeWhile_cons_of_neg (by simp [hrest c rfl]), List.append_nil]

theorem dropWhile_digits {ds rest : Text} (hds : ∀ c ∈ ds, c.isDigit) (hrest : NoDigit rest) :
    (ds ++ rest).dropWhile CodePoint.isDigit = rest := by
  rw [List.dropWhile_append_of_pos hds]
  cases rest with
  | nil => rfl
  | cons c rest => rw [List.dropWhile_cons_of_neg (by simp [hrest c rfl])]

theorem isDigit_of_mem_takeWhile {t : Text} : ∀ c ∈ t.takeWhile CodePoint.isDigit, c.isDigit :=
  fun _ hc => List.mem_takeWhile_imp hc

theorem Digits.exists_cons {ds : Text} (h : Digits ds) :
    ∃ d rest, ds = d :: rest ∧ d.isDigit ∧ ∀ c ∈ rest, c.isDigit := by
  obtain ⟨d, rest, rfl⟩ := List.exists_cons_of_ne_nil h.1
  exact ⟨d, rest, rfl, h.2 d List.mem_cons_self, fun c hc => h.2 c (List.mem_cons_of_mem d hc)⟩

theorem digits_cons_takeWhile {d : CodePoint} (hd : d.isDigit) (r : Text) :
    Digits (d :: r.takeWhile CodePoint.isDigit) := by
  refine ⟨by simp, fun c hc => ?_⟩
  rcases List.mem_cons.mp hc with rfl | hc
  · exact hd
  · exact isDigit_of_mem_takeWhile c hc

/-- No sign, point or letter is a digit. -/
theorem ne_of_isDigit {c : CodePoint} (h : c.isDigit) {x : Char} (hx : (ofChar x).isDigit = false) :
    c ≠ ofChar x := by
  rintro rfl
  rw [hx] at h
  exact absurd h (by simp)

theorem WholeText.digits {t : Text} (h : WholeText t) : Digits t := by
  rcases h with rfl | ⟨h, -⟩
  · exact ⟨by simp, by simp; decide⟩
  · exact h

/-! ## The parts of a number -/

/-- A text that does not carry on a number. -/
def EndsNumber (t : Text) : Prop :=
  NoDigit t ∧ ∀ c ∈ t.head?, c ≠ ofChar '.' ∧ ¬ ExponentLetter c

theorem endsNumber_nil : EndsNumber [] := ⟨by simp [NoDigit], by simp⟩

theorem endsNumber_cons {c : CodePoint} (hdigit : c.isDigit = false) (hpoint : c ≠ ofChar '.')
    (hletter : ¬ ExponentLetter c) (rest : Text) : EndsNumber (c :: rest) := by
  constructor
  · rintro c' hc'
    obtain rfl : c = c' := by simpa using hc'
    exact hdigit
  · rintro c' hc'
    obtain rfl : c = c' := by simpa using hc'
    exact ⟨hpoint, hletter⟩

theorem splitMinus_append (negative : Bool) {rest : Text} (h : rest.head? ≠ some (ofChar '-')) :
    splitMinus (minusSign negative ++ rest) = (minusSign negative, rest) := by
  cases negative with
  | true => rfl
  | false =>
    cases rest with
    | nil => rfl
    | cons c rest =>
      have hc : c ≠ ofChar '-' := by simpa using h
      simp [minusSign, splitMinus, hc]

theorem splitMinus_sound (t : Text) :
    ∃ negative, (splitMinus t).1 = minusSign negative ∧
      t = minusSign negative ++ (splitMinus t).2 := by
  cases t with
  | nil => exact ⟨false, rfl, rfl⟩
  | cons c r =>
    by_cases hc : c = ofChar '-'
    · exact ⟨true, by simp [splitMinus, minusSign, hc], by simp [splitMinus, minusSign, hc]⟩
    · exact ⟨false, by simp [splitMinus, minusSign, hc], by simp [splitMinus, minusSign, hc]⟩

theorem splitInteger_append {whole rest : Text} (h : WholeText whole) (hrest : NoDigit rest) :
    splitInteger (whole ++ rest) = (whole, rest) := by
  rcases h with rfl | ⟨hdigits, hzero⟩
  · simp [splitInteger]
  · obtain ⟨d, ds, rfl, hd, hds⟩ := hdigits.exists_cons
    have hne : d ≠ ofChar '0' := by simpa using hzero
    rw [List.cons_append, splitInteger, if_neg hne, if_pos hd, takeWhile_digits hds hrest,
      dropWhile_digits hds hrest]

theorem splitInteger_sound {t : Text} (h : (splitInteger t).1 ≠ []) :
    WholeText (splitInteger t).1 ∧ t = (splitInteger t).1 ++ (splitInteger t).2 := by
  cases t with
  | nil => exact absurd rfl h
  | cons d r =>
    simp only [splitInteger] at h ⊢
    by_cases hzero : d = ofChar '0'
    · rw [if_pos hzero, hzero]
      exact ⟨Or.inl rfl, rfl⟩
    · rw [if_neg hzero] at h ⊢
      by_cases hd : d.isDigit
      · rw [if_pos hd]
        refine ⟨Or.inr ⟨digits_cons_takeWhile hd r, by simpa using hzero⟩, ?_⟩
        rw [List.cons_append, List.takeWhile_append_dropWhile]
      · rw [if_neg hd] at h
        exact absurd rfl h

theorem splitFraction_append {f ds rest : Text} (h : FractionText f ds) (hrest : NoDigit rest)
    (hpoint : rest.head? ≠ some (ofChar '.')) : splitFraction (f ++ rest) = (f, rest) := by
  cases h with
  | absent =>
    match rest with
    | [] | [_] => rfl
    | c :: d :: r =>
      have hc : c ≠ ofChar '.' := by simpa using hpoint
      simp [splitFraction, hc]
  | present digits =>
    obtain ⟨d, ds, rfl, hd, hds⟩ := digits.exists_cons
    simp only [List.cons_append, splitFraction, hd, and_self, if_true, takeWhile_digits hds hrest,
      dropWhile_digits hds hrest]

theorem splitFraction_sound (t : Text) :
    ∃ ds, FractionText (splitFraction t).1 ds ∧ t = (splitFraction t).1 ++ (splitFraction t).2 := by
  unfold splitFraction
  split
  · split
    case isTrue h =>
      obtain ⟨rfl, hd⟩ := h
      refine ⟨_, .present (digits_cons_takeWhile hd _), ?_⟩
      rw [List.cons_append, List.cons_append, List.takeWhile_append_dropWhile]
    case isFalse => exact ⟨[], .absent, rfl⟩
  · exact ⟨[], .absent, rfl⟩

theorem splitSign_digit {d : CodePoint} (hd : d.isDigit) (r : Text) :
    splitSign (d :: r) = ([], d :: r) := by
  simp [splitSign, ne_of_isDigit hd (show (ofChar '+').isDigit = false by decide),
    ne_of_isDigit hd (show (ofChar '-').isDigit = false by decide)]

theorem splitSign_sign {c : CodePoint} (hc : c = ofChar '+' ∨ c = ofChar '-') (r : Text) :
    splitSign (c :: r) = ([c], r) := by
  simp [splitSign, hc]

/-- An exponent is taken whole, whatever its sign is. -/
theorem splitExponent_of_splitSign {e : CodePoint} {r sign ds rest : Text} (he : ExponentLetter e)
    (hsign : splitSign r = (sign, ds ++ rest)) (hds : Digits ds) (hrest : NoDigit rest) :
    splitExponent (e :: r) = (e :: sign ++ ds, rest) := by
  have h : (e = ofChar 'e' ∨ e = ofChar 'E') ∧ ds ≠ [] := ⟨he, hds.1⟩
  simp only [splitExponent, hsign, takeWhile_digits hds.2 hrest, dropWhile_digits hds.2 hrest,
    if_pos h]

theorem splitExponent_append {x rest : Text} {exponent : Option ℤ} (h : ExponentText x exponent)
    (hrest : NoDigit rest) (hletter : ∀ c ∈ rest.head?, ¬ ExponentLetter c) :
    splitExponent (x ++ rest) = (x, rest) := by
  cases h with
  | absent =>
    cases rest with
    | nil => rfl
    | cons c r =>
      have hc : ¬ (c = ofChar 'e' ∨ c = ofChar 'E') := hletter c rfl
      simp [splitExponent, hc]
  | unsigned letter digits =>
    obtain ⟨d, ds, rfl, hd, -⟩ := digits.exists_cons
    exact splitExponent_of_splitSign letter (splitSign_digit hd _) digits hrest
  | plus letter digits =>
    exact splitExponent_of_splitSign letter (splitSign_sign (Or.inl rfl) _) digits hrest
  | minus letter digits =>
    exact splitExponent_of_splitSign letter (splitSign_sign (Or.inr rfl) _) digits hrest

theorem splitExponent_sound (t : Text) :
    ∃ exponent, ExponentText (splitExponent t).1 exponent ∧
      t = (splitExponent t).1 ++ (splitExponent t).2 := by
  cases t with
  | nil => exact ⟨none, .absent, rfl⟩
  | cons e r =>
    by_cases h : (e = ofChar 'e' ∨ e = ofChar 'E') ∧
        (splitSign r).2.takeWhile CodePoint.isDigit ≠ []
    · have hdigits : Digits ((splitSign r).2.takeWhile CodePoint.isDigit) :=
        ⟨h.2, isDigit_of_mem_takeWhile⟩
      simp only [splitExponent, if_pos h]
      have hjoin := List.takeWhile_append_dropWhile (p := CodePoint.isDigit) (l := (splitSign r).2)
      -- The sign tells which of the three forms it is.
      cases r with
      | nil => exact absurd rfl h.2
      | cons c r =>
        by_cases hplus : c = ofChar '+'
        · subst hplus
          refine ⟨_, .plus h.1 hdigits, ?_⟩
          rw [List.append_assoc, hjoin]
          rfl
        · by_cases hminus : c = ofChar '-'
          · subst hminus
            refine ⟨_, .minus h.1 hdigits, ?_⟩
            rw [List.append_assoc, hjoin]
            rfl
          · have hsign : splitSign (c :: r) = ([], c :: r) := by simp [splitSign, hplus, hminus]
            rw [hsign] at hdigits hjoin ⊢
            simp only at hjoin ⊢
            refine ⟨_, .unsigned h.1 hdigits, ?_⟩
            rw [List.cons_append, List.nil_append, List.cons_append, hjoin]
    · simp only [splitExponent, if_neg h]
      exact ⟨none, .absent, rfl⟩

/-! ## Whole numbers -/

theorem FractionText.eq_nil_or_head {f ds : Text} (h : FractionText f ds) :
    (f = [] ∧ ds = []) ∨ (∃ rest, f = ofChar '.' :: rest) ∧ ds ≠ [] := by
  cases h with
  | absent => exact Or.inl ⟨rfl, rfl⟩
  | present digits => exact Or.inr ⟨⟨_, rfl⟩, digits.1⟩

theorem ExponentText.eq_nil_or_head {x : Text} {exponent : Option ℤ} (h : ExponentText x exponent) :
    (x = [] ∧ exponent = none) ∨
      (∃ e rest, x = e :: rest ∧ ExponentLetter e) ∧ exponent ≠ none := by
  cases h with
  | absent => exact Or.inl ⟨rfl, rfl⟩
  | unsigned letter => exact Or.inr ⟨⟨_, _, rfl, letter⟩, by simp⟩
  | plus letter => exact Or.inr ⟨⟨_, _, rfl, letter⟩, by simp⟩
  | minus letter => exact Or.inr ⟨⟨_, _, rfl, letter⟩, by simp⟩

/-- The letter of an exponent is neither digit nor point. -/
theorem ExponentLetter.not_digit {e : CodePoint} (h : ExponentLetter e) :
    e.isDigit = false ∧ e ≠ ofChar '.' := by
  rcases h with rfl | rfl <;> decide

/-- What may follow the digits of a number. -/
theorem head_exponent_append {x rest : Text} {exponent : Option ℤ} (h : ExponentText x exponent)
    (hrest : EndsNumber rest) : NoDigit (x ++ rest) ∧ (x ++ rest).head? ≠ some (ofChar '.') := by
  rcases h.eq_nil_or_head with ⟨rfl, -⟩ | ⟨⟨e, ds, rfl, letter⟩, -⟩
  · exact ⟨hrest.1, fun h => (hrest.2 _ h).1 rfl⟩
  · refine ⟨fun c hc => ?_, ?_⟩
    · obtain rfl : e = c := by simpa using hc
      exact letter.not_digit.1
    · simpa using letter.not_digit.2

theorem noDigit_fraction_append {f ds rest : Text} (h : FractionText f ds) (hrest : NoDigit rest) :
    NoDigit (f ++ rest) := by
  rcases h.eq_nil_or_head with ⟨rfl, -⟩ | ⟨⟨ds, rfl⟩, -⟩
  · exact hrest
  · intro c hc
    obtain rfl : ofChar '.' = c := by simpa using hc
    decide

theorem WholeText.head_ne_minus {whole : Text} (h : WholeText whole) (rest : Text) :
    (whole ++ rest).head? ≠ some (ofChar '-') := by
  obtain ⟨d, ds, rfl, hd, -⟩ := h.digits.exists_cons
  simpa using ne_of_isDigit hd (show (ofChar '-').isDigit = false by decide)

/-- What holds of digits, signs, points and letters holds of all that numbers are made of. -/
theorem NumberText.forall_mem {t : Text} {n : Numeral} (h : NumberText t n) {p : CodePoint → Prop}
    (hdigit : ∀ c, c.isDigit → p c) (hother : ∀ c ∈ ("-+.eE" : Text), p c) : ∀ c ∈ t, p c := by
  have hdigits : ∀ {ds : Text}, Digits ds → ∀ c ∈ ds, p c := fun hds c hc => hdigit c (hds.2 c hc)
  cases h with
  | @mk negative whole f ds x exponent hwhole hfraction hexponent =>
    have hminus : ∀ c ∈ minusSign negative, p c := by
      cases negative with
      | true => simpa [minusSign] using hother _ (by decide)
      | false => simp [minusSign]
    have hf : ∀ c ∈ f, p c := by
      cases hfraction with
      | absent => simp
      | present digits =>
        exact List.forall_mem_cons.mpr ⟨hother _ (by decide), hdigits digits⟩
    have hletter : ∀ {e : CodePoint}, ExponentLetter e → p e := by
      rintro e (rfl | rfl)
      · exact hother _ (by decide)
      · exact hother _ (by decide)
    have hx : ∀ c ∈ x, p c := by
      cases hexponent with
      | absent => simp
      | unsigned letter digits =>
        exact List.forall_mem_cons.mpr ⟨hletter letter, hdigits digits⟩
      | plus letter digits =>
        exact List.forall_mem_cons.mpr ⟨hletter letter,
          List.forall_mem_cons.mpr ⟨hother _ (by decide), hdigits digits⟩⟩
      | minus letter digits =>
        exact List.forall_mem_cons.mpr ⟨hletter letter,
          List.forall_mem_cons.mpr ⟨hother _ (by decide), hdigits digits⟩⟩
    simp only [List.forall_mem_append]
    exact ⟨⟨hminus, hdigits hwhole.digits⟩, hf, hx⟩

/-- **A number is taken whole**, if what follows does not carry it on. -/
theorem splitNumber_append {negative : Bool} {whole f ds x rest : Text} {exponent : Option ℤ}
    (hwhole : WholeText whole) (hfraction : FractionText f ds) (hexponent : ExponentText x exponent)
    (hrest : EndsNumber rest) :
    splitNumber (minusSign negative ++ whole ++ (f ++ x) ++ rest) =
      ⟨minusSign negative, whole, f ++ x, rest⟩ := by
  obtain ⟨hdigit, hpoint⟩ := head_exponent_append hexponent hrest
  have hminus := splitMinus_append negative (hwhole.head_ne_minus (f ++ (x ++ rest)))
  have hint := splitInteger_append hwhole (noDigit_fraction_append hfraction hdigit)
  have hfrac := splitFraction_append hfraction hdigit hpoint
  have hexp := splitExponent_append hexponent hrest.1 fun c hc => (hrest.2 c hc).2
  simp only [splitNumber, List.append_assoc, hminus, hint, hfrac, hexp]

/-- **What is taken is a number.** -/
theorem splitNumber_sound {t : Text} (h : (splitNumber t).digits ≠ []) :
    ∃ negative ds f x exponent, WholeText (splitNumber t).digits ∧ FractionText f ds ∧
      ExponentText x exponent ∧ (splitNumber t).minus = minusSign negative ∧
      (splitNumber t).tail = f ++ x ∧
      t = minusSign negative ++ (splitNumber t).digits ++ (f ++ x) ++ (splitNumber t).rest := by
  obtain ⟨negative, hminus, htext⟩ := splitMinus_sound t
  obtain ⟨hwhole, hint⟩ := splitInteger_sound h
  obtain ⟨ds, hfraction, hfrac⟩ := splitFraction_sound (splitInteger (splitMinus t).2).2
  obtain ⟨exponent, hexponent, hexp⟩ :=
    splitExponent_sound (splitFraction (splitInteger (splitMinus t).2).2).2
  refine ⟨negative, ds, _, _, exponent, hwhole, hfraction, hexponent, hminus, rfl, ?_⟩
  simp only [splitNumber, List.append_assoc]
  rw [← hexp, ← hfrac, ← hint, ← htext]

/-! ## The value of a number -/

/-- The value of a number, if it is in range. -/
def Numeral.value? (n : Numeral) : Option Value :=
  if n.IsInteger then
    if n.whole.length ≤ maxIntegerDigits then some (.int n.integer) else none
  else
    (Magnitude.ofDecimal? (Text.digitsValue (n.whole ++ n.fraction)) n.lastExponent).map
      fun m => .float (.finite n.negative m)

/-- **A number in range has the value that it denotes**, and no other number has one. -/
theorem Numeral.value?_eq_some_iff (n : Numeral) (v : Value) :
    n.value? = some v ↔ n.InRange ∧ n.Denotes v := by
  unfold Numeral.value? Numeral.InRange
  by_cases hint : n.IsInteger
  · rw [if_pos hint, if_pos hint]
    constructor
    · intro h
      split at h
      · rename_i hlength
        rw [← Option.some.inj h]
        exact ⟨hlength, .int hint⟩
      · exact absurd h (by simp)
    · rintro ⟨hlength, hdenotes⟩
      rw [if_pos hlength]
      cases hdenotes with
      | int => rfl
      | float h => exact absurd hint h
  · rw [if_neg hint, if_neg hint]
    constructor
    · intro h
      obtain ⟨m, hm, rfl⟩ := Option.map_eq_some_iff.mp h
      obtain ⟨hlimit, hnear⟩ := (Magnitude.ofDecimal?_eq_some_iff _ _ _).mp hm
      exact ⟨hlimit, .float hint hnear⟩
    · rintro ⟨hlimit, hdenotes⟩
      cases hdenotes with
      | int h => exact absurd h hint
      | float h hnear =>
        rw [(Magnitude.ofDecimal?_eq_some_iff _ _ _).mpr ⟨hlimit, hnear⟩]
        rfl

theorem Numeral.exists_value? {n : Numeral} (h : n.InRange) : ∃ v, n.value? = some v := by
  unfold Numeral.InRange at h
  unfold Numeral.value?
  by_cases hint : n.IsInteger
  · rw [if_pos hint] at h ⊢
    exact ⟨_, if_pos h⟩
  · rw [if_neg hint] at h ⊢
    obtain ⟨m, hm⟩ : ∃ m, Magnitude.ofDecimal? (Text.digitsValue (n.whole ++ n.fraction))
        n.lastExponent = some m := by
      rw [← Option.ne_none_iff_exists', ne_eq, Magnitude.ofDecimal?_eq_none_iff, not_le]
      exact h
    exact ⟨_, by rw [hm]; rfl⟩

theorem exponentValue_tail {x : Text} {exponent : Option ℤ} (h : ExponentText x exponent) :
    Double.exponentValue x.tail = exponent.getD 0 := by
  cases h with
  | absent => rfl
  | unsigned _ digits =>
    obtain ⟨d, ds, rfl, hd, -⟩ := digits.exists_cons
    have hminus := ne_of_isDigit hd (show (ofChar '-').isDigit = false by decide)
    have hplus := ne_of_isDigit hd (show (ofChar '+').isDigit = false by decide)
    rw [List.tail_cons, Double.exponentValue, if_neg hminus, if_neg hplus]
    rfl
  | plus => rfl
  | minus => rfl

/-- A literal without sign is read part by part. -/
theorem ofUnsignedLiteral_eq (negative : Bool) {whole f ds x : Text} {exponent : Option ℤ}
    (hwhole : WholeText whole) (hfraction : FractionText f ds)
    (hexponent : ExponentText x exponent) :
    Double.ofUnsignedLiteral negative (whole ++ (f ++ x)) =
      ((Magnitude.ofDecimal? (Text.digitsValue (whole ++ ds)) (exponent.getD 0 - ds.length)).map
        (.finite negative)).getD (.infinite negative) := by
  obtain ⟨hdigit, hpoint⟩ := head_exponent_append hexponent endsNumber_nil
  rw [List.append_nil] at hdigit hpoint
  have hnodigit := noDigit_fraction_append hfraction hdigit
  have hall := hwhole.digits.2
  rw [← exponentValue_tail hexponent]
  simp only [Double.ofUnsignedLiteral, takeWhile_digits hall hnodigit,
    dropWhile_digits hall hnodigit]
  cases hfraction with
  | absent =>
    simp only [Option.pure_def, Option.bind_eq_bind, Option.bind_some, List.nil_append,
      if_neg hpoint, List.takeWhile_nil]
    cases Magnitude.ofDecimal? _ _ <;> rfl
  | present digits =>
    simp only [Option.pure_def, Option.bind_eq_bind, Option.bind_some, List.cons_append,
      List.head?_cons, List.tail_cons, if_true, takeWhile_digits digits.2 hdigit,
      dropWhile_digits digits.2 hdigit]
    cases Magnitude.ofDecimal? _ _ <;> rfl

theorem ofLiteral_eq {negative : Bool} {literal : Text} (h : ∃ d ∈ literal.head?, d.isDigit) :
    Double.ofLiteral (minusSign negative ++ literal) =
      Double.ofUnsignedLiteral negative literal := by
  cases negative with
  | true => rfl
  | false =>
    obtain ⟨d, hd, hdigit⟩ := h
    obtain ⟨rest, rfl⟩ : ∃ rest, literal = d :: rest := List.head?_eq_some_iff.mp hd
    have hminus := ne_of_isDigit hdigit (show (ofChar '-').isDigit = false by decide)
    have hplus := ne_of_isDigit hdigit (show (ofChar '+').isDigit = false by decide)
    rw [minusSign, if_neg (by simp), List.nil_append, Double.ofLiteral, if_neg hminus,
      if_neg hplus]

/-- The reader tells an integer by the empty rest of its text, the grammar by its parts. -/
theorem tail_eq_nil_iff {f ds x : Text} {exponent : Option ℤ} (hfraction : FractionText f ds)
    (hexponent : ExponentText x exponent) (negative : Bool) (whole : Text) :
    f ++ x = [] ↔ (Numeral.mk negative whole ds exponent).IsInteger := by
  rcases hfraction.eq_nil_or_head with ⟨rfl, rfl⟩ | ⟨⟨r, rfl⟩, hds⟩ <;>
  rcases hexponent.eq_nil_or_head with ⟨rfl, rfl⟩ | ⟨⟨e, r', rfl, -⟩, he⟩ <;>
  simp_all [Numeral.IsInteger]

/-- **The reader's value of a number is the one that it denotes**, if there is one. -/
theorem numberValue_eq {negative : Bool} {whole f ds x : Text} {exponent : Option ℤ}
    (hwhole : WholeText whole) (hfraction : FractionText f ds)
    (hexponent : ExponentText x exponent) :
    (numberValue (minusSign negative) whole (f ++ x)).toOption =
      (Numeral.mk negative whole ds exponent).value? := by
  have htail := tail_eq_nil_iff hfraction hexponent negative whole
  unfold numberValue Numeral.value?
  by_cases hint : (Numeral.mk negative whole ds exponent).IsInteger
  · rw [if_pos hint, if_pos (htail.mpr hint)]
    by_cases hlength : maxIntegerDigits < whole.length
    · rw [if_pos hlength, if_neg (by simpa using hlength)]
      rfl
    · rw [if_neg hlength, if_pos (by simpa using hlength)]
      cases negative <;> rfl
  · have hhead : ∃ d ∈ (whole ++ (f ++ x)).head?, d.isDigit := by
      obtain ⟨d, ds, rfl, hd, -⟩ := hwhole.digits.exists_cons
      exact ⟨d, rfl, hd⟩
    rw [if_neg hint, if_neg (mt htail.mp hint)]
    simp only [List.append_assoc, ofLiteral_eq hhead,
      ofUnsignedLiteral_eq negative hwhole hfraction hexponent, Numeral.lastExponent]
    cases Magnitude.ofDecimal? (Text.digitsValue (whole ++ ds)) (exponent.getD 0 - ds.length) <;>
    rfl

end StructuredText.Json
