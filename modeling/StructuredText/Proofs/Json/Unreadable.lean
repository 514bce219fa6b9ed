/-
# Values that are refused without a place

Where a value is due that is neither string nor container, the reader takes a word or the longest
number there is.  If there is neither, it tells the place; if there is the name of a constant, or a
number out of range, it tells what it found instead.

* `LongestNumber` is the number that a text begins with, `LongestNumber.splitNumber_eq` and
  `longestNumber_splitNumber` say that the reader cuts it off;
* `Unreadable` relates such texts to what is told of them;
* `readScalar_fault` and `Unreadable.readScalar_eq` compare this with the reader.
-/
import Mathlib
import StructuredText.Json.Parser
import StructuredText.Proofs.Json.Constants
import StructuredText.Proofs.Json.Numbers
import StructuredText.Proofs.Json.Scalars

namespace StructuredText.Json

open CodePoint (ofChar)

/-! ## The longest number -/

/-- The number that a text begins with, if `rest` follows it: none that the text begins with is
longer. -/
structure LongestNumber (literal rest : Text) (n : Numeral) : Prop where
  number : NumberText literal n
  longest : ∀ literal' rest' n', literal ++ rest = literal' ++ rest' → NumberText literal' n' →
    literal'.length ≤ literal.length

theorem length_dropWhile_append_le {ds : Text} (hds : ∀ c ∈ ds, c.isDigit) (r : Text) :
    ((ds ++ r).dropWhile CodePoint.isDigit).length ≤ r.length := by
  rw [List.dropWhile_append_of_pos hds]
  exact List.length_dropWhile_le _ r

/-- Digits are taken, and perhaps more of them. -/
theorem splitInteger_takes {whole : Text} (h : WholeText whole) (r : Text) :
    (splitInteger (whole ++ r)).1 ≠ [] ∧ (splitInteger (whole ++ r)).2.length ≤ r.length := by
  rcases h with rfl | ⟨hdigits, hzero⟩
  · simp [splitInteger]
  · obtain ⟨d, ds, rfl, hd, hds⟩ := hdigits.exists_cons
    have hne : d ≠ ofChar '0' := by simpa using hzero
    rw [List.cons_append, splitInteger, if_neg hne, if_pos hd]
    exact ⟨by simp, length_dropWhile_append_le hds r⟩

theorem length_splitFraction_append_le {f ds : Text} (h : FractionText f ds) (r : Text) :
    (splitFraction (f ++ r)).2.length ≤ r.length := by
  cases h with
  | absent => exact length_splitFraction_le r
  | present digits =>
    obtain ⟨d, ds, rfl, hd, hds⟩ := digits.exists_cons
    simp only [List.cons_append, splitFraction, hd, and_self, if_true]
    exact length_dropWhile_append_le hds r

/-- An exponent is taken with all its digits, whatever its sign is. -/
theorem length_splitExponent_le_of_splitSign {e : CodePoint} {r sign ds rest : Text}
    (he : ExponentLetter e) (hds : Digits ds) (hsign : splitSign r = (sign, ds ++ rest)) :
    (splitExponent (e :: r)).2.length ≤ rest.length := by
  have h : (e = ofChar 'e' ∨ e = ofChar 'E') ∧ (ds ++ rest).takeWhile CodePoint.isDigit ≠ [] := by
    refine ⟨he, ?_⟩
    rw [List.takeWhile_append_of_pos hds.2]
    simp [hds.1]
  simp only [splitExponent, hsign, if_pos h]
  exact length_dropWhile_append_le hds.2 rest

theorem length_splitExponent_append_le {x : Text} {exponent : Option ℤ}
    (h : ExponentText x exponent) (r : Text) : (splitExponent (x ++ r)).2.length ≤ r.length := by
  cases h with
  | absent => exact length_splitExponent_le r
  | unsigned letter digits =>
    obtain ⟨d, ds, rfl, hd, -⟩ := digits.exists_cons
    exact length_splitExponent_le_of_splitSign letter digits (splitSign_digit hd (ds ++ r))
  | plus letter digits =>
    exact length_splitExponent_le_of_splitSign letter digits (splitSign_sign (Or.inl rfl) _)
  | minus letter digits =>
    exact length_splitExponent_le_of_splitSign letter digits (splitSign_sign (Or.inr rfl) _)

/-- **No number is longer than the one that the reader cuts off.** -/
theorem splitNumber_takes {literal : Text} {n : Numeral} (h : NumberText literal n) (rest : Text) :
    (splitNumber (literal ++ rest)).digits ≠ [] ∧
      (splitNumber (literal ++ rest)).rest.length ≤ rest.length := by
  cases h with
  | @mk negative whole f ds x exponent hwhole hfraction hexponent =>
    have hminus := splitMinus_append negative (hwhole.head_ne_minus (f ++ (x ++ rest)))
    simp only [splitNumber, List.append_assoc, hminus]
    refine ⟨(splitInteger_takes hwhole _).1, ?_⟩
    -- Only the last part that is there can be longer than it was written.
    rcases hexponent.eq_nil_or_head with ⟨rfl, -⟩ | ⟨⟨e, es, rfl, letter⟩, -⟩
    · rcases hfraction.eq_nil_or_head with ⟨rfl, -⟩ | ⟨⟨fs, rfl⟩, -⟩
      · calc (splitExponent (splitFraction (splitInteger (whole ++ rest)).2).2).2.length
            ≤ (splitFraction (splitInteger (whole ++ rest)).2).2.length :=
              length_splitExponent_le _
          _ ≤ (splitInteger (whole ++ rest)).2.length := length_splitFraction_le _
          _ ≤ rest.length := (splitInteger_takes hwhole rest).2
      · have hdigit : NoDigit (ofChar '.' :: fs ++ rest) := by
          intro c hc
          obtain rfl : ofChar '.' = c := by simpa using hc
          decide
        rw [List.nil_append, splitInteger_append hwhole hdigit]
        exact (length_splitExponent_le _).trans (length_splitFraction_append_le hfraction rest)
    · have hdigit : NoDigit (e :: es ++ rest) := by
        intro c hc
        obtain rfl : e = c := by simpa using hc
        exact letter.not_digit.1
      have hpoint : (e :: es ++ rest).head? ≠ some (ofChar '.') := by
        simpa using letter.not_digit.2
      rw [splitInteger_append hwhole (noDigit_fraction_append hfraction hdigit),
        splitFraction_append hfraction hdigit hpoint]
      exact length_splitExponent_append_le hexponent rest

/-- What the reader cuts off is the longest number. -/
theorem longestNumber_splitNumber {t literal : Text} {n : Numeral} (h : NumberText literal n)
    (ht : t = literal ++ (splitNumber t).rest) : LongestNumber literal (splitNumber t).rest n := by
  refine ⟨h, fun literal' rest' n' htext h' => ?_⟩
  have hrest := (splitNumber_takes h' rest').2
  rw [← htext, ← ht] at hrest
  have hlength := congrArg List.length htext
  simp only [List.length_append] at hlength
  omega

/-- A number alone is cut into its parts. -/
theorem splitNumber_self (negative : Bool) {whole f ds x : Text} {exponent : Option ℤ}
    (hwhole : WholeText whole) (hfraction : FractionText f ds)
    (hexponent : ExponentText x exponent) :
    splitNumber (minusSign negative ++ whole ++ (f ++ x)) =
      ⟨minusSign negative, whole, f ++ x, []⟩ := by
  rw [← List.append_nil (_ ++ (f ++ x))]
  exact splitNumber_append hwhole hfraction hexponent endsNumber_nil

/-- **The longest number is cut off**, into the parts that it has alone. -/
theorem LongestNumber.splitNumber_eq {literal rest : Text} {n : Numeral}
    (h : LongestNumber literal rest n) :
    splitNumber (literal ++ rest) = { splitNumber literal with rest := rest } := by
  obtain ⟨hdigits, hrest⟩ := splitNumber_takes h.number rest
  obtain ⟨negative, ds, f, x, exponent, hwhole, hfraction, hexponent, hminus, htail, htext⟩ :=
    splitNumber_sound hdigits
  have hlongest := h.longest _ _ _ htext (.mk hwhole hfraction hexponent)
  have hlength := congrArg List.length htext
  rw [List.length_append, List.length_append] at hlength
  obtain ⟨hliteral, hrest⟩ := List.append_inj htext (by omega)
  have hparts := splitNumber_self negative hwhole hfraction hexponent
  rw [← hliteral, ← hminus, ← htail] at hparts
  rw [hparts]
  exact congrArg (NumberParts.mk _ _ _) hrest.symm

/-! ## Numbers out of range -/

/-- What is told of a number out of range. -/
inductive Numeral.Refused (n : Numeral) (literal : Text) : Fault → Prop
  | tooManyDigits (hint : n.IsInteger) (h : maxIntegerDigits < n.whole.length) :
      Refused n literal (.tooManyDigits n.whole.length)
  | outOfRange (hint : ¬ n.IsInteger) (h : Magnitude.limit ≤ n.size) :
      Refused n literal (.outOfRange literal)

theorem Numeral.Refused.value?_eq_none {n : Numeral} {literal : Text} {fault : Fault}
    (h : n.Refused literal fault) : n.value? = none := by
  rw [Option.eq_none_iff_forall_ne_some]
  intro v hv
  obtain ⟨hrange, -⟩ := (n.value?_eq_some_iff v).mp hv
  unfold Numeral.InRange at hrange
  cases h with
  | tooManyDigits hint h =>
    rw [if_pos hint] at hrange
    exact absurd h (not_lt.mpr hrange)
  | outOfRange hint h =>
    rw [if_neg hint] at hrange
    exact absurd hrange (not_lt.mpr h)

/-- **The reader refuses the numbers out of range**, each for its reason. -/
theorem numberValue_eq_error_iff {negative : Bool} {whole f ds x : Text} {exponent : Option ℤ}
    (hwhole : WholeText whole) (hfraction : FractionText f ds)
    (hexponent : ExponentText x exponent) (fault : Fault) :
    numberValue (minusSign negative) whole (f ++ x) = .error fault ↔
      (Numeral.mk negative whole ds exponent).Refused (minusSign negative ++ whole ++ (f ++ x))
        fault := by
  have hvalue : (numberValue (minusSign negative) whole (f ++ x)).toOption = _ :=
    numberValue_eq hwhole hfraction hexponent
  have htail := tail_eq_nil_iff hfraction hexponent negative whole
  constructor
  · intro h
    rw [h] at hvalue
    have hrange : ¬ (Numeral.mk negative whole ds exponent).InRange := by
      intro hrange
      obtain ⟨v, hv⟩ := Numeral.exists_value? hrange
      rw [hv] at hvalue
      exact absurd hvalue (by simp [Except.toOption])
    unfold Numeral.InRange at hrange
    unfold numberValue at h
    by_cases hint : (Numeral.mk negative whole ds exponent).IsInteger
    · rw [if_pos hint] at hrange
      rw [if_pos (htail.mpr hint), if_pos (not_le.mp hrange)] at h
      obtain rfl := Except.error.inj h
      exact .tooManyDigits hint (not_le.mp hrange)
    · rw [if_neg hint] at hrange
      rw [if_neg (mt htail.mp hint)] at h
      simp only at h
      split at h
      · exact absurd h (by simp)
      · obtain rfl := Except.error.inj h
        exact .outOfRange hint (not_lt.mp hrange)
  · intro h
    rw [h.value?_eq_none] at hvalue
    unfold numberValue at hvalue ⊢
    cases h with
    | tooManyDigits hint h => rw [if_pos (htail.mpr hint), if_pos h]
    | outOfRange hint h =>
      rw [if_neg (mt htail.mp hint)] at hvalue ⊢
      simp only at hvalue ⊢
      split
      · rename_i hfinite
        rw [if_pos hfinite] at hvalue
        exact absurd hvalue (by simp [Except.toOption])
      · rfl

/-! ## Texts without a value -/

/-- A text that begins with the name of a constant or with a number out of range, and what is told
of it. -/
inductive Unreadable : Text → Fault → Prop
  | constant {name : Text} (h : name ∈ constants) (rest : Text) :
      Unreadable (name ++ rest) (.constant name)
  | number {literal rest : Text} {n : Numeral} {fault : Fault} (h : LongestNumber literal rest n)
      (refused : n.Refused literal fault) : Unreadable (literal ++ rest) fault

/-- Nothing is told of a place. -/
theorem Unreadable.position? {t : Text} {fault : Fault} (h : Unreadable t fault) (whole : Text) :
    fault.position? whole = none := by
  cases h with
  | constant => rfl
  | number _ refused => cases refused <;> rfl

/-- **A value that is no string and no container fails at its place**, or is one of those that are
refused without a place. -/
theorem readScalar_fault {t : Text} {fault : Fault} (h : readScalar t = .error fault) :
    fault = .located .valueExpected t ∨ Unreadable t fault := by
  have hconstant : ∀ {name : Text}, name ∈ constants → Text.beginsWith name t →
      (.error (.constant name) : Reading Value t) = .error fault → Unreadable t fault := by
    intro name hname hbegin herror
    obtain ⟨rest, rfl⟩ := Text.beginsWith_iff.mp hbegin
    obtain rfl := Except.error.inj herror
    exact .constant hname rest
  unfold readScalar at h
  split at h
  · exact absurd h (by simp)
  split at h
  · exact absurd h (by simp)
  split at h
  · exact absurd h (by simp)
  split_ifs at h with hnan hinfinity hminus
  · exact Or.inr (hconstant (by decide) hnan h)
  · exact Or.inr (hconstant (by decide) hinfinity h)
  · exact Or.inr (hconstant (by decide) hminus h)
  · unfold readNumber at h
    by_cases hdigits : (splitNumber t).digits = []
    · simp only [hdigits, dite_true] at h
      exact Or.inl (Except.error.inj h).symm
    · simp only [hdigits, dite_false] at h
      obtain ⟨negative, ds, f, x, exponent, hwhole, hfraction, hexponent, hsign, htail, htext⟩ :=
        splitNumber_sound hdigits
      rw [hsign, htail] at h
      split at h
      · rename_i fault' herror
        obtain rfl := Except.error.inj h
        have hnumber : NumberText (minusSign negative ++ _ ++ (f ++ x)) _ :=
          .mk hwhole hfraction hexponent
        rw [htext]
        exact Or.inr (.number (longestNumber_splitNumber hnumber htext)
          ((numberValue_eq_error_iff hwhole hfraction hexponent fault').mp herror))
      · exact absurd h (by simp)

theorem readNumber_eq_error {t : Text} {fault : Fault} (hdigits : (splitNumber t).digits ≠ [])
    (h : numberValue (splitNumber t).minus (splitNumber t).digits (splitNumber t).tail =
      .error fault) : readNumber t = .error fault := by
  unfold readNumber
  simp only [hdigits, dite_false]
  rw [h]

/-- A number is read as one. -/
theorem readScalar_of_number {literal rest : Text} {n : Numeral} (h : NumberText literal n) :
    readScalar (literal ++ rest) = readNumber (literal ++ rest) := by
  obtain ⟨hdigits, -⟩ := splitNumber_takes h rest
  have hnone : ∀ name ∈ constants, ¬ Text.beginsWith name (literal ++ rest) := by
    intro name hname hbegin
    obtain ⟨r, hr⟩ := Text.beginsWith_iff.mp hbegin
    rw [← hr] at hdigits
    simp only [constants, List.mem_cons, List.not_mem_nil, or_false] at hname
    rcases hname with rfl | rfl | rfl <;> exact hdigits rfl
  have hhead := h.startsNoWord rest
  unfold readScalar
  rw [afterWord?_eq_none fun c hc => (hhead c hc).1,
    afterWord?_eq_none fun c hc => (hhead c hc).2.1,
    afterWord?_eq_none fun c hc => (hhead c hc).2.2]
  simp only
  rw [if_neg (hnone _ (by decide)), if_neg (hnone _ (by decide)), if_neg (hnone _ (by decide))]

/-- **Such texts are refused as told.** -/
theorem Unreadable.readScalar_eq {t : Text} {fault : Fault} (h : Unreadable t fault) :
    readScalar t = .error fault := by
  cases h with
  | @constant name h rest =>
    simp only [constants, List.mem_cons, List.not_mem_nil, or_false] at h
    rcases h with rfl | rfl | rfl <;> rfl
  | @number literal rest n fault h refused =>
    have hsplit := h.splitNumber_eq
    rw [readScalar_of_number h.number]
    obtain @⟨negative, whole, f, ds, x, exponent, hwhole, hfraction, hexponent⟩ := h.number
    rw [splitNumber_self negative hwhole hfraction hexponent] at hsplit
    refine readNumber_eq_error ?_ ?_
    · rw [hsplit]
      exact hwhole.digits.1
    · rw [hsplit]
      exact (numberValue_eq_error_iff hwhole hfraction hexponent fault).mpr refused

end StructuredText.Json
