/-
# Written strings

A string between quotes is a string of the grammar.  Where only ASCII may stand, every half of a
surrogate pair is escaped by itself, so two halves that stood side by side are read as one code
point.

* `exists_parts_quote`: the parts of a written string;
* `joinPairs` joins halves that stand side by side, `HoldsPair` says that there are any.
-/
import Mathlib
import StructuredText.Json.Printer
import StructuredText.Proofs.Json.Grammar
import StructuredText.Proofs.Json.Strings
import StructuredText.Proofs.Text.Digits

namespace StructuredText.Json

open CodePoint (ofChar)

/-! ## ASCII -/

/-- A text as it is, or with everything beyond ASCII escaped. -/
def encode (escaped : Bool) (t : Text) : Text := if escaped then escapeNonAscii t else t

theorem encode_append (escaped : Bool) (s t : Text) :
    encode escaped (s ++ t) = encode escaped s ++ encode escaped t := by
  cases escaped with
  | false => rfl
  | true => exact List.flatMap_append

@[simp] theorem encode_nil (escaped : Bool) : encode escaped [] = [] := by
  cases escaped <;> rfl

/-- A text of ASCII. -/
def Ascii (t : Text) : Prop := ∀ c ∈ t, c.val < 0x7F

/-- A printable character of ASCII, the blank included. -/
def Printable (c : CodePoint) : Prop := 0x20 ≤ c.val ∧ c.val < 0x7F

instance (c : CodePoint) : Decidable (Printable c) := inferInstanceAs (Decidable (_ ∧ _))

instance (t : Text) : Decidable (Ascii t) := inferInstanceAs (Decidable (∀ c ∈ t, _))

theorem Ascii.encode {t : Text} (h : Ascii t) (escaped : Bool) : encode escaped t = t := by
  cases escaped with
  | false => rfl
  | true =>
    induction t with
    | nil => rfl
    | cons c t ih =>
      have hc : escapeCodePoint c = [c] := if_pos (h c List.mem_cons_self)
      have hrest := ih fun c' hc' => h c' (List.mem_cons_of_mem c hc')
      rw [← List.singleton_append, encode_append, hrest]
      simp [Json.encode, escapeNonAscii, hc]

/-! ## Numbered escapes -/

theorem ofHexDigit_val {k : ℕ} (h : k < 16) :
    (CodePoint.ofHexDigit k).val = if k < 10 then 0x30 + k else 0x57 + k := by
  unfold CodePoint.ofHexDigit
  split_ifs <;> exact CodePoint.val_ofNat (by omega)

theorem hexValue?_ofHexDigit {k : ℕ} (h : k < 16) :
    (CodePoint.ofHexDigit k).hexValue? = some k := by
  have hval := ofHexDigit_val h
  unfold CodePoint.hexValue? CodePoint.between
  by_cases hk : k < 10
  · rw [if_pos hk] at hval
    rw [hval, if_pos (by simp; omega)]
    congr 1
    omega
  · rw [if_neg hk] at hval
    rw [hval, if_neg (by simp; omega), if_neg (by simp; omega), if_pos (by simp; omega)]
    congr 1
    omega

theorem hexValue?_ofHex4 {n : ℕ} (h : n < 0x10000) : Text.hexValue? (Text.ofHex4 n) = some n := by
  simp only [Text.hexValue?, Text.ofHex4, List.foldlM_cons, List.foldlM_nil,
    hexValue?_ofHexDigit (Nat.mod_lt _ (show 0 < 16 by norm_num)), Option.map_some,
    Option.bind_eq_bind, Option.bind_some, Option.pure_def]
  congr 1
  omega

theorem partsText_unicodeEscape {n : ℕ} (h : n < 0x10000) :
    PartsText (unicodeEscape n) [.unit (CodePoint.ofNat n)] :=
  .unit (hexValue?_ofHex4 h) .nil

/-- An escape by number is printable. -/
theorem printable_unicodeEscape (n : ℕ) : ∀ c ∈ unicodeEscape n, Printable c := by
  have hdigit (k : ℕ) : Printable (CodePoint.ofHexDigit (k % 16)) := by
    have hk := Nat.mod_lt k (show 0 < 16 by norm_num)
    rw [Printable, ofHexDigit_val hk]
    split_ifs <;> omega
  intro c hc
  simp only [unicodeEscape, Text.ofHex4, List.mem_cons, List.not_mem_nil, or_false] at hc
  rcases hc with rfl | rfl | rfl | rfl | rfl | rfl
  · decide
  · decide
  all_goals exact hdigit _

theorem ascii_unicodeEscape (n : ℕ) : Ascii (unicodeEscape n) := fun c hc =>
  (printable_unicodeEscape n c hc).2

/-- Escaping leaves only ASCII. -/
theorem ascii_escapeNonAscii (t : Text) : Ascii (escapeNonAscii t) := by
  intro c hc
  obtain ⟨d, -, hc⟩ := List.mem_flatMap.mp hc
  unfold escapeCodePoint at hc
  split_ifs at hc with hascii hsmall
  · rw [List.mem_singleton.mp hc]
    exact hascii
  · exact ascii_unicodeEscape _ c hc
  · rcases List.mem_append.mp hc with hc | hc
    · exact ascii_unicodeEscape _ c hc
    · exact ascii_unicodeEscape _ c hc

/-! ## One code point -/

/-- How a code point is written: by itself or by its letter, by its number, or by the numbers of
the two halves of a surrogate pair.  Only where everything beyond ASCII is escaped have surrogates
and pairs numbers. -/
inductive CodeParts (escaped : Bool) : CodePoint → List StringPart → Prop
  | plain {c : CodePoint} (h : escaped → c.isSurrogate = false) : CodeParts escaped c [.plain c]
  | unit {c : CodePoint} (h : escaped = false → c.isSurrogate = false) :
      CodeParts escaped c [.unit c]
  | pair {high low : CodePoint} (h : escaped) (hhigh : high.isHighSurrogate)
      (hlow : low.isLowSurrogate) :
      CodeParts escaped (.ofSurrogates high low) [.unit high, .unit low]

theorem not_surrogate_of_val_lt {c : CodePoint} (h : c.val < 0xD800) : c.isSurrogate = false := by
  simp only [CodePoint.isSurrogate, CodePoint.between, Bool.and_eq_false_iff,
    decide_eq_false_iff_not]
  omega

/-- The halves of a code point beyond FFFF. -/
theorem exists_surrogates {c : CodePoint} (h : 0x10000 ≤ c.val) :
    (CodePoint.ofNat (0xD800 + (c.val - 0x10000) / 0x400)).isHighSurrogate ∧
    (CodePoint.ofNat (0xDC00 + (c.val - 0x10000) % 0x400)).isLowSurrogate ∧
    CodePoint.ofSurrogates (.ofNat (0xD800 + (c.val - 0x10000) / 0x400))
      (.ofNat (0xDC00 + (c.val - 0x10000) % 0x400)) = c := by
  have hlt := c.lt
  have hhigh := CodePoint.val_ofNat (n := 0xD800 + (c.val - 0x10000) / 0x400) (by omega)
  have hlow := CodePoint.val_ofNat (n := 0xDC00 + (c.val - 0x10000) % 0x400) (by omega)
  refine ⟨?_, ?_, ?_⟩
  · simp only [CodePoint.isHighSurrogate, CodePoint.between, hhigh, Bool.and_eq_true,
      decide_eq_true_eq]
    omega
  · simp only [CodePoint.isLowSurrogate, CodePoint.between, hlow, Bool.and_eq_true,
      decide_eq_true_eq]
    omega
  · apply CodePoint.ext
    rw [CodePoint.ofSurrogates, hhigh, hlow, CodePoint.val_ofNat (by omega)]
    omega

/-- A code point beyond ASCII, or one that needs no escape. -/
theorem exists_parts_escapeCodePoint {c : CodePoint} (hc : Unescaped c) :
    ∃ parts, PartsText (escapeCodePoint c) parts ∧ CodeParts true c parts := by
  unfold escapeCodePoint
  by_cases hascii : c.val < 0x7F
  · rw [if_pos hascii]
    exact ⟨_, .plain hc .nil, .plain fun _ => not_surrogate_of_val_lt (by omega)⟩
  · rw [if_neg hascii]
    by_cases hsmall : c.val < 0x10000
    · rw [if_pos hsmall]
      have hparts := partsText_unicodeEscape hsmall
      have hself : CodePoint.ofNat c.val = c := CodePoint.ext (CodePoint.val_ofNat c.lt)
      rw [hself] at hparts
      exact ⟨_, hparts, .unit fun h => absurd h (by simp)⟩
    · rw [if_neg hsmall]
      have hlt := c.lt
      obtain ⟨hhigh, hlow, hjoin⟩ := exists_surrogates (not_lt.mp hsmall)
      refine ⟨_, .unit (hexValue?_ofHex4 (by omega)) (partsText_unicodeEscape (by omega)), ?_⟩
      have hpair : CodeParts true _ _ := .pair rfl hhigh hlow
      rwa [hjoin] at hpair

/-- A code point of a string as it is written between quotes. -/
theorem exists_parts_escapeInString (escaped : Bool) (c : CodePoint) :
    ∃ parts, PartsText (encode escaped (escapeInString c)) parts ∧ CodeParts escaped c parts := by
  have hletter : ∀ {e : CodePoint}, (e, c) ∈ shortEscapes →
      ∃ parts, PartsText (encode escaped [ofChar '\\', e]) parts ∧ CodeParts escaped c parts := by
    intro e he
    have hascii : ∀ p ∈ shortEscapes, p.1.val < 0x7F ∧ p.2.val < 0x7F := by decide
    obtain ⟨he', hc⟩ : e.val < 0x7F ∧ c.val < 0x7F := hascii _ he
    have htext : Ascii [ofChar '\\', e] := by
      intro x hx
      simp only [List.mem_cons, List.not_mem_nil, or_false] at hx
      rcases hx with rfl | rfl
      · decide
      · exact he'
    rw [htext.encode]
    exact ⟨_, .short he .nil, .plain fun _ => not_surrogate_of_val_lt (by omega)⟩
  -- Seven code points have a letter, the other controls a number, the rest stand for themselves.
  unfold escapeInString
  split_ifs with h₁ h₂ h₃ h₄ h₅ h₆ h₇ hcontrol
  · exact hletter (by rw [h₁]; decide)
  · exact hletter (by rw [h₂]; decide)
  · exact hletter (by rw [h₃]; decide)
  · exact hletter (by rw [h₄]; decide)
  · exact hletter (by rw [h₅]; decide)
  · exact hletter (by rw [h₆]; decide)
  · exact hletter (by rw [h₇]; decide)
  · have hparts := partsText_unicodeEscape (show c.val < 0x10000 by omega)
    have hself : CodePoint.ofNat c.val = c := CodePoint.ext (CodePoint.val_ofNat c.lt)
    rw [hself] at hparts
    rw [(ascii_unicodeEscape c.val).encode]
    exact ⟨_, hparts, .unit fun _ => not_surrogate_of_val_lt (by omega)⟩
  · have hc : Unescaped c := ⟨not_lt.mp hcontrol, h₁, h₂⟩
    cases escaped with
    | false => exact ⟨_, .plain hc .nil, .plain fun h => absurd h (by simp)⟩
    | true =>
      obtain ⟨parts, hparts, hcode⟩ := exists_parts_escapeCodePoint hc
      exact ⟨parts, by simpa [encode, escapeNonAscii] using hparts, hcode⟩

/-! ## Whole strings -/

/-- How a string is written, code point by code point. -/
inductive StringParts (escaped : Bool) : Text → List StringPart → Prop
  | nil : StringParts escaped [] []
  | cons {c : CodePoint} {s : Text} {parts parts' : List StringPart} (h : CodeParts escaped c parts)
      (rest : StringParts escaped s parts') : StringParts escaped (c :: s) (parts ++ parts')

/-- **A written string is a string of the grammar.** -/
theorem exists_parts_quote (escaped : Bool) (s : Text) :
    ∃ t parts, encode escaped (quote s) = ofChar '"' :: (t ++ [ofChar '"']) ∧
      PartsText t parts ∧ StringParts escaped s parts := by
  have hquote : Ascii [ofChar '"'] := by decide
  have hbody : ∃ parts, PartsText (encode escaped (s.flatMap escapeInString)) parts ∧
      StringParts escaped s parts := by
    induction s with
    | nil => exact ⟨[], by simpa using .nil, .nil⟩
    | cons c s ih =>
      obtain ⟨parts, hparts, hcode⟩ := exists_parts_escapeInString escaped c
      obtain ⟨parts', hparts', hrest⟩ := ih
      refine ⟨parts ++ parts', ?_, .cons hcode hrest⟩
      rw [List.flatMap_cons, encode_append]
      exact hparts.append hparts'
  obtain ⟨parts, hparts, hstring⟩ := hbody
  refine ⟨_, parts, ?_, hparts, hstring⟩
  rw [quote, ← List.singleton_append, encode_append, encode_append, hquote.encode,
    List.singleton_append]

/-! ## Joining what stood side by side -/

/-- The halves of surrogate pairs that stand side by side, joined. -/
def joinPairs : Text → Text
  | [] => []
  | [c] => [c]
  | high :: low :: rest =>
    if high.isHighSurrogate ∧ low.isLowSurrogate then .ofSurrogates high low :: joinPairs rest
    else high :: joinPairs (low :: rest)

/-- A text with two halves of a surrogate pair side by side. -/
def HoldsPair (s : Text) : Prop :=
  ∃ before high low after, s = before ++ high :: low :: after ∧ high.isHighSurrogate ∧
    low.isLowSurrogate

theorem joinPairs_cons {c : CodePoint} {s : Text}
    (h : ¬ (c.isHighSurrogate ∧ ∃ low ∈ s.head?, low.isLowSurrogate)) :
    joinPairs (c :: s) = c :: joinPairs s := by
  cases s with
  | nil => rfl
  | cons low s =>
    rw [joinPairs, if_neg]
    rintro ⟨hc, hlow⟩
    exact h ⟨hc, low, rfl, hlow⟩

theorem isSurrogate_of_isHighSurrogate {c : CodePoint} (h : c.isHighSurrogate) : c.isSurrogate := by
  simp only [CodePoint.isHighSurrogate, CodePoint.isSurrogate, CodePoint.between, Bool.and_eq_true,
    decide_eq_true_eq] at h ⊢
  omega

theorem isSurrogate_of_isLowSurrogate {c : CodePoint} (h : c.isLowSurrogate) : c.isSurrogate := by
  simp only [CodePoint.isLowSurrogate, CodePoint.isSurrogate, CodePoint.between, Bool.and_eq_true,
    decide_eq_true_eq] at h ⊢
  omega

theorem isSurrogate_ofSurrogates {high low : CodePoint} (hhigh : high.isHighSurrogate)
    (hlow : low.isLowSurrogate) : (CodePoint.ofSurrogates high low).isSurrogate = false := by
  simp only [CodePoint.isHighSurrogate, CodePoint.isLowSurrogate, CodePoint.between,
    Bool.and_eq_true, decide_eq_true_eq] at hhigh hlow
  have hval := CodePoint.val_ofNat
    (n := 0x10000 + (high.val - 0xD800) * 0x400 + (low.val - 0xDC00)) (by omega)
  simp only [CodePoint.ofSurrogates, CodePoint.isSurrogate, CodePoint.between, hval,
    Bool.and_eq_false_iff, decide_eq_false_iff_not]
  omega

/-- The first part of a string is the number of a low surrogate just if the string begins with
one. -/
theorem CodeParts.head_low {c : CodePoint} {parts parts' : List StringPart}
    (h : CodeParts true c parts) {low : CodePoint} {rest : List StringPart}
    (heq : parts ++ parts' = .unit low :: rest) (hlow : low.isLowSurrogate) :
    c = low ∧ parts = [.unit low] := by
  cases h with
  | plain => exact absurd heq (by simp)
  | unit =>
    obtain ⟨hunit, -⟩ := List.cons.inj heq
    obtain rfl := StringPart.unit.inj hunit
    exact ⟨rfl, rfl⟩
  | @pair high low' _ hhigh hlow' =>
    obtain ⟨hunit, -⟩ := List.cons.inj heq
    obtain rfl := StringPart.unit.inj hunit
    simp only [CodePoint.isHighSurrogate, CodePoint.isLowSurrogate, CodePoint.between,
      Bool.and_eq_true, decide_eq_true_eq] at hhigh hlow
    omega

theorem CodeParts.of_surrogate {c : CodePoint} {parts : List StringPart}
    (h : CodeParts true c parts) (hc : c.isSurrogate) : parts = [.unit c] := by
  cases h with
  | plain hplain =>
    rw [hplain rfl] at hc
    exact absurd hc (by simp)
  | unit => rfl
  | pair _ hhigh hlow =>
    rw [isSurrogate_ofSurrogates hhigh hlow] at hc
    exact absurd hc (by simp)

/-- A code point that is no first half of a pair is read by itself. -/
theorem joinUnits_cons {c : CodePoint} {s : Text} {parts parts' : List StringPart}
    (h : CodeParts true c parts) (hs : StringParts true s parts')
    (hc : ¬ (c.isHighSurrogate ∧ ∃ low ∈ s.head?, low.isLowSurrogate)) :
    joinUnits (parts ++ parts') = c :: joinUnits parts' := by
  cases h with
  | plain => rfl
  | pair _ hhigh hlow => exact joinUnits_pair ⟨hhigh, hlow⟩ parts'
  | unit =>
    -- If the next part were a low half, the string would go on with that half itself.
    refine joinUnits_unit fun hhigh low rest heq => ?_
    by_contra hlow
    rw [Bool.not_eq_false] at hlow
    cases hs with
    | nil => exact absurd heq (by simp)
    | cons hcode _ =>
      obtain ⟨rfl, -⟩ := hcode.head_low heq hlow
      exact hc ⟨hhigh, _, rfl, hlow⟩

/-- **Where everything beyond ASCII is escaped, halves that stood side by side are joined.** -/
theorem joinUnits_of_escaped {s : Text} {parts : List StringPart} (h : StringParts true s parts) :
    joinUnits parts = joinPairs s := by
  induction s using joinPairs.induct generalizing parts with
  | case1 =>
    cases h
    rfl
  | case2 c =>
    rcases h with _ | ⟨hcode, _ | _⟩
    exact joinUnits_cons hcode .nil (by simp)
  | case3 high low rest hpair ih =>
    rcases h with _ | ⟨hhigh, _ | ⟨hlow, hrest⟩⟩
    rw [hhigh.of_surrogate (isSurrogate_of_isHighSurrogate hpair.1),
      hlow.of_surrogate (isSurrogate_of_isLowSurrogate hpair.2), joinPairs, if_pos hpair,
      ← ih hrest]
    exact joinUnits_pair hpair _
  | case4 high low rest hpair ih =>
    cases h with
    | cons hcode hrest =>
      have hnot : ¬ (high.isHighSurrogate ∧ ∃ c ∈ (low :: rest).head?, c.isLowSurrogate) := by
        simpa using hpair
      rw [joinUnits_cons hcode hrest hnot, joinPairs_cons hnot, ih hrest]

/-- Without escapes nothing is joined. -/
theorem joinUnits_of_not_escaped {s : Text} {parts : List StringPart}
    (h : StringParts false s parts) : joinUnits parts = s := by
  induction h with
  | nil => rfl
  | cons hcode _ ih =>
    cases hcode with
    | plain => rw [List.singleton_append, joinUnits_plain, ih]
    | pair h => exact absurd h (by simp)
    | unit h =>
      rw [List.singleton_append, joinUnits_unit, ih]
      intro hhigh
      rw [isSurrogate_of_isHighSurrogate hhigh] at h
      exact absurd (h rfl) (by simp)

theorem length_joinPairs_le (s : Text) : (joinPairs s).length ≤ s.length := by
  induction s using joinPairs.induct with
  | case1 => exact le_rfl
  | case2 c => exact le_rfl
  | case3 high low rest hpair ih =>
    rw [joinPairs, if_pos hpair]
    simp only [List.length_cons]
    omega
  | case4 high low rest hpair ih =>
    rw [joinPairs, if_neg hpair]
    simpa using ih

/-- Halves stand side by side at the front or further back. -/
theorem holdsPair_cons_iff (c : CodePoint) (s : Text) :
    HoldsPair (c :: s) ↔
      (c.isHighSurrogate ∧ ∃ low ∈ s.head?, low.isLowSurrogate) ∨ HoldsPair s := by
  constructor
  · rintro ⟨before, high, low, after, heq, hhigh, hlow⟩
    cases before with
    | nil =>
      obtain ⟨rfl, rfl⟩ := List.cons.inj heq
      exact Or.inl ⟨hhigh, low, rfl, hlow⟩
    | cons c before =>
      obtain ⟨-, hrest⟩ := List.cons.inj heq
      exact Or.inr ⟨before, high, low, after, hrest, hhigh, hlow⟩
  · rintro (⟨hhigh, low, hhead, hlow⟩ | ⟨before, high, low, after, rfl, hhigh, hlow⟩)
    · obtain ⟨after, rfl⟩ := List.head?_eq_some_iff.mp hhead
      exact ⟨[], c, low, after, rfl, hhigh, hlow⟩
    · exact ⟨c :: before, high, low, after, rfl, hhigh, hlow⟩

/-- **A text is its own join just if no halves stand side by side.** -/
theorem joinPairs_eq_self_iff (s : Text) : joinPairs s = s ↔ ¬ HoldsPair s := by
  have hnil : ¬ HoldsPair [] := by
    rintro ⟨before, high, low, after, heq, -⟩
    exact absurd heq.symm (by simp)
  induction s using joinPairs.induct with
  | case1 => exact iff_of_true rfl hnil
  | case2 c =>
    rw [holdsPair_cons_iff]
    exact iff_of_true rfl (by simpa using hnil)
  | case3 high low rest hpair ih =>
    -- Joining makes the text shorter.
    refine iff_of_false ?_ (not_not.mpr ⟨[], high, low, rest, rfl, hpair.1, hpair.2⟩)
    intro heq
    have hlength := congrArg List.length heq
    have hle := length_joinPairs_le rest
    rw [joinPairs, if_pos hpair] at hlength
    simp only [List.length_cons] at hlength
    omega
  | case4 high low rest hpair ih =>
    rw [joinPairs, if_neg hpair, List.cons_inj_right]
    refine ih.trans (not_congr ?_)
    rw [holdsPair_cons_iff high]
    simp [hpair]

/-- **A written string is read back** unless halves that stand side by side are escaped. -/
theorem joinUnits_eq_self_iff {escaped : Bool} {s : Text} {parts : List StringPart}
    (h : StringParts escaped s parts) : joinUnits parts = s ↔ (escaped → ¬ HoldsPair s) := by
  cases escaped with
  | false => exact iff_of_true (joinUnits_of_not_escaped h) (by simp)
  | true =>
    rw [joinUnits_of_escaped h, joinPairs_eq_self_iff]
    simp

end StructuredText.Json
