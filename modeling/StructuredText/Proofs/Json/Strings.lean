/-
# Reading a string

The reader of strings goes from escape to escape and joins the halves of a surrogate pair on the
way; the grammar cuts a string into parts first and joins them afterwards.  Both give the same
text.

* `outcome?` is what a reader read and what it left, without its proof that it went on;
* `readString_eq_some_iff` says which texts are read as a string, and as which.
-/
import Mathlib
import StructuredText.Json.Parser
import StructuredText.Proofs.Json.Grammar

namespace StructuredText.Json

open CodePoint (ofChar)

/-! ## What was read -/

/-- What was read and what is left of the text, if there is no fault. -/
def outcome? {α : Type} {t : Text} (reading : Reading α t) : Option (α × Text) :=
  reading.toOption.map fun (a, r) => (a, r.val)

@[simp] theorem outcome?_ok {α : Type} {t : Text} (a : α) (r : Rest t) :
    outcome? (.ok (a, r) : Reading α t) = some (a, r.val) := rfl

@[simp] theorem outcome?_error {α : Type} {t : Text} (fault : Fault) :
    outcome? (.error fault : Reading α t) = none := rfl

theorem outcome?_eq_some_iff {α : Type} {t r : Text} {a : α} {reading : Reading α t} :
    outcome? reading = some (a, r) ↔ ∃ shorter, reading = .ok (a, ⟨r, shorter⟩) := by
  constructor
  · intro h
    match reading with
    | .error _ => exact absurd h (by simp)
    | .ok (a', ⟨r', shorter⟩) =>
      obtain ⟨rfl, rfl⟩ := Prod.mk.inj (Option.some.inj h)
      exact ⟨shorter, rfl⟩
  · rintro ⟨shorter, rfl⟩
    rfl

theorem outcome?_eq_none_iff {α : Type} {t : Text} {reading : Reading α t} :
    outcome? reading = none ↔ ∃ fault, reading = .error fault := by
  match reading with
  | .error fault => exact iff_of_true rfl ⟨fault, rfl⟩
  | .ok (a, r) => exact iff_of_false (by simp) (by simp)

theorem outcome?_map {α β : Type} {t : Text} (f : α → β) (reading : Reading α t) :
    outcome? (Except.map (fun (a, r) => (f a, r)) reading : Reading β t) =
      (outcome? reading).map fun (a, r) => (f a, r) := by
  cases reading <;> rfl

/-! ## Numbered escapes -/

/-- Four digits are read if something follows them. -/
theorem hex4?_append {w x y z : CodePoint} {n : ℕ} (hn : Text.hexValue? [w, x, y, z] = some n)
    {r : Text} (hr : r ≠ []) :
    hex4? (w :: x :: y :: z :: r) = some (CodePoint.ofNat n, ⟨r, by simp; omega⟩) := by
  obtain ⟨next, r, rfl⟩ := List.exists_cons_of_ne_nil hr
  simp [hex4?, hn]

theorem hex4?_sound {t r : Text} {c : CodePoint} {hr : r.length < t.length}
    (h : hex4? t = some (c, ⟨r, hr⟩)) :
    ∃ w x y z n, t = w :: x :: y :: z :: r ∧ Text.hexValue? [w, x, y, z] = some n ∧
      c = CodePoint.ofNat n := by
  unfold hex4? at h
  split at h
  · obtain ⟨n, hn, hc⟩ := Option.map_eq_some_iff.mp h
    obtain ⟨rfl, hr⟩ := Prod.mk.inj hc
    obtain rfl := congrArg Subtype.val hr
    exact ⟨_, _, _, _, n, rfl, hn, rfl⟩
  · exact absurd h (by simp)

theorem lowSurrogate?_append {w x y z : CodePoint} {n : ℕ}
    (hn : Text.hexValue? [w, x, y, z] = some n) {r : Text} (hr : r ≠ []) :
    lowSurrogate? (ofChar '\\' :: ofChar 'u' :: w :: x :: y :: z :: r) =
      if (CodePoint.ofNat n).isLowSurrogate then
        some (CodePoint.ofNat n, ⟨r, by simp; omega⟩) else none := by
  simp [lowSurrogate?, hex4?_append hn hr]

theorem lowSurrogate?_sound {t r : Text} {low : CodePoint} {hr : r.length < t.length}
    (h : lowSurrogate? t = some (low, ⟨r, hr⟩)) :
    low.isLowSurrogate ∧ ∃ w x y z n, t = ofChar '\\' :: ofChar 'u' :: w :: x :: y :: z :: r ∧
      Text.hexValue? [w, x, y, z] = some n ∧ low = CodePoint.ofNat n := by
  unfold lowSurrogate? at h
  split at h
  · split at h
    · rename_i hstart
      obtain ⟨rfl, rfl⟩ := hstart
      split at h
      · rename_i c r' hr' hhex
        obtain ⟨w, x, y, z, n, rfl, hn, hc⟩ := hex4?_sound hhex
        split at h
        · rename_i hlow
          obtain ⟨rfl, hr⟩ := Prod.mk.inj (Option.some.inj h)
          obtain rfl := congrArg Subtype.val hr
          exact ⟨hlow, w, x, y, z, n, rfl, hn, hc⟩
        · exact absurd h (by simp)
      · exact absurd h (by simp)
    · exact absurd h (by simp)
  · exact absurd h (by simp)

theorem ne_of_mem_shortEscapes {e c : CodePoint} (h : (e, c) ∈ shortEscapes) : e ≠ ofChar 'u' :=
  (show ∀ p ∈ shortEscapes, p.1 ≠ ofChar 'u' by decide) _ h

/-- What stands before the closing quote of a string begins with the escape of a low surrogate
just if its first part is one. -/
theorem lowSurrogate?_parts {body : Text} {parts : List StringPart} (h : PartsText body parts)
    (rest : Text) :
    (∃ low parts' body', parts = .unit low :: parts' ∧ low.isLowSurrogate ∧
      PartsText body' parts' ∧ body'.length < body.length ∧
      ∃ shorter, lowSurrogate? (body ++ ofChar '"' :: rest) =
        some (low, ⟨body' ++ ofChar '"' :: rest, shorter⟩)) ∨
    (∀ low parts', parts = .unit low :: parts' → low.isLowSurrogate = false) ∧
      lowSurrogate? (body ++ ofChar '"' :: rest) = none := by
  cases h with
  | nil =>
    refine Or.inr ⟨by simp, ?_⟩
    cases rest with
    | nil => rfl
    | cons c rest =>
      have hquote : ofChar '"' ≠ ofChar '\\' := by decide
      simp [lowSurrogate?, hquote]
  | plain hc =>
    refine Or.inr ⟨by simp, ?_⟩
    rename_i c t parts _
    obtain ⟨next, r, hnext⟩ : ∃ next r, t ++ ofChar '"' :: rest = next :: r :=
      List.exists_cons_of_ne_nil (by simp)
    rw [List.cons_append, hnext]
    simp [lowSurrogate?, hc.2.2]
  | short he =>
    exact Or.inr ⟨by simp, by simp [lowSurrogate?, ne_of_mem_shortEscapes he]⟩
  | @unit w x y z n t parts hn hrest =>
    have hne : t ++ ofChar '"' :: rest ≠ [] := by simp
    by_cases hlow : (CodePoint.ofNat n).isLowSurrogate
    · refine Or.inl ⟨_, parts, t, rfl, hlow, hrest, by simp; omega, by simp; omega, ?_⟩
      exact (lowSurrogate?_append hn hne).trans (if_pos hlow)
    · refine Or.inr ⟨?_, (lowSurrogate?_append hn hne).trans (if_neg hlow)⟩
      intro low parts' heq
      obtain ⟨hunit, -⟩ := List.cons.inj heq
      rw [← StringPart.unit.inj hunit]
      simpa using hlow

/-! ## Joining surrogates -/

@[simp] theorem joinUnits_plain (c : CodePoint) (parts : List StringPart) :
    joinUnits (.plain c :: parts) = c :: joinUnits parts := rfl

theorem joinUnits_pair {high low : CodePoint} (h : high.isHighSurrogate ∧ low.isLowSurrogate)
    (parts : List StringPart) :
    joinUnits (.unit high :: .unit low :: parts) = .ofSurrogates high low :: joinUnits parts := by
  rw [joinUnits, if_pos h]

/-- An escape stands for itself unless it is the first half of a pair. -/
theorem joinUnits_unit {c : CodePoint} {parts : List StringPart}
    (h : c.isHighSurrogate → ∀ low parts', parts = .unit low :: parts' →
      low.isLowSurrogate = false) :
    joinUnits (.unit c :: parts) = c :: joinUnits parts := by
  match parts with
  | [] | .plain _ :: _ => rfl
  | .unit low :: parts =>
    rw [joinUnits, if_neg]
    rintro ⟨hhigh, hlow⟩
    rw [h hhigh low parts rfl] at hlow
    exact absurd hlow (by simp)

/-- A numbered escape before other parts is read with the second half of its pair, if that
follows. -/
theorem unicodeEscape?_append {w x y z : CodePoint} {n : ℕ} {t : Text} {parts : List StringPart}
    (hn : Text.hexValue? [w, x, y, z] = some n) (h : PartsText t parts) (rest : Text) :
    ∃ d t' parts', PartsText t' parts' ∧ t'.length ≤ t.length ∧
      joinUnits (.unit (CodePoint.ofNat n) :: parts) = d :: joinUnits parts' ∧
      ∃ shorter, unicodeEscape? (w :: x :: y :: z :: (t ++ ofChar '"' :: rest)) =
        some (d, ⟨t' ++ ofChar '"' :: rest, shorter⟩) := by
  have hhex := hex4?_append hn (r := t ++ ofChar '"' :: rest) (by simp)
  by_cases hhigh : (CodePoint.ofNat n).isHighSurrogate
  · rcases lowSurrogate?_parts h rest with
      ⟨low, parts', t', rfl, hlow, ht', hlength, shorter, heq⟩ | ⟨hnot, hnone⟩
    · refine ⟨_, t', parts', ht', hlength.le, joinUnits_pair ⟨hhigh, hlow⟩ parts', ?_⟩
      refine ⟨by simp; omega, ?_⟩
      simp only [unicodeEscape?, hhex, if_pos hhigh, heq]
    · refine ⟨_, t, parts, h, le_rfl, joinUnits_unit fun _ => hnot, by simp; omega, ?_⟩
      simp only [unicodeEscape?, hhex, if_pos hhigh, hnone]
  · refine ⟨_, t, parts, h, le_rfl, joinUnits_unit fun h => absurd h hhigh, by simp; omega, ?_⟩
    simp only [unicodeEscape?, hhex, if_neg hhigh]

theorem PartsText.append {s t : Text} {parts parts' : List StringPart} (h : PartsText s parts)
    (h' : PartsText t parts') : PartsText (s ++ t) (parts ++ parts') := by
  induction h with
  | nil => exact h'
  | plain hc _ ih => exact .plain hc ih
  | short he _ ih => exact .short he ih
  | unit hex _ ih => exact .unit hex ih

/-- What a numbered escape takes: the two halves of a pair, or one unit that is no first half with
the second one behind it. -/
theorem unicodeEscape?_takes {t r : Text} {d : CodePoint} {hr : r.length < t.length}
    (h : unicodeEscape? t = some (d, ⟨r, hr⟩)) :
    ∃ escape units, ofChar '\\' :: ofChar 'u' :: t = escape ++ r ∧ PartsText escape units ∧
      ((∃ high low, units = [.unit high, .unit low] ∧
          (high.isHighSurrogate ∧ low.isLowSurrogate) ∧ d = .ofSurrogates high low) ∨
        units = [.unit d] ∧ (d.isHighSurrogate → lowSurrogate? r = none)) := by
  unfold unicodeEscape? at h
  split at h
  · exact absurd h (by simp)
  · rename_i c r₁ hr₁ hhex
    obtain ⟨w, x, y, z, n, rfl, hn, rfl⟩ := hex4?_sound hhex
    by_cases hhigh : (CodePoint.ofNat n).isHighSurrogate
    · rw [if_pos hhigh] at h
      split at h
      · rename_i low r₂ hr₂ hsecond
        obtain ⟨hlow, w', x', y', z', n', rfl, hn', rfl⟩ := lowSurrogate?_sound hsecond
        obtain ⟨rfl, hr⟩ := Prod.mk.inj (Option.some.inj h)
        obtain rfl : r₂ = r := congrArg Subtype.val hr
        exact ⟨_, _, rfl, .unit hn (.unit hn' .nil), Or.inl ⟨_, _, rfl, ⟨hhigh, hlow⟩, rfl⟩⟩
      · rename_i hnone
        obtain ⟨rfl, hr⟩ := Prod.mk.inj (Option.some.inj h)
        obtain rfl : r₁ = r := congrArg Subtype.val hr
        exact ⟨_, _, rfl, .unit hn .nil, Or.inr ⟨rfl, fun _ => hnone⟩⟩
    · rw [if_neg hhigh] at h
      obtain ⟨rfl, hr⟩ := Prod.mk.inj (Option.some.inj h)
      obtain rfl : r₁ = r := congrArg Subtype.val hr
      exact ⟨_, _, rfl, .unit hn .nil, Or.inr ⟨rfl, fun h => absurd h hhigh⟩⟩

theorem unicodeEscape?_sound {t r : Text} {d : CodePoint} {hr : r.length < t.length}
    (h : unicodeEscape? t = some (d, ⟨r, hr⟩)) {body rest : Text} {parts : List StringPart}
    (hbody : PartsText body parts) (hrest : r = body ++ ofChar '"' :: rest) :
    ∃ body' parts', ofChar '\\' :: ofChar 'u' :: t = body' ++ ofChar '"' :: rest ∧
      PartsText body' parts' ∧ joinUnits parts' = d :: joinUnits parts := by
  obtain ⟨escape, units, htext, hunits, hkind⟩ := unicodeEscape?_takes h
  subst hrest
  refine ⟨escape ++ body, units ++ parts, by rw [htext, List.append_assoc],
    hunits.append hbody, ?_⟩
  obtain ⟨high, low, rfl, hpair, hd⟩ | ⟨rfl, hnone⟩ := hkind
  · rw [hd]
    exact joinUnits_pair hpair parts
  · -- If a first half stands alone, then what follows it begins with no second half.
    refine joinUnits_unit fun hhigh => ?_
    rcases lowSurrogate?_parts hbody rest with ⟨_, _, _, _, _, _, _, _, heq⟩ | ⟨hnot, -⟩
    · exact absurd ((hnone hhigh).symm.trans heq) (by simp)
    · exact hnot

/-! ## Strings -/

/-- The one-letter escapes are those of the grammar. -/
theorem shortEscape?_eq_some_iff (e c : CodePoint) :
    shortEscape? e = some c ↔ (e, c) ∈ shortEscapes := by
  constructor
  · intro h
    unfold shortEscape? at h
    split_ifs at h with h₁ h₂ h₃ h₄ h₅ h₆ h₇ h₈ <;>
    simp_all [shortEscapes]
  · exact fun h => (show ∀ p ∈ shortEscapes, shortEscape? p.1 = some p.2 by decide) _ h

/-! ### One step of the reader -/

section Steps

variable {opening : Text}

theorem readString_quote {r : Text} (before : (ofChar '"' :: r).length < opening.length)
    (read : Text) :
    outcome? (readString opening (ofChar '"' :: r) before read) = some (read.reverse, r) := by
  unfold readString
  simp

theorem readString_plain {c : CodePoint} {r : Text} (hc : Unescaped c)
    (before : (c :: r).length < opening.length) (read : Text) :
    ∃ before', readString opening (c :: r) before read =
      readString opening r before' (c :: read) := by
  have hcontrol : ¬ c.val < 0x20 := not_lt.mpr hc.1
  refine ⟨Nat.lt_of_succ_lt before, ?_⟩
  rw [readString.eq_def]
  simp only [if_neg hc.2.1, if_neg hc.2.2, if_neg hcontrol]

theorem readString_short {e c : CodePoint} {r : Text} (he : (e, c) ∈ shortEscapes)
    (before : (ofChar '\\' :: e :: r).length < opening.length) (read : Text) :
    ∃ before', readString opening (ofChar '\\' :: e :: r) before read =
      readString opening r before' (c :: read) := by
  have hbackslash : ofChar '\\' ≠ ofChar '"' := by decide
  refine ⟨Nat.lt_of_succ_lt (Nat.lt_of_succ_lt before), ?_⟩
  rw [readString.eq_def]
  simp only [if_neg hbackslash, if_true, if_neg (ne_of_mem_shortEscapes he),
    (shortEscape?_eq_some_iff e c).mpr he]

theorem readString_unit {d : CodePoint} {r r' : Text} {hr : r'.length < r.length}
    (h : unicodeEscape? r = some (d, ⟨r', hr⟩))
    (before : (ofChar '\\' :: ofChar 'u' :: r).length < opening.length) (read : Text) :
    ∃ before', readString opening (ofChar '\\' :: ofChar 'u' :: r) before read =
      readString opening r' before' (d :: read) := by
  have hbackslash : ofChar '\\' ≠ ofChar '"' := by decide
  refine ⟨hr.trans (Nat.lt_of_succ_lt (Nat.lt_of_succ_lt before)), ?_⟩
  rw [readString.eq_def]
  simp only [if_neg hbackslash, if_true, h]

end Steps

/-! ### Whole strings -/

theorem reverse_cons_append (c : CodePoint) (read t : Text) :
    (c :: read).reverse ++ t = read.reverse ++ c :: t := by
  rw [List.reverse_cons, List.append_assoc, List.singleton_append]

/-- **A string is read to its closing quote**, and its parts are joined on the way. -/
theorem readString_append {opening body : Text} {parts : List StringPart} (h : PartsText body parts)
    (rest : Text) (before : (body ++ ofChar '"' :: rest).length < opening.length) (read : Text) :
    outcome? (readString opening (body ++ ofChar '"' :: rest) before read) =
      some (read.reverse ++ joinUnits parts, rest) := by
  -- A pair of escapes is read in one step, so the induction is on the length and not on the parts.
  induction hlength : body.length using Nat.strong_induction_on generalizing body parts read with
  | _ length ih =>
    subst hlength
    cases h with
    | nil => exact (readString_quote before read).trans (by simp [joinUnits])
    | @plain c t parts hc hrest =>
      obtain ⟨before', hstep⟩ := readString_plain (r := t ++ ofChar '"' :: rest) hc before read
      simp only [List.cons_append]
      rw [hstep, ih t.length (by simp) hrest _ _ rfl, reverse_cons_append, joinUnits_plain]
    | @short e c t parts he hrest =>
      obtain ⟨before', hstep⟩ := readString_short (r := t ++ ofChar '"' :: rest) he before read
      simp only [List.cons_append]
      rw [hstep, ih t.length (by simp) hrest _ _ rfl, reverse_cons_append, joinUnits_plain]
    | @unit w x y z n t parts hn hrest =>
      -- The escape may be read together with the one after it.
      obtain ⟨d, t', parts', ht', hlength, hjoin, hshorter, heq⟩ :=
        unicodeEscape?_append hn hrest rest
      obtain ⟨before', hstep⟩ := readString_unit heq before read
      simp only [List.cons_append]
      rw [hstep, ih t'.length (by simp; omega) ht' _ _ rfl, reverse_cons_append, hjoin]

/-- What is read as a string is one. -/
theorem readString_sound {opening t : Text} (before : t.length < opening.length) (read : Text)
    {s rest : Text} (h : outcome? (readString opening t before read) = some (s, rest)) :
    ∃ body parts, t = body ++ ofChar '"' :: rest ∧ PartsText body parts ∧
      s = read.reverse ++ joinUnits parts := by
  induction t, before, read using readString.induct with
  | case1 read before _ =>
    rw [readString.eq_def] at h
    exact absurd h (by simp)
  | case2 read r before _ =>
    rw [readString_quote] at h
    obtain ⟨rfl, rfl⟩ := Prod.mk.inj (Option.some.inj h)
    exact ⟨[], [], rfl, .nil, by simp [joinUnits]⟩
  | case3 read hbackslash before _ =>
    rw [readString.eq_def] at h
    exact absurd h (by simp [hbackslash])
  | case4 read r d r' hr hunit hbackslash before _ ih =>
    obtain ⟨before', hstep⟩ := readString_unit hunit before read
    rw [hstep] at h
    obtain ⟨body, parts, hrest, hbody, rfl⟩ := ih h
    obtain ⟨body', parts', htext, hbody', hjoin⟩ := unicodeEscape?_sound hunit hbody hrest
    exact ⟨body', parts', htext, hbody', by rw [reverse_cons_append, hjoin]⟩
  | case5 read r hunit hbackslash before _ =>
    rw [readString.eq_def] at h
    exact absurd h (by simp [hbackslash, hunit])
  | case6 read e r he d hshort hbackslash before _ ih =>
    have hmem := (shortEscape?_eq_some_iff e d).mp hshort
    obtain ⟨before', hstep⟩ := readString_short hmem before read
    rw [hstep] at h
    obtain ⟨body, parts, rfl, hbody, rfl⟩ := ih h
    exact ⟨_, _, rfl, .short hmem hbody, by rw [reverse_cons_append, joinUnits_plain]⟩
  | case7 read e r he hshort hbackslash before _ =>
    rw [readString.eq_def] at h
    exact absurd h (by simp [hbackslash, he, hshort])
  | case8 read c r before hquote hbackslash hcontrol _ =>
    rw [readString.eq_def] at h
    exact absurd h (by simp [hquote, hbackslash, hcontrol])
  | case9 read c r before hquote hbackslash hcontrol _ ih =>
    have hc : Unescaped c := ⟨not_lt.mp hcontrol, hquote, hbackslash⟩
    obtain ⟨before', hstep⟩ := readString_plain hc before read
    rw [hstep] at h
    obtain ⟨body, parts, rfl, hbody, rfl⟩ := ih h
    exact ⟨_, _, rfl, .plain hc hbody, by rw [reverse_cons_append, joinUnits_plain]⟩

/-- **The texts that are read as a string**, up to its closing quote, and as which. -/
theorem readString_eq_some_iff {opening t : Text} (before : t.length < opening.length)
    (s rest : Text) :
    outcome? (readString opening t before []) = some (s, rest) ↔
      ∃ body parts, t = body ++ ofChar '"' :: rest ∧ PartsText body parts ∧
        s = joinUnits parts := by
  constructor
  · intro h
    simpa using readString_sound before [] h
  · rintro ⟨body, parts, rfl, hbody, rfl⟩
    simpa using readString_append hbody rest before []

end StructuredText.Json
