/-
# Reading items and members

The loops of the reader between brackets and between braces, for any reader of the values inside.
For completeness the value of a tree is kept as an option: the reader fails on derivable items just
if one of them has no value.

* `readItems_of_next` and `readMembers_of_next`: what decides behind an item or a member;
* `readItems_append` and `readMembers_append`: what the grammar derives is read to its end;
* `readItems_sound` and `readMembers_sound`: what is read is derived by the grammar.
-/
import Mathlib
import StructuredText.Json.Parser
import StructuredText.Proofs.Json.Evaluation
import StructuredText.Proofs.Json.Grammar
import StructuredText.Proofs.Json.Numbers
import StructuredText.Proofs.Json.Scalars
import StructuredText.Proofs.Json.Strings

namespace StructuredText.Json

open CodePoint (ofChar)

/-! ## White space -/

@[simp] theorem Blanks.nil : Blanks [] := by
  simp [Blanks]

theorem Blanks.append {w w' : Text} (h : Blanks w) (h' : Blanks w') : Blanks (w ++ w') := by
  intro c hc
  rcases List.mem_append.mp hc with hc | hc
  · exact h c hc
  · exact h' c hc

/-- A text that does not begin with white space. -/
def NoBlank (t : Text) : Prop := ∀ c ∈ t.head?, isJsonBlank c = false

theorem skipBlanks_append {w t : Text} (hw : Blanks w) (ht : NoBlank t) :
    skipBlanks (w ++ t) = t := by
  rw [skipBlanks, List.dropWhile_append_of_pos hw]
  cases t with
  | nil => rfl
  | cons c t => rw [List.dropWhile_cons_of_neg (by simp [ht c rfl])]

theorem exists_skipBlanks (t : Text) : ∃ w, Blanks w ∧ t = w ++ skipBlanks t :=
  ⟨t.takeWhile isJsonBlank, fun _ hc => List.mem_takeWhile_imp hc,
    List.takeWhile_append_dropWhile.symm⟩

theorem skipBlanks_eq_cons {t r : Text} {c : CodePoint} (h : skipBlanks t = c :: r) :
    ∃ w, Blanks w ∧ t = w ++ c :: r := by
  obtain ⟨w, hw, htext⟩ := exists_skipBlanks t
  exact ⟨w, hw, h ▸ htext⟩

/-- White space does not carry on a number. -/
theorem Blanks.endsNumber {w rest : Text} (hw : Blanks w) (hrest : EndsNumber rest) :
    EndsNumber (w ++ rest) := by
  cases w with
  | nil => exact hrest
  | cons c w =>
    have hc := hw c List.mem_cons_self
    simp only [isJsonBlank, Bool.or_eq_true, beq_iff_eq] at hc
    rcases hc with ((rfl | rfl) | rfl) | rfl <;>
    exact endsNumber_cons (by decide) (by decide) (by decide) _

/-- A code point that is no white space ends it. -/
theorem noBlank_cons {c : CodePoint} (hc : isJsonBlank c = false) (rest : Text) :
    NoBlank (c :: rest) := by
  rintro c' hc'
  obtain rfl : c = c' := by simpa using hc'
  exact hc

/-- What may stand behind a value in a container. -/
theorem ends_value {c : CodePoint} (hc : c ∈ (",]\x7d" : Text)) (rest : Text) :
    NoBlank (c :: rest) ∧ EndsNumber (c :: rest) := by
  have hall : ∀ d ∈ (",]\x7d" : Text), isJsonBlank d = false ∧ d.isDigit = false ∧
      d ≠ ofChar '.' ∧ ¬ ExponentLetter d := by decide
  obtain ⟨hblank, hdigit, hpoint, hletter⟩ := hall c hc
  exact ⟨noBlank_cons hblank rest, endsNumber_cons hdigit hpoint hletter rest⟩

/-! ## How a value begins -/

/-- Where a value can begin. -/
def StartsValue (c : CodePoint) : Prop := c.isDigit ∨ c ∈ ("-\"[\x7bntf" : Text)

/-- A code point that no value begins with. -/
theorem StartsValue.ne {c : CodePoint} (h : StartsValue c) {x : Char}
    (hdigit : (ofChar x).isDigit = false) (hother : ofChar x ∉ ("-\"[\x7bntf" : Text)) :
    c ≠ ofChar x := by
  rintro rfl
  rcases h with h | h
  · rw [hdigit] at h
    exact absurd h (by simp)
  · exact hother h

theorem StartsValue.not_blank {c : CodePoint} (h : StartsValue c) : isJsonBlank c = false := by
  have hspace := h.ne (x := ' ') (by decide) (by decide)
  have htab := h.ne (x := '\t') (by decide) (by decide)
  have hline := h.ne (x := '\n') (by decide) (by decide)
  have hreturn := h.ne (x := '\r') (by decide) (by decide)
  simp [isJsonBlank, hspace, htab, hline, hreturn]

theorem ValueText.exists_cons {t : Text} {tree : Tree} (h : ValueText t tree) :
    ∃ c r, t = c :: r ∧ StartsValue c := by
  cases h with
  | null | true | false => exact ⟨_, _, rfl, Or.inr (by decide)⟩
  | string | emptyArray | array | emptyObject | object => exact ⟨_, _, rfl, Or.inr (by decide)⟩
  | number h =>
    obtain ⟨c, r, rfl, hc⟩ := h.exists_cons
    refine ⟨c, r, rfl, ?_⟩
    rcases hc with rfl | hc
    · exact Or.inr (by decide)
    · exact Or.inl hc

theorem ValueText.noBlank {t : Text} {tree : Tree} (h : ValueText t tree) (rest : Text) :
    NoBlank (t ++ rest) := by
  obtain ⟨c, r, rfl, hc⟩ := h.exists_cons
  exact noBlank_cons hc.not_blank _

/-! ## One item of an array -/

section Items

variable {item : (t : Text) → Reading Value t} {opening t r r' : Text} {v : Value}

theorem readItems_of_error {fault : Fault} (h : item t = .error fault)
    (before : t.length < opening.length) (read : List Value) :
    readItems item opening t before read = .error fault := by
  rw [readItems.eq_def, h]

theorem readItems_none (h : outcome? (item t) = none) (before : t.length < opening.length)
    (read : List Value) : outcome? (readItems item opening t before read) = none := by
  obtain ⟨fault, h⟩ := outcome?_eq_none_iff.mp h
  rw [readItems_of_error h]
  rfl

/-- Behind an item the next visible code point decides. -/
theorem readItems_of_next {c : CodePoint} (h : outcome? (item t) = some (v, r))
    (hr : skipBlanks r = c :: r') (before : t.length < opening.length) (read : List Value) :
    ∃ shorter before', readItems item opening t before read =
      if c = ofChar ']' then .ok ((v :: read).reverse, ⟨r', shorter⟩)
      else if c = ofChar ',' then readItems item opening (skipBlanks r') before' (v :: read)
      else .error (.located .commaExpected (c :: r')) := by
  obtain ⟨shorter, h⟩ := outcome?_eq_some_iff.mp h
  have hlength := length_skipBlanks_le r
  have hlength' := length_skipBlanks_le r'
  rw [hr, List.length_cons] at hlength
  refine ⟨by omega, by omega, ?_⟩
  rw [readItems.eq_def, h]
  simp only
  split
  · rename_i hnil
    exact absurd (hnil.symm.trans hr) (by simp)
  · rename_i c' r'' hcons
    obtain ⟨rfl, rfl⟩ := List.cons.inj (hcons.symm.trans hr)
    rfl

theorem readItems_last (h : outcome? (item t) = some (v, r)) (hr : skipBlanks r = ofChar ']' :: r')
    (before : t.length < opening.length) (read : List Value) :
    outcome? (readItems item opening t before read) = some ((v :: read).reverse, r') := by
  obtain ⟨shorter, _, hstep⟩ := readItems_of_next h hr before read
  rw [hstep, if_pos rfl]
  rfl

theorem readItems_more (h : outcome? (item t) = some (v, r)) (hr : skipBlanks r = ofChar ',' :: r')
    (before : t.length < opening.length) (read : List Value) :
    ∃ before', readItems item opening t before read =
      readItems item opening (skipBlanks r') before' (v :: read) := by
  have hne : ofChar ',' ≠ ofChar ']' := by decide
  obtain ⟨_, before', hstep⟩ := readItems_of_next h hr before read
  refine ⟨before', ?_⟩
  rw [hstep, if_neg hne, if_pos rfl]

/-- Behind an item a comma is due. -/
theorem readItems_of_other (h : outcome? (item t) = some (v, r))
    (hr : ∀ c ∈ (skipBlanks r).head?, c ≠ ofChar ']' ∧ c ≠ ofChar ',')
    (before : t.length < opening.length) (read : List Value) :
    readItems item opening t before read = .error (.located .commaExpected (skipBlanks r)) := by
  cases hskip : skipBlanks r with
  | nil =>
    obtain ⟨shorter, h⟩ := outcome?_eq_some_iff.mp h
    rw [readItems.eq_def, h]
    simp only
    split
    · rfl
    · rename_i hcons
      exact absurd (hskip.symm.trans hcons) (by simp)
  | cons c r' =>
    obtain ⟨hclose, hcomma⟩ := hr c (by rw [hskip, List.head?_cons, Option.mem_some_iff])
    obtain ⟨_, _, hstep⟩ := readItems_of_next h hskip before read
    rw [hstep, if_neg hclose, if_neg hcomma]

theorem readItems_other (h : outcome? (item t) = some (v, r))
    (hr : ∀ c ∈ (skipBlanks r).head?, c ≠ ofChar ']' ∧ c ≠ ofChar ',')
    (before : t.length < opening.length) (read : List Value) :
    outcome? (readItems item opening t before read) = none := by
  rw [readItems_of_other h hr]
  rfl

end Items

/-! ## The items of an array -/

/-- What a reader of values does with the texts of a tree. -/
def Completes (item : (t : Text) → Reading Value t) (levels : ℕ) (tree : Tree) : Prop :=
  ∀ t rest, ValueText t tree → EndsNumber rest →
    outcome? (item (t ++ rest)) = (tree.value? levels).map fun v => (v, rest)

/-- What a reader of values takes is a value of the grammar. -/
def Sound (item : (t : Text) → Reading Value t) (levels : ℕ) : Prop :=
  ∀ t v rest, outcome? (item t) = some (v, rest) →
    ∃ front tree, t = front ++ rest ∧ ValueText front tree ∧ tree.value? levels = some v

/-- Items are read to the closing bracket. -/
theorem readItems_append {item : (t : Text) → Reading Value t} {levels : ℕ} {items : List Tree}
    (hitem : ∀ tree ∈ items, Completes item levels tree) {t s rest opening : Text}
    (h : ItemsText t items) (hs : skipBlanks (t ++ ofChar ']' :: rest) = s)
    (before : s.length < opening.length) (read : List Value) :
    outcome? (readItems item opening s before read) =
      (itemsValue? levels items).map fun values => (read.reverse ++ values, rest) := by
  obtain ⟨hclose, hend⟩ := ends_value (c := ofChar ']') (by decide) rest
  -- The text is named, for the reader carries a proof about its length.
  induction items generalizing t s read with
  | nil => cases h
  | cons tree trees ih =>
    have htree := hitem tree List.mem_cons_self
    cases h with
    | @last w t₁ w' _ hw hv hw' =>
      have hread := htree t₁ _ hv (hw'.endsNumber hend)
      rw [List.append_assoc, List.append_assoc, skipBlanks_append hw (hv.noBlank _)] at hs
      subst hs
      cases hvalue : tree.value? levels with
      | none =>
        rw [hvalue] at hread
        rw [readItems_none hread]
        simp [itemsValue?, hvalue]
      | some v =>
        rw [hvalue] at hread
        rw [readItems_last hread (skipBlanks_append hw' hclose)]
        simp [itemsValue?, hvalue]
    | @more w t₁ w' ts _ _ hw hv hw' hrest =>
      obtain ⟨hcomma, hend'⟩ :=
        ends_value (c := ofChar ',') (by decide) (ts ++ ofChar ']' :: rest)
      have hread := htree t₁ _ hv (hw'.endsNumber hend')
      simp only [List.append_assoc, List.cons_append] at hs
      rw [skipBlanks_append hw (hv.noBlank _)] at hs
      subst hs
      cases hvalue : tree.value? levels with
      | none =>
        rw [hvalue] at hread
        rw [readItems_none hread]
        simp [itemsValue?, hvalue]
      | some v =>
        rw [hvalue] at hread
        obtain ⟨before', hstep⟩ :=
          readItems_more hread (skipBlanks_append hw' hcomma) before read
        rw [hstep, ih (fun tree' h' => hitem tree' (List.mem_cons_of_mem tree h')) hrest rfl]
        cases hvalues : itemsValue? levels trees <;> simp [itemsValue?, hvalue, hvalues]

theorem ItemsText.blanks_append {w t : Text} {items : List Tree} (hw : Blanks w)
    (h : ItemsText t items) : ItemsText (w ++ t) items := by
  cases h with
  | last hw₁ hv hw' =>
    rw [← List.append_assoc, ← List.append_assoc]
    exact .last (hw.append hw₁) hv hw'
  | more hw₁ hv hw' hrest =>
    rw [← List.append_assoc, ← List.append_assoc, ← List.append_assoc]
    exact .more (hw.append hw₁) hv hw' hrest

/-- What is read as items are items of the grammar. -/
theorem readItems_sound {item : (t : Text) → Reading Value t} {levels : ℕ}
    (hitem : Sound item levels) {t rest opening : Text} (before : t.length < opening.length)
    (read : List Value) {values : List Value}
    (h : outcome? (readItems item opening t before read) = some (values, rest)) :
    ∃ body items read', t = body ++ ofChar ']' :: rest ∧ ItemsText body items ∧
      itemsValue? levels items = some read' ∧ values = read.reverse ++ read' := by
  induction t, before, read using readItems.induct item opening with
  | case1 t before read fault herror =>
    rw [readItems_none (outcome?_eq_none_iff.mpr ⟨fault, herror⟩)] at h
    exact absurd h (by simp)
  | case2 t before read v r shorter hv hr =>
    rw [readItems_other (outcome?_eq_some_iff.mpr ⟨shorter, hv⟩) (by simp [hr])] at h
    exact absurd h (by simp)
  | case3 t before read v r shorter hv r' hr _ =>
    have hread := outcome?_eq_some_iff.mpr ⟨shorter, hv⟩
    rw [readItems_last hread hr] at h
    obtain ⟨rfl, rfl⟩ := Prod.mk.inj (Option.some.inj h)
    obtain ⟨front, tree, rfl, htree, hvalue⟩ := hitem t v r hread
    obtain ⟨w, hw, rfl⟩ := skipBlanks_eq_cons hr
    refine ⟨[] ++ front ++ w, [tree], [v], by simp, .last .nil htree hw, ?_, by simp⟩
    simp [itemsValue?, hvalue]
  | case4 t before read v r shorter hv r' _ hr _ _ ih =>
    have hread := outcome?_eq_some_iff.mpr ⟨shorter, hv⟩
    obtain ⟨before', hstep⟩ := readItems_more hread hr before read
    rw [hstep] at h
    obtain ⟨body, items, values', hbody, hitems, hvalues, rfl⟩ := ih h
    obtain ⟨front, tree, rfl, htree, hvalue⟩ := hitem t v r hread
    obtain ⟨w, hw, rfl⟩ := skipBlanks_eq_cons hr
    obtain ⟨w', hw', htext⟩ := exists_skipBlanks r'
    rw [hbody] at htext
    subst htext
    refine ⟨[] ++ front ++ w ++ ofChar ',' :: (w' ++ body), tree :: items, v :: values', by simp,
      .more .nil htree hw (hitems.blanks_append hw'), ?_, by simp⟩
    simp [itemsValue?, hvalue, hvalues]
  | case5 t before read v r shorter hv c r' hr _ hclose hcomma =>
    rw [readItems_other (outcome?_eq_some_iff.mpr ⟨shorter, hv⟩)
      (by simp [hr, hclose, hcomma])] at h
    exact absurd h (by simp)

/-! ## One member of an object -/

theorem readKey_append {k w rest : Text} {parts : List StringPart} (hk : PartsText k parts)
    (hw : Blanks w) :
    outcome? (readKey (ofChar '"' :: (k ++ ofChar '"' :: (w ++ ofChar ':' :: rest)))) =
      some (joinUnits parts, rest) := by
  have hcolon : NoBlank (ofChar ':' :: rest) := noBlank_cons (by decide) rest
  generalize ht : k ++ ofChar '"' :: (w ++ ofChar ':' :: rest) = t
  have hstring : outcome? (readString (ofChar '"' :: t) t (by simp) []) =
      some (joinUnits parts, w ++ ofChar ':' :: rest) :=
    (readString_eq_some_iff _ _ _).mpr ⟨k, parts, ht.symm, hk, rfl⟩
  obtain ⟨shorter, hstring⟩ := outcome?_eq_some_iff.mp hstring
  rw [readKey.eq_def]
  simp only [if_true]
  rw [hstring]
  simp only
  split
  · rename_i hnil
    rw [skipBlanks_append hw hcolon] at hnil
    exact absurd hnil (by simp)
  · rename_i d r hcons
    rw [skipBlanks_append hw hcolon] at hcons
    obtain ⟨rfl, rfl⟩ := List.cons.inj hcons
    rfl

theorem readKey_sound {t key rest : Text} (h : outcome? (readKey t) = some (key, rest)) :
    ∃ k w parts, t = ofChar '"' :: (k ++ ofChar '"' :: (w ++ ofChar ':' :: rest)) ∧
      PartsText k parts ∧ Blanks w ∧ key = joinUnits parts := by
  cases t with
  | nil => exact absurd h (by simp [readKey])
  | cons c t =>
    rw [readKey.eq_def] at h
    simp only at h
    by_cases hc : c = ofChar '"'
    · rw [if_pos hc] at h
      split at h
      · exact absurd h (by simp)
      · rename_i s r shorter hread
        obtain ⟨k, parts, rfl, hk, rfl⟩ :=
          (readString_eq_some_iff _ _ _).mp (outcome?_eq_some_iff.mpr ⟨shorter, hread⟩)
        split at h
        · exact absurd h (by simp)
        · rename_i d r' hskip
          by_cases hd : d = ofChar ':'
          · rw [if_pos hd] at h
            obtain ⟨rfl, rfl⟩ := Prod.mk.inj (Option.some.inj h)
            obtain ⟨w, hw, rfl⟩ := skipBlanks_eq_cons hskip
            exact ⟨k, w, parts, by simp only [hc, hd], hk, hw, rfl⟩
          · rw [if_neg hd] at h
            exact absurd h (by simp)
    · rw [if_neg hc] at h
      exact absurd h (by simp)

/-- A member without the white space around it. -/
def memberOutcome? (item : (t : Text) → Reading Value t) (t : Text) : Option (Member × Text) :=
  (outcome? (readKey t)).bind fun key =>
    (outcome? (item (skipBlanks key.2))).map fun v => ((key.1, v.1), v.2)

theorem memberOutcome?_of_readKey {item : (t : Text) → Reading Value t} {t key r : Text}
    (h : outcome? (readKey t) = some (key, r)) :
    memberOutcome? item t =
      (outcome? (item (skipBlanks r))).map fun v => ((key, v.1), v.2) := by
  rw [memberOutcome?, h, Option.bind_some]

theorem memberOutcome?_eq_some_iff {item : (t : Text) → Reading Value t} {t r' : Text}
    {m : Member} :
    memberOutcome? item t = some (m, r') ↔ ∃ r, outcome? (readKey t) = some (m.1, r) ∧
      outcome? (item (skipBlanks r)) = some (m.2, r') := by
  obtain ⟨key, v⟩ := m
  simp [memberOutcome?, Option.bind_eq_some_iff]

theorem memberOutcome?_append {item : (t : Text) → Reading Value t} {levels : ℕ} {tree : Tree}
    (hitem : Completes item levels tree) {t s rest : Text} {parts : List StringPart}
    (h : MemberText t (parts, tree)) (hend : EndsNumber rest) (hs : skipBlanks (t ++ rest) = s) :
    ∃ w, Blanks w ∧ memberOutcome? item s =
      (tree.value? levels).map fun v => ((joinUnits parts, v), w ++ rest) := by
  cases h with
  | @mk w k w₁ w₂ t w' _ _ hw hk hw₁ hw₂ hv hw' =>
    refine ⟨w', hw', ?_⟩
    simp only [List.append_assoc, List.cons_append] at hs
    rw [skipBlanks_append hw (noBlank_cons (by decide) _)] at hs
    subst hs
    rw [memberOutcome?_of_readKey (readKey_append hk hw₁), skipBlanks_append hw₂ (hv.noBlank _),
      hitem t _ hv (hw'.endsNumber hend), Option.map_map]
    rfl

theorem MemberText.blanks_append {w t w' : Text} {m : List StringPart × Tree} (hw : Blanks w)
    (h : MemberText t m) (hw' : Blanks w') : MemberText (w ++ t ++ w') m := by
  cases h with
  | mk hw₀ hk hw₁ hw₂ hv hw₃ =>
    have := MemberText.mk (hw.append hw₀) hk hw₁ hw₂ hv (hw₃.append hw')
    simpa only [List.append_assoc, List.cons_append] using this

/-- What is read as a member is one, with the white space behind it. -/
theorem memberOutcome?_sound {item : (t : Text) → Reading Value t} {levels : ℕ}
    (hitem : Sound item levels) {t r : Text} {m : Member} (h : memberOutcome? item t = some (m, r)) :
    ∃ front parts tree, t = front ++ skipBlanks r ∧ MemberText front (parts, tree) ∧
      m.1 = joinUnits parts ∧ tree.value? levels = some m.2 := by
  obtain ⟨afterKey, hkey, hvalue⟩ := memberOutcome?_eq_some_iff.mp h
  obtain ⟨k, w₁, parts, rfl, hk, hw₁, hname⟩ := readKey_sound hkey
  obtain ⟨front, tree, htext, htree, hv⟩ := hitem _ _ _ hvalue
  obtain ⟨w₂, hw₂, hafterKey⟩ := exists_skipBlanks afterKey
  obtain ⟨w₃, hw₃, hr⟩ := exists_skipBlanks r
  rw [htext] at hafterKey
  subst hafterKey
  refine ⟨_, parts, tree, ?_, .mk .nil hk hw₁ hw₂ htree hw₃, hname, hv⟩
  conv_lhs => rw [hr]
  simp

theorem length_memberOutcome?_lt {item : (t : Text) → Reading Value t} {t r : Text} {m : Member}
    (h : memberOutcome? item t = some (m, r)) : r.length < t.length := by
  obtain ⟨afterKey, hkey, hvalue⟩ := memberOutcome?_eq_some_iff.mp h
  obtain ⟨shorter, -⟩ := outcome?_eq_some_iff.mp hkey
  obtain ⟨shorter', -⟩ := outcome?_eq_some_iff.mp hvalue
  have hblanks := length_skipBlanks_le afterKey
  omega

/-- **Induction along the members**: at each place no member is read, or one that is the last, or one
with a comma behind it, or one with neither. -/
theorem members_induction (item : (t : Text) → Reading Value t) {P : Text → List Member → Prop}
    (none : ∀ t read, memberOutcome? item t = none → P t read)
    (last : ∀ t read m r r', memberOutcome? item t = some (m, r) →
      skipBlanks r = ofChar '}' :: r' → P t read)
    (more : ∀ t read m r r', memberOutcome? item t = some (m, r) →
      skipBlanks r = ofChar ',' :: r' → P (skipBlanks r') (m :: read) → P t read)
    (other : ∀ t read m r, memberOutcome? item t = some (m, r) →
      (∀ c ∈ (skipBlanks r).head?, c ≠ ofChar '}' ∧ c ≠ ofChar ',') → P t read)
    (t : Text) (read : List Member) : P t read := by
  induction hlength : t.length using Nat.strong_induction_on generalizing t read with
  | _ length ih =>
    subst hlength
    cases hread : memberOutcome? item t with
    | none => exact none t read hread
    | some outcome =>
      obtain ⟨m, r⟩ := outcome
      cases hskip : skipBlanks r with
      | nil => exact other t read m r hread (by simp [hskip])
      | cons c r' =>
        by_cases hclose : c = ofChar '}'
        · exact last t read m r r' hread (hclose ▸ hskip)
        · by_cases hcomma : c = ofChar ','
          · have hshorter := length_memberOutcome?_lt hread
            have hblanks := length_skipBlanks_le r
            have hblanks' := length_skipBlanks_le r'
            rw [hskip, List.length_cons] at hblanks
            exact more t read m r r' hread (hcomma ▸ hskip) (ih _ (by omega) _ _ rfl)
          · exact other t read m r hread (by simp [hskip, hclose, hcomma])

section Members

variable {item : (t : Text) → Reading Value t} {opening t r r' : Text} {m : Member}

theorem readMembers_of_key_error {fault : Fault} (h : readKey t = .error fault)
    (before : t.length < opening.length) (read : List Member) :
    readMembers item opening t before read = .error fault := by
  rw [readMembers.eq_def, h]

theorem readMembers_of_error {key : Text} {fault : Fault}
    (hkey : outcome? (readKey t) = some (key, r)) (h : item (skipBlanks r) = .error fault)
    (before : t.length < opening.length) (read : List Member) :
    readMembers item opening t before read = .error fault := by
  obtain ⟨shorter, hkey⟩ := outcome?_eq_some_iff.mp hkey
  rw [readMembers.eq_def, hkey]
  simp only
  rw [h]

theorem readMembers_none (h : memberOutcome? item t = none) (before : t.length < opening.length)
    (read : List Member) : outcome? (readMembers item opening t before read) = none := by
  cases hread : readKey t with
  | error fault =>
    rw [readMembers_of_key_error hread]
    rfl
  | ok outcome =>
    obtain ⟨key, r, shorter⟩ := outcome
    have hkey := outcome?_eq_some_iff.mpr ⟨shorter, hread⟩
    rw [memberOutcome?_of_readKey hkey, Option.map_eq_none_iff] at h
    obtain ⟨fault, h⟩ := outcome?_eq_none_iff.mp h
    rw [readMembers_of_error hkey h]
    rfl

/-- Behind a member the next visible code point decides. -/
theorem readMembers_of_next {c : CodePoint} (h : memberOutcome? item t = some (m, r))
    (hr : skipBlanks r = c :: r') (before : t.length < opening.length) (read : List Member) :
    ∃ shorter before', readMembers item opening t before read =
      if c = ofChar '}' then .ok ((m :: read).reverse, ⟨r', shorter⟩)
      else if c = ofChar ',' then readMembers item opening (skipBlanks r') before' (m :: read)
      else .error (.located .commaExpected (c :: r')) := by
  obtain ⟨afterKey, hkey, hv⟩ := memberOutcome?_eq_some_iff.mp h
  obtain ⟨shorter, hkey⟩ := outcome?_eq_some_iff.mp hkey
  obtain ⟨shorter', hv⟩ := outcome?_eq_some_iff.mp hv
  have hkeyLength := length_skipBlanks_le afterKey
  have hlength := length_skipBlanks_le r
  have hlength' := length_skipBlanks_le r'
  rw [hr, List.length_cons] at hlength
  refine ⟨by omega, by omega, ?_⟩
  rw [readMembers.eq_def, hkey]
  simp only
  rw [hv]
  simp only
  split
  · rename_i hnil
    exact absurd (hnil.symm.trans hr) (by simp)
  · rename_i c' r'' hcons
    obtain ⟨rfl, rfl⟩ := List.cons.inj (hcons.symm.trans hr)
    rfl

theorem readMembers_last (h : memberOutcome? item t = some (m, r))
    (hr : skipBlanks r = ofChar '}' :: r') (before : t.length < opening.length)
    (read : List Member) :
    outcome? (readMembers item opening t before read) = some ((m :: read).reverse, r') := by
  obtain ⟨shorter, _, hstep⟩ := readMembers_of_next h hr before read
  rw [hstep, if_pos rfl]
  rfl

theorem readMembers_more (h : memberOutcome? item t = some (m, r))
    (hr : skipBlanks r = ofChar ',' :: r') (before : t.length < opening.length)
    (read : List Member) :
    ∃ before', readMembers item opening t before read =
      readMembers item opening (skipBlanks r') before' (m :: read) := by
  have hne : ofChar ',' ≠ ofChar '}' := by decide
  obtain ⟨_, before', hstep⟩ := readMembers_of_next h hr before read
  refine ⟨before', ?_⟩
  rw [hstep, if_neg hne, if_pos rfl]

/-- Behind a member a comma is due. -/
theorem readMembers_of_other (h : memberOutcome? item t = some (m, r))
    (hr : ∀ c ∈ (skipBlanks r).head?, c ≠ ofChar '}' ∧ c ≠ ofChar ',')
    (before : t.length < opening.length) (read : List Member) :
    readMembers item opening t before read =
      .error (.located .commaExpected (skipBlanks r)) := by
  cases hskip : skipBlanks r with
  | nil =>
    obtain ⟨afterKey, hkey, hv⟩ := memberOutcome?_eq_some_iff.mp h
    obtain ⟨shorter, hkey⟩ := outcome?_eq_some_iff.mp hkey
    obtain ⟨shorter', hv⟩ := outcome?_eq_some_iff.mp hv
    rw [readMembers.eq_def, hkey]
    simp only
    rw [hv]
    simp only
    split
    · rfl
    · rename_i hcons
      exact absurd (hskip.symm.trans hcons) (by simp)
  | cons c r' =>
    obtain ⟨hclose, hcomma⟩ := hr c (by rw [hskip, List.head?_cons, Option.mem_some_iff])
    obtain ⟨_, _, hstep⟩ := readMembers_of_next h hskip before read
    rw [hstep, if_neg hclose, if_neg hcomma]

theorem readMembers_other (h : memberOutcome? item t = some (m, r))
    (hr : ∀ c ∈ (skipBlanks r).head?, c ≠ ofChar '}' ∧ c ≠ ofChar ',')
    (before : t.length < opening.length) (read : List Member) :
    outcome? (readMembers item opening t before read) = none := by
  rw [readMembers_of_other h hr]
  rfl

end Members

/-! ## The members of an object -/

/-- Members are read to the closing brace. -/
theorem readMembers_append {item : (t : Text) → Reading Value t} {levels : ℕ}
    {members : List (List StringPart × Tree)} (hitem : ∀ m ∈ members, Completes item levels m.2)
    {t s rest opening : Text} (h : MembersText t members)
    (hs : skipBlanks (t ++ ofChar '}' :: rest) = s) (before : s.length < opening.length)
    (read : List Member) :
    outcome? (readMembers item opening s before read) =
      (membersValue? levels members).map fun written => (read.reverse ++ written, rest) := by
  obtain ⟨hclose, hend⟩ := ends_value (c := ofChar '}') (by decide) rest
  induction members generalizing t s read with
  | nil => cases h
  | cons m members ih =>
    obtain ⟨name, tree⟩ := m
    have htree := hitem (name, tree) List.mem_cons_self
    cases h with
    | last hm =>
      obtain ⟨w, hw, hread⟩ := memberOutcome?_append htree hm hend hs
      cases hvalue : tree.value? levels with
      | none =>
        rw [hvalue] at hread
        rw [readMembers_none hread]
        simp [membersValue?, hvalue]
      | some v =>
        rw [hvalue] at hread
        rw [readMembers_last hread (skipBlanks_append hw hclose)]
        simp [membersValue?, hvalue]
    | @more t ts _ _ hm hrest =>
      obtain ⟨hcomma, hend'⟩ :=
        ends_value (c := ofChar ',') (by decide) (ts ++ ofChar '}' :: rest)
      rw [List.append_assoc, List.cons_append] at hs
      obtain ⟨w, hw, hread⟩ := memberOutcome?_append htree hm hend' hs
      cases hvalue : tree.value? levels with
      | none =>
        rw [hvalue] at hread
        rw [readMembers_none hread]
        simp [membersValue?, hvalue]
      | some v =>
        rw [hvalue] at hread
        obtain ⟨before', hstep⟩ :=
          readMembers_more hread (skipBlanks_append hw hcomma) before read
        rw [hstep, ih (fun m h' => hitem m (List.mem_cons_of_mem _ h')) hrest rfl]
        cases hwritten : membersValue? levels members <;> simp [membersValue?, hvalue, hwritten]

theorem MembersText.blanks_append {w t : Text} {members : List (List StringPart × Tree)}
    (hw : Blanks w) (h : MembersText t members) : MembersText (w ++ t) members := by
  cases h with
  | last hm => exact .last (by simpa using hm.blanks_append hw .nil)
  | more hm hrest =>
    rw [← List.append_assoc]
    exact .more (by simpa using hm.blanks_append hw .nil) hrest

/-- What is read as members are members of the grammar. -/
theorem readMembers_sound {item : (t : Text) → Reading Value t} {levels : ℕ}
    (hitem : Sound item levels) {t rest opening : Text} (before : t.length < opening.length)
    (read : List Member) {written : List Member}
    (h : outcome? (readMembers item opening t before read) = some (written, rest)) :
    ∃ body members read', t = body ++ ofChar '}' :: rest ∧ MembersText body members ∧
      membersValue? levels members = some read' ∧ written = read.reverse ++ read' := by
  induction t, read using members_induction item with
  | none t read hread =>
    rw [readMembers_none hread] at h
    exact absurd h (by simp)
  | last t read m r r' hread hskip =>
    rw [readMembers_last hread hskip] at h
    obtain ⟨rfl, rfl⟩ := Prod.mk.inj (Option.some.inj h)
    obtain ⟨front, parts, tree, rfl, hm, hname, hvalue⟩ := memberOutcome?_sound hitem hread
    refine ⟨front, [(parts, tree)], [m], by rw [hskip], .last hm, ?_, by simp⟩
    simp [membersValue?, hvalue, ← hname]
  | more t read m r r' hread hskip ih =>
    obtain ⟨before', hstep⟩ := readMembers_more hread hskip before read
    rw [hstep] at h
    obtain ⟨body, members, read', hbody, hmembers, hread', rfl⟩ := ih before' h
    obtain ⟨front, parts, tree, rfl, hm, hname, hvalue⟩ := memberOutcome?_sound hitem hread
    obtain ⟨w, hw, htext⟩ := exists_skipBlanks r'
    rw [hbody] at htext
    subst htext
    refine ⟨front ++ ofChar ',' :: (w ++ body), (parts, tree) :: members, m :: read', ?_,
      .more hm (hmembers.blanks_append hw), ?_, by simp⟩
    · rw [hskip]
      simp
    · simp [membersValue?, hvalue, hread', ← hname]
  | other t read m r hread hother =>
    rw [readMembers_other hread hother] at h
    exact absurd h (by simp)

end StructuredText.Json
