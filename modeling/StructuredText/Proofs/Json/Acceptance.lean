/-
# Strictness of the reader

The reader accepts a document just if the grammar derives it and all its numbers are in range, and
it gives the value that the grammar denotes.

* `readValue_append` and `readValue_sound` compare the reader of values with the grammar;
* `parseWithin_accepts_grammar` is about whole documents.
-/
import Mathlib
import StructuredText.Json.Parser
import StructuredText.Proofs.Json.Constants
import StructuredText.Proofs.Json.Containers
import StructuredText.Proofs.Json.Evaluation
import StructuredText.Proofs.Json.Grammar
import StructuredText.Proofs.Json.Scalars
import StructuredText.Proofs.Json.Strings

namespace StructuredText.Json

open CodePoint (ofChar)

/-! ## Arrays and objects -/

/-- Behind an opening bracket the next visible code point decides. -/
theorem readArray_of_next {r r' : Text} {c : CodePoint} (hr : skipBlanks r = c :: r')
    (item : (t : Text) → Reading Value t) (bracket : CodePoint) :
    ∃ shorter before, readArray item bracket r =
      if c = ofChar ']' then .ok (.array [], ⟨r', shorter⟩)
      else (readItems item (bracket :: r) (c :: r') before []).map
        fun (items, rest) => (.array items, rest) := by
  have hlength := length_skipBlanks_le r
  rw [hr, List.length_cons] at hlength
  refine ⟨by rw [List.length_cons]; omega, by rw [List.length_cons, List.length_cons]; omega, ?_⟩
  rw [readArray.eq_def]
  simp only
  split
  · rename_i hnil
    exact absurd (hnil.symm.trans hr) (by simp)
  · rename_i c' r'' hcons
    obtain ⟨rfl, rfl⟩ := List.cons.inj (hcons.symm.trans hr)
    rfl

theorem readArray_unfinished {r : Text} (hr : skipBlanks r = [])
    (item : (t : Text) → Reading Value t) (bracket : CodePoint) :
    readArray item bracket r = .error (.located .valueExpected []) := by
  rw [readArray.eq_def]
  simp only
  split
  · rfl
  · rename_i hcons
    exact absurd (hr.symm.trans hcons) (by simp)

theorem readArray_empty (item : (t : Text) → Reading Value t) (bracket : CodePoint) {w : Text}
    (hw : Blanks w) (rest : Text) :
    outcome? (readArray item bracket (w ++ ofChar ']' :: rest)) = some (.array [], rest) := by
  have hskip := skipBlanks_append hw (noBlank_cons (c := ofChar ']') (by decide) rest)
  obtain ⟨shorter, _, hread⟩ := readArray_of_next hskip item bracket
  rw [hread, if_pos rfl]
  rfl

/-- The first item begins after the white space. -/
theorem ItemsText.skipBlanks_eq_cons {t : Text} {items : List Tree} (h : ItemsText t items)
    (rest : Text) : ∃ c r, skipBlanks (t ++ rest) = c :: r ∧ StartsValue c := by
  cases h with
  | last hw hv =>
    obtain ⟨c, r, hcons, hc⟩ := hv.exists_cons
    rw [List.append_assoc, List.append_assoc, skipBlanks_append hw (hv.noBlank _), hcons]
    exact ⟨c, _, rfl, hc⟩
  | more hw hv =>
    obtain ⟨c, r, hcons, hc⟩ := hv.exists_cons
    rw [List.append_assoc, List.append_assoc, List.append_assoc,
      skipBlanks_append hw (hv.noBlank _), hcons]
    exact ⟨c, _, rfl, hc⟩

theorem readArray_append {item : (t : Text) → Reading Value t} {levels : ℕ} {items : List Tree}
    (hitem : ∀ tree ∈ items, Completes item levels tree) (bracket : CodePoint) {t : Text}
    (h : ItemsText t items) (rest : Text) :
    outcome? (readArray item bracket (t ++ ofChar ']' :: rest)) =
      (itemsValue? levels items).map fun values => (.array values, rest) := by
  obtain ⟨c, r, hskip, hc⟩ := h.skipBlanks_eq_cons (ofChar ']' :: rest)
  obtain ⟨_, before, hread⟩ := readArray_of_next hskip item bracket
  rw [hread, if_neg (hc.ne (by decide) (by decide)), outcome?_map,
    readItems_append hitem h hskip, Option.map_map]
  rfl

theorem readArray_sound {item : (t : Text) → Reading Value t} {levels : ℕ}
    (hitem : Sound item levels) {r rest : Text} {v : Value}
    (h : outcome? (readArray item (ofChar '[') r) = some (v, rest)) :
    ∃ front tree, ofChar '[' :: r = front ++ rest ∧ ValueText front tree ∧
      tree.value? (levels + 1) = some v := by
  cases hskip : skipBlanks r with
  | nil =>
    rw [readArray_unfinished hskip] at h
    exact absurd h (by simp)
  | cons c r' =>
    obtain ⟨shorter, before, hread⟩ := readArray_of_next hskip item (ofChar '[')
    rw [hread] at h
    by_cases hc : c = ofChar ']'
    · rw [if_pos hc] at h
      obtain ⟨rfl, rfl⟩ := Prod.mk.inj (Option.some.inj h)
      obtain ⟨w, hw, rfl⟩ := skipBlanks_eq_cons hskip
      exact ⟨_, _, by simp [hc], .emptyArray hw, rfl⟩
    · rw [if_neg hc, outcome?_map] at h
      obtain ⟨⟨values, rest'⟩, hvalue, heq⟩ := Option.map_eq_some_iff.mp h
      obtain ⟨rfl, rfl⟩ := Prod.mk.inj heq
      obtain ⟨body, items, read', hbody, hitems, hvalues, rfl⟩ := readItems_sound hitem _ _ hvalue
      obtain ⟨w, hw, htext⟩ := exists_skipBlanks r
      rw [hskip, hbody] at htext
      subst htext
      refine ⟨_, .array items, ?_, .array (hitems.blanks_append hw), ?_⟩
      · simp
      · simp [Tree.value?, hvalues]

/-- Behind an opening brace the next visible code point decides. -/
theorem readObject_of_next {r r' : Text} {c : CodePoint} (hr : skipBlanks r = c :: r')
    (item : (t : Text) → Reading Value t) (brace : CodePoint) :
    ∃ shorter before, readObject item brace r =
      if c = ofChar '}' then .ok (.object [], ⟨r', shorter⟩)
      else (readMembers item (brace :: r) (c :: r') before []).map
        fun (members, rest) => (.object (membersOf members), rest) := by
  have hlength := length_skipBlanks_le r
  rw [hr, List.length_cons] at hlength
  refine ⟨by rw [List.length_cons]; omega, by rw [List.length_cons, List.length_cons]; omega, ?_⟩
  rw [readObject.eq_def]
  simp only
  split
  · rename_i hnil
    exact absurd (hnil.symm.trans hr) (by simp)
  · rename_i c' r'' hcons
    obtain ⟨rfl, rfl⟩ := List.cons.inj (hcons.symm.trans hr)
    rfl

theorem readObject_unfinished {r : Text} (hr : skipBlanks r = [])
    (item : (t : Text) → Reading Value t) (brace : CodePoint) :
    readObject item brace r = .error (.located .nameExpected []) := by
  rw [readObject.eq_def]
  simp only
  split
  · rfl
  · rename_i hcons
    exact absurd (hr.symm.trans hcons) (by simp)

theorem readObject_empty (item : (t : Text) → Reading Value t) (brace : CodePoint) {w : Text}
    (hw : Blanks w) (rest : Text) :
    outcome? (readObject item brace (w ++ ofChar '}' :: rest)) = some (.object [], rest) := by
  have hskip := skipBlanks_append hw (noBlank_cons (c := ofChar '}') (by decide) rest)
  obtain ⟨shorter, _, hread⟩ := readObject_of_next hskip item brace
  rw [hread, if_pos rfl]
  rfl

/-- The first name begins after the white space. -/
theorem MembersText.skipBlanks_eq_cons {t : Text} {members : List (List StringPart × Tree)}
    (h : MembersText t members) (rest : Text) :
    ∃ r, skipBlanks (t ++ rest) = ofChar '"' :: r := by
  have hmember : ∀ {t : Text} {m : List StringPart × Tree}, MemberText t m → ∀ rest,
      ∃ r, skipBlanks (t ++ rest) = ofChar '"' :: r := by
    intro t m hm rest
    cases hm with
    | mk hw =>
      simp only [List.append_assoc, List.cons_append]
      exact ⟨_, skipBlanks_append hw (noBlank_cons (by decide) _)⟩
  cases h with
  | last hm => exact hmember hm rest
  | more hm =>
    rw [List.append_assoc]
    exact hmember hm _

theorem readObject_append {item : (t : Text) → Reading Value t} {levels : ℕ}
    {members : List (List StringPart × Tree)} (hitem : ∀ m ∈ members, Completes item levels m.2)
    (brace : CodePoint) {t : Text} (h : MembersText t members) (rest : Text) :
    outcome? (readObject item brace (t ++ ofChar '}' :: rest)) =
      (membersValue? levels members).map fun written => (.object (membersOf written), rest) := by
  obtain ⟨r, hskip⟩ := h.skipBlanks_eq_cons (ofChar '}' :: rest)
  obtain ⟨_, before, hread⟩ := readObject_of_next hskip item brace
  have hne : ofChar '"' ≠ ofChar '}' := by decide
  rw [hread, if_neg hne, outcome?_map (fun members => Value.object (membersOf members)),
    readMembers_append hitem h hskip, Option.map_map]
  rfl

theorem readObject_sound {item : (t : Text) → Reading Value t} {levels : ℕ}
    (hitem : Sound item levels) {r rest : Text} {v : Value}
    (h : outcome? (readObject item (ofChar '{') r) = some (v, rest)) :
    ∃ front tree, ofChar '{' :: r = front ++ rest ∧ ValueText front tree ∧
      tree.value? (levels + 1) = some v := by
  cases hskip : skipBlanks r with
  | nil =>
    rw [readObject_unfinished hskip] at h
    exact absurd h (by simp)
  | cons c r' =>
    obtain ⟨shorter, before, hread⟩ := readObject_of_next hskip item (ofChar '{')
    rw [hread] at h
    by_cases hc : c = ofChar '}'
    · rw [if_pos hc] at h
      obtain ⟨rfl, rfl⟩ := Prod.mk.inj (Option.some.inj h)
      obtain ⟨w, hw, rfl⟩ := skipBlanks_eq_cons hskip
      exact ⟨_, _, by simp [hc], .emptyObject hw, rfl⟩
    · rw [if_neg hc, outcome?_map (fun members => Value.object (membersOf members))] at h
      obtain ⟨⟨written, rest'⟩, hvalue, heq⟩ := Option.map_eq_some_iff.mp h
      obtain ⟨rfl, rfl⟩ := Prod.mk.inj heq
      obtain ⟨body, members, read', hbody, hmembers, hwritten, rfl⟩ :=
        readMembers_sound hitem _ _ hvalue
      obtain ⟨w, hw, htext⟩ := exists_skipBlanks r
      rw [hskip, hbody] at htext
      subst htext
      refine ⟨_, .object members, ?_, .object (hmembers.blanks_append hw), ?_⟩
      · simp
      · simp [Tree.value?, hwritten]

/-! ## Values -/

theorem readValue_string (levels : ℕ) (r : Text) :
    outcome? (readValue levels (ofChar '"' :: r)) =
      (outcome? (readString (ofChar '"' :: r) r (by simp) [])).map
        fun s => (.string s.1, s.2) := by
  rw [readValue.eq_def]
  exact outcome?_map Value.string _

theorem readValue_array (levels : ℕ) (r : Text) :
    readValue (levels + 1) (ofChar '[' :: r) = readArray (readValue levels) (ofChar '[') r := by
  rw [readValue.eq_def]
  rfl

theorem readValue_object (levels : ℕ) (r : Text) :
    readValue (levels + 1) (ofChar '{' :: r) = readObject (readValue levels) (ofChar '{') r := by
  rw [readValue.eq_def]
  rfl

theorem readValue_scalar (levels : ℕ) {c : CodePoint} (r : Text) (hquote : c ≠ ofChar '"')
    (hbracket : c ≠ ofChar '[') (hbrace : c ≠ ofChar '{') :
    readValue levels (c :: r) = readScalar (c :: r) := by
  have hopening : ¬ (c = ofChar '[' ∨ c = ofChar '{') := not_or.mpr ⟨hbracket, hbrace⟩
  rw [readValue.eq_def]
  simp only [if_neg hquote, if_neg hopening]

theorem readValue_word {word : Text} {tree : Tree} (h : (word, tree) ∈ words) (levels : ℕ)
    (rest : Text) :
    outcome? (readValue levels (word ++ rest)) = (tree.value? levels).map fun v => (v, rest) := by
  obtain ⟨c, r, rfl, hquote, hbracket, hbrace⟩ : ∃ c r, word = c :: r ∧ c ≠ ofChar '"' ∧
      c ≠ ofChar '[' ∧ c ≠ ofChar '{' := by
    simp only [words, List.mem_cons, Prod.mk.injEq, List.not_mem_nil, or_false] at h
    rcases h with ⟨rfl, -⟩ | ⟨rfl, -⟩ | ⟨rfl, -⟩ <;>
    exact ⟨_, _, rfl, by decide, by decide, by decide⟩
  rw [← readScalar_word h levels rest, List.cons_append,
    readValue_scalar levels _ hquote hbracket hbrace]

/-- Containers beyond the limit are not read. -/
theorem readValue_zero {c : CodePoint} (r : Text) (hc : c = ofChar '[' ∨ c = ofChar '{') :
    outcome? (readValue 0 (c :: r)) = none := by
  have hquote : c ≠ ofChar '"' := by rcases hc with rfl | rfl <;> decide
  rw [readValue.eq_def]
  simp only [if_neg hquote, if_pos hc]
  rfl

theorem enclosed_append (opening closing : CodePoint) (t rest : Text) :
    opening :: (t ++ [closing]) ++ rest = opening :: (t ++ closing :: rest) := by
  simp

/-- **A value of the grammar is read to its end.** -/
theorem readValue_append (tree : Tree) (levels : ℕ) : Completes (readValue levels) levels tree := by
  -- By induction on the tree; at level zero a container has no value and is not read either.
  induction tree using Tree.induction generalizing levels with
  | null =>
    intro t rest h hrest
    cases h
    exact readValue_word (List.mem_cons_self) levels rest
  | bool b =>
    intro t rest h hrest
    cases h
    · exact readValue_word (List.mem_cons_of_mem _ List.mem_cons_self) levels rest
    · exact readValue_word (List.mem_cons_of_mem _ (List.mem_cons_of_mem _ List.mem_cons_self))
        levels rest
  | number n =>
    intro t rest h hrest
    cases h with
    | number hn =>
      rw [← readScalar_number hn hrest levels]
      have hne := fun {x} => hn.head_ne (x := x) rest
      obtain ⟨c, r, rfl, -⟩ := hn.exists_cons
      rw [List.cons_append, readValue_scalar levels _ (hne (by decide) (by decide) c rfl)
        (hne (by decide) (by decide) c rfl) (hne (by decide) (by decide) c rfl)]
  | string parts =>
    intro t rest h hrest
    cases h with
    | @string t _ hparts =>
      have hstring : ∀ before, outcome? (readString (ofChar '"' :: (t ++ ofChar '"' :: rest))
          (t ++ ofChar '"' :: rest) before []) = some (joinUnits parts, rest) := fun before =>
        (readString_eq_some_iff before _ _).mpr ⟨t, parts, rfl, hparts, rfl⟩
      rw [enclosed_append, readValue_string, hstring]
      rfl
  | array items ih =>
    intro t rest h hrest
    cases levels with
    | zero => cases h <;> exact readValue_zero _ (Or.inl rfl)
    | succ levels =>
      cases h with
      | emptyArray hw =>
        rw [enclosed_append, readValue_array, readArray_empty _ _ hw]
        rfl
      | array hitems =>
        rw [enclosed_append, readValue_array,
          readArray_append (fun tree h => ih tree h levels) _ hitems, Tree.value?, Option.map_map]
        rfl
  | object members ih =>
    intro t rest h hrest
    cases levels with
    | zero => cases h <;> exact readValue_zero _ (Or.inr rfl)
    | succ levels =>
      cases h with
      | emptyObject hw =>
        rw [enclosed_append, readValue_object, readObject_empty _ _ hw]
        rfl
      | object hmembers =>
        rw [enclosed_append, readValue_object,
          readObject_append (fun m h => ih m h levels) _ hmembers, Tree.value?, Option.map_map]
        rfl

/-- A reader is sound if it is on containers. -/
theorem readValue_sound_of_containers {levels : ℕ}
    (hcontainer : ∀ c r, c = ofChar '[' ∨ c = ofChar '{' → ∀ v rest,
      outcome? (readValue levels (c :: r)) = some (v, rest) →
        ∃ front tree, c :: r = front ++ rest ∧ ValueText front tree ∧
          tree.value? levels = some v) :
    Sound (readValue levels) levels := by
  intro t v rest h
  cases t with
  | nil => exact absurd h (by simp [readValue])
  | cons c r =>
    by_cases hquote : c = ofChar '"'
    · subst hquote
      rw [readValue_string] at h
      obtain ⟨⟨s, rest'⟩, hread, heq⟩ := Option.map_eq_some_iff.mp h
      obtain ⟨rfl, rfl⟩ := Prod.mk.inj heq
      obtain ⟨body, parts, rfl, hbody, rfl⟩ := (readString_eq_some_iff _ _ _).mp hread
      exact ⟨_, _, (enclosed_append _ _ _ _).symm, .string hbody, rfl⟩
    · by_cases hopening : c = ofChar '[' ∨ c = ofChar '{'
      · exact hcontainer c r hopening v rest h
      · obtain ⟨hbracket, hbrace⟩ := not_or.mp hopening
        rw [readValue_scalar levels r hquote hbracket hbrace] at h
        exact readScalar_sound h levels

/-- **What is read is a value of the grammar.** -/
theorem readValue_sound (levels : ℕ) : Sound (readValue levels) levels := by
  induction levels with
  | zero =>
    refine readValue_sound_of_containers fun c r hc v rest h => ?_
    rw [readValue_zero r hc] at h
    exact absurd h (by simp)
  | succ levels ih =>
    refine readValue_sound_of_containers fun c r hc v rest h => ?_
    rcases hc with rfl | rfl
    · rw [readValue_array] at h
      exact readArray_sound ih h
    · rw [readValue_object] at h
      exact readObject_sound ih h

/-! ## Documents -/

/-- **A document of the grammar has the value of its tree.** -/
theorem parseWithin_of_documentText {text : Text} {tree : Tree} (h : DocumentText text tree)
    (levels : ℕ) : (parseWithin levels text).toOption = tree.value? levels := by
  cases h with
  | @mk w t w' _ hw hv hw' =>
    -- A byte order mark is neither white space nor the beginning of a value.
    have hmark : (w ++ t ++ w').head? ≠ some byteOrderMark := by
      obtain ⟨c, r, rfl, hc⟩ := hv.exists_cons
      cases w with
      | nil =>
        rintro h
        obtain rfl : c = byteOrderMark := by simpa using h
        exact absurd hc (by unfold StartsValue; decide)
      | cons b w =>
        rintro h
        obtain rfl : b = byteOrderMark := by simpa using h
        exact absurd (hw _ List.mem_cons_self) (by decide)
    have hread := readValue_append tree levels t w' hv
      (by simpa using hw'.endsNumber endsNumber_nil)
    have hend : skipBlanks w' = [] := by
      simpa using skipBlanks_append hw' (t := []) (by simp [NoBlank])
    rw [← skipBlanks_append hw (hv.noBlank w'), ← List.append_assoc] at hread
    rw [parseWithin, if_neg hmark]
    cases hvalue : tree.value? levels with
    | none =>
      rw [hvalue] at hread
      obtain ⟨fault, hread⟩ := outcome?_eq_none_iff.mp hread
      rw [hread]
      rfl
    | some v =>
      rw [hvalue] at hread
      obtain ⟨shorter, hread⟩ := outcome?_eq_some_iff.mp hread
      rw [hread]
      simp only [hend]
      rfl

/-- What is accepted is a document of the grammar. -/
theorem parseWithin_sound {levels : ℕ} {text : Text} {v : Value}
    (h : parseWithin levels text = .ok v) :
    ∃ tree, DocumentText text tree ∧ tree.value? levels = some v := by
  unfold parseWithin at h
  split at h
  · exact absurd h (by simp)
  · split at h
    · exact absurd h (by simp)
    · rename_i v' r shorter hread
      obtain ⟨front, tree, htext, htree, hvalue⟩ :=
        readValue_sound levels _ _ _ (outcome?_eq_some_iff.mpr ⟨shorter, hread⟩)
      obtain ⟨w, hw, hstart⟩ := exists_skipBlanks text
      obtain ⟨w', hw', hend⟩ := exists_skipBlanks r
      split at h
      · rename_i hnil
        obtain rfl := Except.ok.inj h
        rw [hnil, List.append_nil] at hend
        rw [htext, ← List.append_assoc] at hstart
        rw [hstart]
        exact ⟨tree, .mk hw htree (hend ▸ hw'), hvalue⟩
      · exact absurd h (by simp)

/-- The value of a document is that of its tree, if that is within the limits. -/
theorem parseWithin_eq_ok_iff {text : Text} {tree : Tree} (h : DocumentText text tree)
    (levels : ℕ) (v : Value) :
    parseWithin levels text = .ok v ↔
      tree.levels ≤ levels ∧ tree.WithinLimits ∧ tree.Denotes v := by
  have heq : parseWithin levels text = .ok v ↔ (parseWithin levels text).toOption = some v := by
    cases parseWithin levels text <;> simp [Except.toOption]
  rw [heq, parseWithin_of_documentText h, Tree.value?_eq_some_iff]

/-- **The reader is strict.**  A text is accepted just if the grammar derives it, with every number
in range and no more containers inside each other than are read; its value is the one that the
grammar denotes.  In particular no constant is accepted, wherever it stands outside of strings. -/
theorem parseWithin_accepts_grammar (levels : ℕ) (text : Text) :
    ((∃ v, parseWithin levels text = .ok v) ↔
      ∃ tree, DocumentText text tree ∧ tree.levels ≤ levels ∧ tree.WithinLimits) ∧
    (∀ tree, DocumentText text tree → ∀ v, parseWithin levels text = .ok v ↔
      tree.levels ≤ levels ∧ tree.WithinLimits ∧ tree.Denotes v) ∧
    (∀ front constant rest, text = front ++ constant ++ rest →
      Place.outside.run front = .outside → constant ∈ constants →
      ∀ v, parseWithin levels text ≠ .ok v) := by
  refine ⟨⟨?_, ?_⟩, fun tree h v => parseWithin_eq_ok_iff h levels v, ?_⟩
  · rintro ⟨v, h⟩
    obtain ⟨tree, htree, hvalue⟩ := parseWithin_sound h
    obtain ⟨hlevels, hlimits, -⟩ := (tree.value?_eq_some_iff levels v).mp hvalue
    exact ⟨tree, htree, hlevels, hlimits⟩
  · rintro ⟨tree, htree, hlevels, hlimits⟩
    obtain ⟨v, hvalue⟩ := Tree.exists_value? hlevels hlimits
    exact ⟨v, (parseWithin_eq_ok_iff htree levels v).mpr
      ((tree.value?_eq_some_iff levels v).mp hvalue)⟩
  · rintro front constant rest rfl hfront hconstant v h
    obtain ⟨tree, htree, -⟩ := parseWithin_sound h
    exact htree.not_constant hfront hconstant

end StructuredText.Json
