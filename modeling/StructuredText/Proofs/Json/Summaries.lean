/-
# What the line of a node tells

A line of a tree is the indent, a marker, the label and a summary of the value.  Labels stand there
as they are and may hold anything, colons and quotation marks too.  Still a line tells where its
label ends: a summary has a colon only inside of a string, and there a quotation mark that could
begin another summary has a backslash in front of it and not a blank.

* `marksEscaped_quote`: the quotation marks inside of a written string;
* `eq_of_labeled_eq`: a label and a summary are told apart;
* `Node.eq_of_toldLine_eq` says what is told by a line, `Node.eq_of_told_eq` and
  `Node.kind_eq_of_told_eq` what is told by a summary.
-/
import Mathlib
import StructuredText.Proofs.Json.LongIntegers
import StructuredText.Proofs.Json.RoundTrip
import StructuredText.Proofs.Json.TreeRequests

namespace StructuredText.Json

open CodePoint (ofChar)

/-! ## Quotation marks -/

/-- From the second character on, a quotation mark stands only behind a backslash. -/
def MarksEscaped (t : Text) : Prop := t.IsChain fun c d => d = ofChar '"' → c = ofChar '\\'

theorem marksEscaped_cons_cons {c d : CodePoint} {t : Text} :
    MarksEscaped (c :: d :: t) ↔ (d = ofChar '"' → c = ofChar '\\') ∧ MarksEscaped (d :: t) :=
  List.isChain_cons_cons

/-- Text without quotation marks may be put in between. -/
theorem marksEscaped_cons_append {t rest : Text} (ht : ofChar '"' ∉ t)
    (hrest : ∀ c, MarksEscaped (c :: rest)) (c : CodePoint) : MarksEscaped (c :: (t ++ rest)) := by
  induction t generalizing c with
  | nil => exact hrest c
  | cons d t ih =>
    obtain ⟨hd, ht⟩ := List.ne_and_not_mem_of_not_mem_cons ht
    exact marksEscaped_cons_cons.mpr ⟨fun h => absurd h.symm hd, ih ht d⟩

theorem mark_not_mem_unicodeEscape (n : ℕ) : ofChar '"' ∉ unicodeEscape n := by
  have hdigit (k : ℕ) : ofChar '"' ≠ CodePoint.ofHexDigit (k % 16) := by
    intro h
    have hhex := hexValue?_ofHexDigit (Nat.mod_lt k (show 0 < 16 by norm_num))
    rw [← h] at hhex
    exact absurd hhex (by simp [show (ofChar '"').hexValue? = none by decide])
  have hbackslash : ofChar '"' ≠ ofChar '\\' := by decide
  have hletter : ofChar '"' ≠ ofChar 'u' := by decide
  simp [unicodeEscape, Text.ofHex4, hdigit, hbackslash, hletter]

/-- A quotation mark is written behind a backslash, and anything else without one. -/
theorem escapeInString_eq_or (c : CodePoint) :
    escapeInString c = [ofChar '\\', ofChar '"'] ∨ ofChar '"' ∉ escapeInString c := by
  unfold escapeInString
  split_ifs with hmark
  · exact Or.inl rfl
  all_goals right
  · decide
  · decide
  · decide
  · decide
  · decide
  · decide
  · exact mark_not_mem_unicodeEscape _
  · exact fun h => hmark (List.mem_singleton.mp h).symm

/-- Inside of a written string quotation marks have a backslash in front of them. -/
theorem marksEscaped_quote (s : Text) (c : CodePoint) :
    MarksEscaped (c :: s.flatMap escapeInString) := by
  induction s generalizing c with
  | nil => exact List.isChain_singleton c
  | cons d s ih =>
    rw [List.flatMap_cons]
    rcases escapeInString_eq_or d with hmark | hplain
    · rw [hmark]
      apply marksEscaped_cons_cons.mpr
      constructor
      · intro h
        exact absurd h (by decide)
      · exact marksEscaped_cons_cons.mpr ⟨fun _ => rfl, ih _⟩
    · exact marksEscaped_cons_append hplain ih c

/-! ## Summaries -/

/-- No quotation marks and no colons. -/
def Unmarked (t : Text) : Prop := ∀ c ∈ t, c ≠ ofChar '"' ∧ c ≠ ofChar ':'

instance (t : Text) : Decidable (Unmarked t) := inferInstanceAs (Decidable (∀ c ∈ t, _))

theorem NumberText.unmarked {t : Text} {n : Numeral} (h : NumberText t n) : Unmarked t := by
  refine h.forall_mem (fun c hc => ?_) (by decide)
  exact ⟨ne_of_isDigit hc (by decide), ne_of_isDigit hc (by decide)⟩

theorem unmarked_ofInt (n : ℤ) : Unmarked (Text.ofInt n) := (numberText_ofInt n).unmarked

theorem unmarked_toText (x : Double) : Unmarked x.toText :=
  toText_induction (fun h => h.unmarked) (by decide) x

/-- What is counted in a summary. -/
theorem unmarked_concat_ofNat {opening closing : Text} (hopening : Unmarked opening)
    (hclosing : Unmarked closing) (n : ℕ) :
    Unmarked (Text.concat [opening, Text.ofNat n, closing]) := by
  simp only [Unmarked, Text.concat, List.flatten_cons, List.flatten_nil, List.append_nil,
    List.forall_mem_append]
  exact ⟨hopening, unmarked_ofInt n, hclosing⟩

/-- What a summary looks like. -/
inductive SummaryText : Text → Prop
  /-- A string is shown between quotation marks. -/
  | quoted (s : Text) : SummaryText (quote s)
  | unmarked {t : Text} (h : Unmarked t) : SummaryText t

theorem Node.summaryText_told (n : Node) : SummaryText n.told := by
  obtain ⟨v, label, depth, memory⟩ := n
  cases v with
  | null => exact .unmarked (by simp only [told]; decide)
  | bool b => exact .unmarked (by cases b <;> simp only [told] <;> decide)
  | int n => exact .unmarked (unmarked_ofInt n)
  | float x => exact .unmarked (unmarked_toText x)
  | string s => exact .quoted s
  | array items =>
    cases items with
    | nil => exact .unmarked (by simp only [told]; decide)
    | cons item items => exact .unmarked (unmarked_concat_ofNat (by decide) (by decide) _)
  | object members =>
    cases members with
    | nil => exact .unmarked (by simp only [told]; decide)
    | cons m members => exact .unmarked (unmarked_concat_ofNat (by decide) (by decide) _)

/-- No summary ends in a colon, a blank and another summary. -/
theorem SummaryText.ne_append {t t' : Text} (ht : SummaryText t) (ht' : SummaryText t') (x : Text) :
    t ≠ x ++ ofChar ':' :: ofChar ' ' :: t' := by
  intro h
  cases ht with
  | unmarked hplain =>
    have hcolon : ofChar ':' ∈ t := by rw [h]; simp
    exact (hplain _ hcolon).2 rfl
  | quoted s =>
    cases ht' with
    | unmarked hplain =>
      -- The closing quotation mark would stand in the other summary.
      have hlast : (ofChar ' ' :: t').getLast? = some (ofChar '"') := by
        rw [← List.getLast?_append_cons (x ++ [ofChar ':']), ← List.append_cons, ← h, quote,
          ← List.cons_append, List.getLast?_concat]
      rcases List.mem_cons.mp (List.mem_of_getLast? hlast) with hblank | hmark
      · exact absurd hblank (by decide)
      · exact (hplain _ hmark).1 rfl
    | quoted s' =>
      -- The opening quotation mark of the other string would stand behind a blank.
      have hbody : ofChar '"' :: s.flatMap escapeInString =
          x ++ ofChar ':' :: ofChar ' ' :: ofChar '"' :: s'.flatMap escapeInString := by
        apply (List.append_left_inj [ofChar '"']).mp
        simpa [quote] using h
      have hmarks := marksEscaped_quote s (ofChar '"')
      rw [hbody] at hmarks
      have hbehind := marksEscaped_cons_cons.mp (marksEscaped_cons_cons.mp
        (List.IsChain.right_of_append hmarks)).2
      exact absurd (hbehind.1 rfl) (by decide)

/-- A label and the summary behind it are told apart. -/
theorem eq_of_labeled_eq {label label' t t' : Text} (ht : SummaryText t) (ht' : SummaryText t')
    (h : label ++ (": " : Text) ++ t = label' ++ (": " : Text) ++ t') :
    label = label' ∧ t = t' := by
  -- If one label went on longer, its separator would stand in the other's summary.
  have hshort {x t t' : Text} (ht : SummaryText t) (ht' : SummaryText t')
      (hx : (": " : Text) ++ t = x ++ ((": " : Text) ++ t')) : x = [] := by
    cases x with
    | nil => rfl
    | cons c x =>
      have htail : ofChar ' ' :: t = x ++ ofChar ':' :: ofChar ' ' :: t' := (List.cons.inj hx).2
      cases x with
      | nil => exact absurd (List.cons.inj htail).1 (by decide)
      | cons d x => exact absurd (List.cons.inj htail).2 (ht.ne_append ht' x)
  rw [List.append_assoc, List.append_assoc] at h
  rcases List.append_eq_append_iff.mp h with ⟨x, hlabel, hx⟩ | ⟨x, hlabel, hx⟩
  · rw [hshort ht ht' hx, List.append_nil] at hlabel
    rw [hlabel] at h
    exact ⟨hlabel.symm, List.append_cancel_left (List.append_cancel_left h)⟩
  · rw [hshort ht' ht hx, List.append_nil] at hlabel
    rw [hlabel] at h
    exact ⟨hlabel, List.append_cancel_left (List.append_cancel_left h)⟩

/-! ## Lines -/

namespace Node

variable {n m : Node}

theorem length_marker (n : Node) : n.marker.length = 2 := by
  unfold marker
  split_ifs <;> rfl

/-- Flags matter only to the markers of what can be opened. -/
theorem marker_eq (hvalue : n.isExpandable = m.isExpandable)
    (hflag : n.isExpandable → n.expanded = m.expanded) : n.marker = m.marker := by
  unfold marker
  rw [← hvalue]
  split
  · rw [hflag ‹_›]
  · rfl

/-- The marker tells what can be opened. -/
theorem isExpandable_eq_of_marker_eq (h : n.marker = m.marker) :
    n.isExpandable = m.isExpandable := by
  have hmarker (n : Node) : n.marker = "  " ↔ n.isExpandable = false := by
    unfold marker
    split_ifs with hopen hflag
    · exact iff_of_false (by decide) (by simp [hopen])
    · exact iff_of_false (by decide) (by simp [hopen])
    · exact iff_of_true rfl (by simpa using hopen)
  have hclosed : n.isExpandable = false ↔ m.isExpandable = false := by
    rw [← hmarker, ← hmarker, h]
  exact Bool.eq_iff_iff.mpr (by simpa using not_congr hclosed)

/-- Of two nodes as far inside, both with a label or both without, the lines tell whether they can
be opened, which labels they have and what is shown of their values. -/
theorem eq_of_toldLine_eq {indent : Text} (hdepth : n.depth = m.depth)
    (hlabel : n.label.isSome = m.label.isSome) (h : n.toldLine indent = m.toldLine indent) :
    n.isExpandable = m.isExpandable ∧ n.label = m.label ∧ n.told = m.told := by
  rw [toldLine, toldLine, lineOf, lineOf, hdepth, List.append_assoc, List.append_assoc] at h
  obtain ⟨hmarker, htext⟩ := List.append_inj (List.append_cancel_left h)
    (n.length_marker.trans m.length_marker.symm)
  refine ⟨isExpandable_eq_of_marker_eq hmarker, ?_⟩
  cases hn : n.label with
  | none =>
    cases hm : m.label with
    | none =>
      rw [hn, hm] at htext
      exact ⟨rfl, htext⟩
    | some label' => exact absurd hlabel (by simp [hn, hm])
  | some label =>
    cases hm : m.label with
    | none => exact absurd hlabel (by simp [hn, hm])
    | some label' =>
      rw [hn, hm] at htext
      obtain ⟨hname, hsummary⟩ := eq_of_labeled_eq n.summaryText_told m.summaryText_told htext
      exact ⟨congrArg some hname, hsummary⟩

/-! ## Values -/

/-- What cannot be opened is shown as a whole. -/
theorem told_eq_renderWith (hn : n.isExpandable = false) :
    n.told = renderWith { style := .minified } n.value := by
  obtain ⟨v, label, depth, memory⟩ := n
  have hrender : renderWith { style := .minified } v = v.render .minified := rfl
  rw [hrender, Value.render]
  cases v with
  | null | bool | int | float | string =>
    simp only [told, Value.pieces, List.flatMap_singleton, Layout.write]
  | array items =>
    cases items with
    | nil => rfl
    | cons item items =>
      simp [isExpandable, Value.isExpandable, Value.isContainer, Value.kind, Value.childCount] at hn
  | object members =>
    cases members with
    | nil => rfl
    | cons m members =>
      simp [isExpandable, Value.isExpandable, Value.isContainer, Value.kind, Value.childCount] at hn

/-- The summaries of values that cannot be opened tell them apart. -/
theorem eq_of_told_eq (hn : n.isExpandable = false) (hm : m.isExpandable = false)
    (hvalue : n.value.WellFormed) (hvalue' : m.value.WellFormed) (h : n.told = m.told) :
    n.value = m.value := by
  rw [told_eq_renderWith hn, told_eq_renderWith hm] at h
  exact eq_of_renderWith_eq hvalue hvalue' (by simp) (by simp) h

/-- What can be opened is shown by its kind and by how much is in it. -/
theorem told_of_isExpandable (hn : n.isExpandable) :
    (n.value.kind = .array ∧
      n.told = Text.concat ["Array [", Text.ofNat n.value.childCount, "]"]) ∨
    (n.value.kind = .object ∧
      n.told = Text.concat ["Object \x7b", Text.ofNat n.value.childCount, "\x7d"]) := by
  obtain ⟨v, label, depth, memory⟩ := n
  cases v with
  | null | bool | int | float | string => exact absurd hn Bool.false_ne_true
  | array items =>
    cases items with
    | nil => exact absurd hn Bool.false_ne_true
    | cons item items => exact Or.inl ⟨rfl, rfl⟩
  | object members =>
    cases members with
    | nil => exact absurd hn Bool.false_ne_true
    | cons m members => exact Or.inr ⟨rfl, rfl⟩

/-- The summaries of values that can be opened tell of which kind they are and how much is in
them. -/
theorem kind_eq_of_told_eq (hn : n.isExpandable) (hm : m.isExpandable)
    (h : n.told = m.told) :
    n.value.kind = m.value.kind ∧ n.value.childCount = m.value.childCount := by
  have hletter : ofChar 'A' ≠ ofChar 'O' := by decide
  rcases told_of_isExpandable hn with ⟨hkind, htext⟩ | ⟨hkind, htext⟩
  · rcases told_of_isExpandable hm with ⟨hkind', htext'⟩ | ⟨hkind', htext'⟩
    · rw [htext, htext'] at h
      exact ⟨hkind.trans hkind'.symm, Text.concat_ofNat_inj.mp h⟩
    · rw [htext, htext'] at h
      exact absurd (List.cons.inj h).1 hletter
  · rcases told_of_isExpandable hm with ⟨hkind', htext'⟩ | ⟨hkind', htext'⟩
    · rw [htext, htext'] at h
      exact absurd (List.cons.inj h).1 hletter.symm
    · rw [htext, htext'] at h
      exact ⟨hkind.trans hkind'.symm, Text.concat_ofNat_inj.mp h⟩

end Node

end StructuredText.Json
