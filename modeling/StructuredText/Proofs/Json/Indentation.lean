/-
# The lines of a written value

Every layout writes the same tokens, and what stands between them is told by the brackets alone.  A
line is indented by the brackets that are open around it.

* `Indented` says how a text stands on its lines;
* `displayed_pieces`: how a value is written, next to how it is written minified;
* `serialize_indented` is the law of layout.
-/
import Mathlib
import StructuredText.Proofs.Json.Characters
import StructuredText.Proofs.Json.Parts
import StructuredText.Proofs.Json.Passages
import StructuredText.Proofs.Json.RoundTrip

namespace StructuredText.Json

open CodePoint (ofChar)

/-! ## Lines -/

/-- A line of a text, with what stands before it and behind it. -/
structure LineAt (t before line after : Text) : Prop where
  parts : t = before ++ line ++ after
  starts : before = [] ∨ before.getLast? = some (ofChar '\n')
  noFeed : ofChar '\n' ∉ line
  ends : after = [] ∨ after.head? = some (ofChar '\n')

/-- **How an indented text stands on its lines.**  No line feed is inside a string, no line ends in a
blank, the text ends in no line feed, and each line begins with a number of columns for each bracket
that is open around it, and then something visible. -/
structure Indented (columns : ℕ) (t : Text) : Prop where
  outside : ∀ before after, t = before ++ ofChar '\n' :: after → Place.outside.run before = .outside
  ends : ∀ before line after, LineAt t before line after →
    ∀ c, line.getLast? = some c → ¬ c.isBlank
  noFeed : t.getLast? ≠ some (ofChar '\n')
  begins : ∀ before line after, LineAt t before line after →
    ∃ c rest, line = Text.spaces (columns * openAround 0 before c) ++ c :: rest ∧ ¬ c.isBlank

/-! ## Values -/

/-- How a value that stands at some depth is written, next to how it is written minified: it leaves
as many brackets open as there were, and it begins with no closing one. -/
structure Displayed (columns depth : ℕ) (t minified : Text) : Prop
    extends Passage columns depth depth t minified where
  starts : ∀ c, t.head? = some c → closesContainer c = false

section Displayed

variable {columns depth : ℕ} {s t m m' : Text}

theorem displayed_plain (hne : t ≠ []) (h : ∀ c ∈ t, Plain c) : Displayed columns depth t t :=
  ⟨passage_plain hne h, fun c hc => (h c (List.mem_of_head? hc)).2.2.2⟩

theorem displayed_number {n : Numeral} (h : NumberText t n) : Displayed columns depth t t := by
  obtain ⟨c, r, ht, -⟩ := h.exists_cons
  refine displayed_plain (by simp [ht]) (h.forall_mem ?_ (by decide))
  intro c hc
  have hcode : 0x30 ≤ c.val ∧ c.val ≤ 0x39 := by
    simpa [CodePoint.isDigit, CodePoint.between] using hc
  refine ⟨?_, ne_of_isDigit hc (by decide), ?_, ?_⟩
  · simp [CodePoint.isBlank, CodePoint.between]
    omega
  · simpa [opensContainer] using ⟨ne_of_isDigit hc (by decide), ne_of_isDigit hc (by decide)⟩
  · simpa [closesContainer] using ⟨ne_of_isDigit hc (by decide), ne_of_isDigit hc (by decide)⟩

theorem displayed_double (x : Double) : Displayed columns depth x.toText x.toText := by
  refine toText_induction (motive := fun t => Displayed columns depth t t) displayed_number ?_ x
  intro t ht
  simp only [List.mem_cons, List.not_mem_nil, or_false] at ht
  rcases ht with rfl | rfl | rfl
  · exact displayed_plain (by decide) (by decide)
  · exact displayed_plain (by decide) (by decide)
  · exact displayed_plain (by decide) (by decide)

theorem displayed_quote (s : Text) : Displayed columns depth (quote s) (quote s) := by
  refine ⟨passage_quote s, ?_⟩
  intro c hc
  obtain rfl := Option.some.inj hc
  decide

/-- A name, a colon and a value. -/
theorem displayed_member (key : Text) (ht : Displayed columns depth t m) :
    Displayed columns depth (quote key ++ ofChar ':' :: ofChar ' ' :: t)
      (quote key ++ ofChar ':' :: m) := by
  have hcolon : Passage columns depth depth [ofChar ':'] [ofChar ':'] :=
    passage_plain (by simp) (by decide)
  refine ⟨?_, ?_⟩
  · simpa using ((displayed_quote key).toPassage.append hcolon).gap ht.toPassage
  · intro c hc
    obtain rfl := Option.some.inj hc
    decide

/-- A value on the line behind a passage. -/
theorem Displayed.below {n : ℕ} (hs : Passage columns n depth s m)
    (ht : Displayed columns depth t m') :
    Passage columns n depth (s ++ newLine (columns * depth) ++ t) (m ++ m') := by
  obtain ⟨c, r, rfl, -⟩ := ht.opens
  exact hs.feed ht.toPassage (by rw [openAround_eq (ht.starts c rfl), hs.level])

/-- Two items, with a comma between them. -/
theorem Displayed.comma (hs : Displayed columns depth s m) (ht : Displayed columns depth t m') :
    Displayed columns depth (s ++ ofChar ',' :: (newLine (columns * depth) ++ t))
      (m ++ ofChar ',' :: m') := by
  have hcomma : Passage columns depth depth [ofChar ','] [ofChar ','] :=
    passage_plain (by simp) (by decide)
  refine ⟨?_, ?_⟩
  · simpa using ht.below (hs.toPassage.append hcomma)
  · obtain ⟨c, r, rfl, -⟩ := hs.opens
    exact fun d hd => hs.starts d hd

/-- A text that begins with an opening bracket and leaves as many open as there were. -/
theorem displayed_of_passage {opening : CodePoint} (hopening : opensContainer opening)
    (h : Passage columns depth depth (opening :: s) m) :
    Displayed columns depth (opening :: s) m := by
  refine ⟨h, ?_⟩
  intro c hc
  obtain rfl := Option.some.inj hc
  rcases opensContainer_iff.mp hopening with rfl | rfl <;> decide

section Brackets

variable {opening closing : CodePoint} (hopening : opensContainer opening)
  (hclosing : closesContainer closing)
include hopening hclosing

theorem displayed_empty : Displayed columns depth [opening, closing] [opening, closing] :=
  displayed_of_passage hopening
    ((passage_opening hopening).append (passage_closing hclosing))

/-- Items between brackets, which stand at the depth of the container. -/
theorem Displayed.enclose (ht : Displayed columns (depth + 1) t m) :
    Displayed columns depth
      (opening :: (newLine (columns * (depth + 1)) ++ t ++ newLine (columns * depth) ++ [closing]))
      (opening :: (m ++ [closing])) := by
  have hopens : opensContainer closing = false := by
    rcases closesContainer_iff.mp hclosing with rfl | rfl <;> decide
  have hitems := ht.below (passage_opening hopening)
  -- The closing bracket itself stands outside of the container.
  have hmargin : openAround depth ([opening] ++ newLine (columns * (depth + 1)) ++ t) closing =
      depth := by
    rw [openAround_eq_sub hitems.closed hclosing hopens, hitems.level]
    rfl
  refine displayed_of_passage hopening ?_
  simpa using hitems.feed (passage_closing hclosing) hmargin

end Brackets

/-- Items between brackets, laid out and minified. -/
theorem exists_displayed_body {items : List (List Piece)} (hne : items ≠ [])
    (h : ∀ pieces ∈ items, Displayed columns (depth + 1)
      (layOut (.indented columns) false pieces) (layOut .minified false pieces)) :
    ∃ t, layOutBody (.indented columns) false depth items =
        newLine (columns * (depth + 1)) ++ t ++ newLine (columns * depth) ∧
      Displayed columns (depth + 1) t (layOutBody .minified false depth items) := by
  have hbreak (d : ℕ) : layOut (.indented columns) false [.lineBreak d] = newLine (columns * d) ∧
      layOut .minified false [.lineBreak d] = [] := ⟨List.append_nil _, rfl⟩
  induction items with
  | nil => exact absurd rfl hne
  | cons pieces items ih =>
    obtain ⟨hfirst, hitems⟩ := List.forall_mem_cons.mp h
    by_cases hlast : items = []
    · subst hlast
      refine ⟨layOut (.indented columns) false pieces, ?_, ?_⟩
      · rw [layOutBody_singleton, (hbreak _).1, (hbreak _).1]
      · rw [layOutBody_singleton, (hbreak _).2, (hbreak _).2, List.nil_append, List.append_nil]
        exact hfirst
    · obtain ⟨t, htext, ht⟩ := ih hlast hitems
      refine ⟨layOut (.indented columns) false pieces ++
        ofChar ',' :: (newLine (columns * (depth + 1)) ++ t), ?_, ?_⟩
      · rw [layOutBody_cons _ _ _ _ hlast, htext, (hbreak _).1]
        simp
      · rw [layOutBody_cons _ _ _ _ hlast, (hbreak _).2, List.nil_append]
        exact hfirst.comma ht

/-- A container, empty or not. -/
theorem displayed_container {opening closing : CodePoint} (hopening : opensContainer opening)
    (hclosing : closesContainer closing) {items : List (List Piece)}
    (h : ∀ pieces ∈ items, Displayed columns (depth + 1)
      (layOut (.indented columns) false pieces) (layOut .minified false pieces)) :
    Displayed columns depth
      (layOut (.indented columns) false (Piece.enclose depth [opening] [closing] items))
      (layOut .minified false (Piece.enclose depth [opening] [closing] items)) := by
  by_cases hne : items = []
  · subst hne
    rw [Piece.enclose, layOut_token, layOut_token]
    exact displayed_empty hopening hclosing
  · obtain ⟨t, htext, ht⟩ := exists_displayed_body hne h
    have hopen : Ascii [opening] := by
      rcases opensContainer_iff.mp hopening with rfl | rfl <;> decide
    have hclose : Ascii [closing] := by
      rcases closesContainer_iff.mp hclosing with rfl | rfl <;> decide
    rw [layOut_enclose _ _ _ hopen hclose hne, layOut_enclose _ _ _ hopen hclose hne, htext]
    simpa using ht.enclose hopening hclosing

/-- **Every value is indented by its depth**, and without its blanks it is the minified one. -/
theorem displayed_pieces (v : Value) (depth : ℕ) : Displayed columns depth
    (layOut (.indented columns) false (v.pieces depth)) (layOut .minified false (v.pieces depth)) := by
  have htoken {depth : ℕ} {t : Text} (h : Displayed columns depth t t) : Displayed columns depth
      (layOut (.indented columns) false [.token t]) (layOut .minified false [.token t]) := by
    rw [layOut_token, layOut_token]
    exact h
  induction v using Value.induction generalizing depth with
  | null => exact htoken (displayed_plain (by decide) (by decide))
  | bool b => cases b <;> exact htoken (displayed_plain (by decide) (by decide))
  | int n => exact htoken (displayed_number (numberText_ofInt n))
  | float x => exact htoken (displayed_double x)
  | string s => exact htoken (displayed_quote s)
  | array items ih =>
    rw [Value.pieces]
    have hopening : opensContainer (ofChar '[') := by decide
    refine displayed_container hopening (by decide) ?_
    intro pieces hpieces
    obtain ⟨v, hv, rfl⟩ := mem_itemPieces.mp hpieces
    exact ih v hv (depth + 1)
  | object members ih =>
    rw [Value.pieces]
    have hopening : opensContainer (ofChar '\x7b') := by decide
    refine displayed_container hopening (by decide) ?_
    intro pieces hpieces
    obtain ⟨⟨key, v⟩, hm, rfl⟩ := mem_memberPieces.mp hpieces
    have hcolon : layOut (.indented columns) false [.token ":"] = [ofChar ':'] ∧
        layOut .minified false [.token ":"] = [ofChar ':'] :=
      ⟨layOut_ascii _ _ (by decide), layOut_ascii _ _ (by decide)⟩
    have hgap : layOut (.indented columns) false [.gap] = [ofChar ' '] ∧
        layOut .minified false [.gap] = [] := ⟨rfl, rfl⟩
    have htext (l : Layout) : layOut l false (.token (quote key) :: .token ":" :: .gap ::
        v.pieces (depth + 1)) = quote key ++ (layOut l false [.token ":"] ++
          (layOut l false [.gap] ++ layOut l false (v.pieces (depth + 1)))) := by
      rw [layOut_cons, layOut_token, layOut_cons _ _ (.token ":"), layOut_cons _ _ .gap]
      rfl
    rw [htext, htext, hcolon.1, hcolon.2, hgap.1, hgap.2]
    exact displayed_member key (ih (key, v) hm (depth + 1))

end Displayed

/-! ## The lines of a text -/

section Indented

variable {columns n : ℕ} {t : Text}

/-- A line feed opens and closes nothing. -/
theorem openAround_feed {before : Text} (hclosed : Place.outside.run before = .outside)
    (c : CodePoint) : openAround n (before ++ [ofChar '\n']) c = openAround n before c := by
  rw [openAround_append hclosed, openAround, openAround, openFrom_append hclosed,
    openFrom_append (by decide)]
  rfl

/-- The last code point of a text that ends visibly is visible. -/
theorem EndsVisibly.getLast? {c : CodePoint} (h : EndsVisibly t) (hc : t.getLast? = some c) :
    ¬ c.isBlank := by
  obtain ⟨r, d, rfl, hd⟩ := h
  rw [List.getLast?_concat] at hc
  exact Option.some.inj hc ▸ hd

/-- What goes on up to the end of a line stands on the line, if it has no line feeds. -/
theorem prefix_line {line after u rest : Text} (h : line ++ after = u ++ rest)
    (hu : ofChar '\n' ∉ u) (hafter : after = [] ∨ after.head? = some (ofChar '\n')) :
    ∃ r, line = u ++ r := by
  rcases List.append_eq_append_iff.mp h with ⟨r, hur, hr⟩ | ⟨r, hline, -⟩
  · cases r with
    | nil => exact ⟨[], by simp [hur]⟩
    | cons c r =>
      -- The line would end inside of what has no line feeds.
      rcases hafter with rfl | hafter
      · simp at hr
      · rw [hr, List.cons_append, List.head?_cons] at hafter
        obtain rfl := Option.some.inj hafter
        exact absurd (hur ▸ List.mem_append_right _ List.mem_cons_self) hu
  · exact ⟨r, hline⟩

/-- What fits, and begins and ends as a value does, is indented. -/
theorem Displayed.indented {minified : Text} (h : Displayed columns 0 t minified) :
    Indented columns t := by
  constructor
  · intro before after heq
    exact (h.fits before after heq).1
  · intro before line after hline c hc
    have hvisible : EndsVisibly (before ++ line) := by
      rcases hline.ends with hafter | hafter
      · have ht : t = before ++ line := by rw [hline.parts, hafter, List.append_nil]
        exact ht ▸ h.ends
      · obtain ⟨r, hr⟩ := List.head?_eq_some_iff.mp hafter
        exact (h.fits (before ++ line) r (by rw [hline.parts, hr])).2.1
    refine hvisible.getLast? ?_
    rw [List.getLast?_append, hc]
    rfl
  · intro hlast
    exact h.ends.getLast? hlast (by decide)
  · intro before line after hline
    rcases hline.starts with rfl | hbefore
    · -- The first line begins with the value itself.
      obtain ⟨c, r, ht, hc⟩ := h.opens
      have hfeed : ofChar '\n' ∉ [c] := by
        intro hfeed
        exact hc (List.mem_singleton.mp hfeed ▸ (by decide))
      have hparts : line ++ after = [c] ++ r := hline.parts.symm.trans ht
      obtain ⟨rest, hrest⟩ := prefix_line hparts hfeed hline.ends
      refine ⟨c, rest, ?_, hc⟩
      rw [openAround_eq (h.starts c (by rw [ht]; rfl))]
      exact hrest
    · obtain ⟨b, hb⟩ := List.getLast?_eq_some_iff.mp hbefore
      obtain ⟨hclosed, -, c, r, hafter, hc⟩ := h.fits b (line ++ after) (by simp [hline.parts, hb])
      have hfeed : ofChar '\n' ∉ Text.spaces (columns * openAround 0 b c) ++ [c] := by
        rw [List.mem_append, List.mem_singleton]
        rintro (hfeed | hfeed)
        · exact feed_not_mem_spaces _ hfeed
        · exact hc (hfeed ▸ (by decide))
      have hparts : line ++ after = Text.spaces (columns * openAround 0 b c) ++ [c] ++ r := by
        simpa using hafter
      obtain ⟨rest, hrest⟩ := prefix_line hparts hfeed hline.ends
      refine ⟨c, rest, ?_, hc⟩
      rw [hb, openAround_feed hclosed, hrest]
      simp

end Indented

/-! ## The law of layout -/

/-- **Every style writes the same tokens, on lines that are indented by the open brackets.**  Without
the blanks outside of strings a written value is the minified one, which shows no blanks there; and
every other style stands on its lines as it should. -/
theorem serialize_indented (o : FormatOptions) {v : Value}
    (hv : ∀ part ∈ v.parts, ¬ part.Inexpressible) (hescape : o.escapeNonAscii = false) :
    ∃ text minified, serialize o v = .ok text ∧
      serialize { o with style := .minified } v = .ok minified ∧
      Place.outside.squeeze text = minified ∧
      (∀ c ∈ Place.outside.bare minified, ¬ c.isBlank) ∧
      (o.style ≠ .minified →
        Indented (if o.style = .compact then 1 else o.width.columns) text) := by
  have hwritable : v.unwritable? = none := unwritable?_eq_none_iff.mpr hv
  have htext {o : FormatOptions} (ho : o.escapeNonAscii = false) :
      serialize o v = .ok (layOut o.layout false (v.pieces 0)) := by
    rw [serialize, hwritable, renderWith, ho]
    rfl
  have hvalue : Displayed 1 0 _ (layOut .minified false (v.pieces 0)) := displayed_pieces v 0
  refine ⟨_, _, htext hescape, htext hescape, ?_, hvalue.visible, ?_⟩
  · have hlayout : o.layout = .minified ∨ ∃ columns, o.layout = .indented columns := by
      cases o.layout <;> simp
    rcases hlayout with hlayout | ⟨columns, hlayout⟩
    · rw [hlayout]
      exact Place.squeeze_eq_self hvalue.visible
    · rw [hlayout]
      exact (displayed_pieces v 0).squeezed
  · intro hstyle
    have hlayout : o.layout = .indented (if o.style = .compact then 1 else o.width.columns) := by
      unfold FormatOptions.layout
      cases hs : o.style <;> simp_all
    rw [hlayout]
    exact (displayed_pieces v 0).indented

/-- Brackets and quotes inside of strings, and containers that hold something or nothing. -/
def bracketed : Value :=
  .object [("[\"", .array [.string "]\\", .object []]), ("b", .array [.int (-1)])]

theorem serialize_indented_bracketed :
    ∃ text, serialize {} bracketed = .ok text ∧ Indented 2 text ∧
      text = "\x7b\n  \"[\\\"\": [\n    \"]\\\\\",\n    \x7b\x7d\n  ],\n  \"b\": [\n    -1\n  ]\n\x7d" ∧
      Place.outside.squeeze text =
        "\x7b\"[\\\"\":[\"]\\\\\",\x7b\x7d],\"b\":[-1]\x7d" := by
  have hparts : ∀ part ∈ bracketed.parts, ¬ part.Inexpressible := by
    simp [bracketed, Value.parts, partsOfItems, partsOfMembers, Value.Inexpressible,
      maxIntegerDigits]
  obtain ⟨text, minified, htext, hminified, hsqueeze, -, hindented⟩ :=
    serialize_indented {} hparts rfl
  refine ⟨text, htext, hindented (by decide), ?_, ?_⟩
  · rw [serialize, unwritable?_eq_none_iff.mpr hparts] at htext
    rw [← Except.ok.inj htext]
    decide +kernel
  · rw [serialize, unwritable?_eq_none_iff.mpr hparts] at hminified
    rw [hsqueeze, ← Except.ok.inj hminified]
    decide +kernel

end StructuredText.Json
