/-
# Writing and reading back

What is written for a value is a document of the grammar, in every layout.  Its tree denotes the
value, except that halves of a surrogate pair that stand side by side and are escaped by themselves
denote one code point.

* `exists_rendered`: the tree of a written value;
* `serialize_round_trip`: what is read from a written value.
-/
import Mathlib
import StructuredText.Json.Printer
import StructuredText.Json.Sorting
import StructuredText.Proofs.Json.Acceptance
import StructuredText.Proofs.Json.Grammar
import StructuredText.Proofs.Json.Members
import StructuredText.Proofs.Json.WellFormed
import StructuredText.Proofs.Json.WrittenNumbers
import StructuredText.Proofs.Json.WrittenStrings

namespace StructuredText.Json

open CodePoint (ofChar)

/-! ## Pieces -/

/-- Pieces in a layout, perhaps with everything beyond ASCII escaped. -/
def layOut (l : Layout) (escaped : Bool) (pieces : List Piece) : Text :=
  encode escaped (pieces.flatMap l.write)

section LayOut

variable (l : Layout) (escaped : Bool)

theorem layOut_append (pieces pieces' : List Piece) :
    layOut l escaped (pieces ++ pieces') = layOut l escaped pieces ++ layOut l escaped pieces' := by
  rw [layOut, List.flatMap_append, encode_append]
  rfl

theorem layOut_cons (piece : Piece) (pieces : List Piece) :
    layOut l escaped (piece :: pieces) = layOut l escaped [piece] ++ layOut l escaped pieces :=
  layOut_append l escaped [piece] pieces

theorem layOut_token (t : Text) : layOut l escaped [.token t] = encode escaped t := by
  cases l <;> simp [layOut, Layout.write]

theorem layOut_ascii {t : Text} (h : Ascii t) : layOut l escaped [.token t] = t := by
  rw [layOut_token, h.encode]

/-- A number is ASCII. -/
theorem layOut_number {t : Text} {n : Numeral} (h : NumberText t n) :
    layOut l escaped [.token t] = t := by
  refine layOut_ascii l escaped (h.forall_mem (fun c hc => ?_) (by decide))
  simp only [CodePoint.isDigit, CodePoint.between, Bool.and_eq_true, decide_eq_true_eq] at hc
  omega

theorem blanks_spaces (n : ℕ) : Blanks (Text.spaces n) := by
  intro c hc
  rw [List.eq_of_mem_replicate hc]
  decide

/-- White space is the same in ASCII. -/
theorem Blanks.encode {w : Text} (h : Blanks w) : encode escaped w = w := by
  refine Ascii.encode (fun c hc => ?_) escaped
  have := h c hc
  simp only [isJsonBlank, Bool.or_eq_true, beq_iff_eq] at this
  rcases this with ((rfl | rfl) | rfl) | rfl <;> decide

theorem blanks_lineBreak (depth : ℕ) : Blanks (layOut l escaped [.lineBreak depth]) := by
  cases l with
  | minified => simp [layOut, Layout.write, encode_nil]
  | indented columns =>
    have h : Blanks (ofChar '\n' :: Text.spaces (columns * depth)) := by
      intro c hc
      rcases List.mem_cons.mp hc with rfl | hc
      · decide
      · exact blanks_spaces _ c hc
    simpa [layOut, Layout.write, h.encode] using h

theorem blanks_gap : Blanks (layOut l escaped [.gap]) := by
  cases l with
  | minified => simp [layOut, Layout.write, encode_nil]
  | indented columns =>
    have h : Blanks [ofChar ' '] := by simp [Blanks]; decide
    simpa [layOut, Layout.write, h.encode] using h

/-- What stands between the brackets of items that have pieces. -/
def layOutBody (depth : ℕ) (items : List (List Piece)) : Text :=
  layOut l escaped (.lineBreak (depth + 1) ::
    ([Piece.token ",", .lineBreak (depth + 1)].intercalate items ++ [.lineBreak depth]))

theorem layOutBody_singleton (depth : ℕ) (pieces : List Piece) :
    layOutBody l escaped depth [pieces] =
      layOut l escaped [.lineBreak (depth + 1)] ++ layOut l escaped pieces ++
        layOut l escaped [.lineBreak depth] := by
  rw [layOutBody, List.intercalate_singleton, layOut_cons, layOut_append, List.append_assoc]

theorem layOutBody_cons (depth : ℕ) (pieces : List Piece) {items : List (List Piece)}
    (h : items ≠ []) :
    layOutBody l escaped depth (pieces :: items) =
      layOut l escaped [.lineBreak (depth + 1)] ++ layOut l escaped pieces ++
        ofChar ',' :: layOutBody l escaped depth items := by
  have hcomma : layOut l escaped [.token ","] = [ofChar ','] := layOut_ascii l escaped (by decide)
  rw [layOutBody, List.intercalate_cons_of_ne_nil h, layOut_cons]
  simp only [List.append_assoc, List.cons_append, List.nil_append]
  rw [layOut_append, layOut_cons l escaped (.token ","), hcomma]
  rfl

/-- Something between brackets. -/
theorem layOut_enclose (depth : ℕ) {opening closing : Text} (hopening : Ascii opening)
    (hclosing : Ascii closing) {items : List (List Piece)} (h : items ≠ []) :
    layOut l escaped (Piece.enclose depth opening closing items) =
      opening ++ (layOutBody l escaped depth items ++ closing) := by
  have henclose : Piece.enclose depth opening closing items =
      .token opening :: (.lineBreak (depth + 1) ::
        ([Piece.token ",", .lineBreak (depth + 1)].intercalate items ++ [.lineBreak depth]) ++
        [.token closing]) := by
    cases items with
    | nil => exact absurd rfl h
    | cons pieces items => simp [Piece.enclose]
  rw [henclose, layOut_cons, layOut_append, layOut_ascii l escaped hopening,
    layOut_ascii l escaped hclosing]
  rfl

end LayOut

/-! ## Trees of values -/

/-- A tree of a written value. -/
structure Rendered (escaped : Bool) (t : Text) (v : Value) (tree : Tree) : Prop where
  text : ValueText t tree
  levels : tree.levels = v.levels
  limits : tree.WithinLimits
  denotes : tree.Denotes v ↔ (escaped → ∀ s ∈ v.strings, ¬ HoldsPair s)

/-- Trees of written items. -/
structure RenderedItems (escaped : Bool) (t : Text) (items : List Value) (trees : List Tree) :
    Prop where
  text : ItemsText t trees
  levels : levelsOfTrees trees = levelsOfItems items
  limits : ∀ n ∈ numeralsOfItems trees, n.InRange
  denotes : ItemsDenote trees items ↔ (escaped → ∀ s ∈ stringsOfItems items, ¬ HoldsPair s)

/-- Trees of written members. -/
structure RenderedMembers (escaped : Bool) (t : Text) (members : List Member)
    (trees : List (List StringPart × Tree)) : Prop where
  text : MembersText t trees
  levels : levelsOfNamedTrees trees = levelsOfMembers members
  limits : ∀ n ∈ numeralsOfMembers trees, n.InRange
  length : trees.length = members.length
  denotes : MembersDenote trees members ↔ (escaped → ∀ s ∈ stringsOfMembers members, ¬ HoldsPair s)

/-- The tree of a value without strings. -/
theorem Rendered.of_no_strings {escaped : Bool} {t : Text} {v : Value} {tree : Tree}
    (text : ValueText t tree) (levels : tree.levels = v.levels) (limits : tree.WithinLimits)
    (denotes : tree.Denotes v) (strings : v.strings = []) : Rendered escaped t v tree :=
  ⟨text, levels, limits, iff_of_true denotes (by simp [strings])⟩

theorem itemsDenote_cons_iff {tree : Tree} {v : Value} {trees : List Tree} {items : List Value} :
    ItemsDenote (tree :: trees) (v :: items) ↔ tree.Denotes v ∧ ItemsDenote trees items := by
  constructor
  · intro h
    cases h with
    | cons hv hrest => exact ⟨hv, hrest⟩
  · rintro ⟨hv, hrest⟩
    exact .cons hv hrest

theorem membersDenote_cons_iff {name : List StringPart} {tree : Tree} {key : Text} {v : Value}
    {trees : List (List StringPart × Tree)} {members : List Member} :
    MembersDenote ((name, tree) :: trees) ((key, v) :: members) ↔
      joinUnits name = key ∧ tree.Denotes v ∧ MembersDenote trees members := by
  constructor
  · intro h
    cases h with
    | cons hv hrest => exact ⟨rfl, hv, hrest⟩
  · rintro ⟨rfl, hv, hrest⟩
    exact .cons hv hrest

theorem MembersDenote.length {trees : List (List StringPart × Tree)} {written : List Member}
    (h : MembersDenote trees written) : trees.length = written.length := by
  induction trees generalizing written with
  | nil =>
    cases h
    rfl
  | cons m trees ih =>
    cases h with
    | cons _ hrest => rw [List.length_cons, List.length_cons, ih hrest]

/-- An object without repeated names is denoted member by member. -/
theorem denotes_object_iff {trees : List (List StringPart × Tree)} {members : List Member}
    (hlength : trees.length = members.length) (hnames : (namesOf members).Nodup) :
    (Tree.object trees).Denotes (.object members) ↔ MembersDenote trees members := by
  constructor
  · intro h
    cases h with
    | @object _ written _ hdenote hmerges =>
      rw [hmerges.eq_of_length (hdenote.length.symm.trans hlength)]
      exact hdenote
  · exact fun h => .object h (Merges.refl hnames)

/-! ## Every value has a tree -/

section Trees

variable (l : Layout) (escaped : Bool)

theorem exists_renderedItems (depth : ℕ) {items : List Value} (hne : items ≠ [])
    (h : ∀ v ∈ items, ∃ tree, Rendered escaped (layOut l escaped (v.pieces (depth + 1))) v tree) :
    ∃ trees, RenderedItems escaped (layOutBody l escaped depth (itemPieces (depth + 1) items)) items
      trees := by
  have hbreak := blanks_lineBreak l escaped
  induction items with
  | nil => exact absurd rfl hne
  | cons v items ih =>
    obtain ⟨tree, hv⟩ := h v List.mem_cons_self
    -- The last item is followed by the break before the bracket, any other one by a comma.
    cases items with
    | nil =>
      refine ⟨[tree], ?_, ?_, ?_, ?_⟩
      · rw [itemPieces, itemPieces, layOutBody_singleton]
        exact .last (hbreak _) hv.text (hbreak _)
      · simp [levelsOfTrees, levelsOfItems, hv.levels]
      · simpa [numeralsOfItems, Tree.WithinLimits] using hv.limits
      · rw [itemsDenote_cons_iff, hv.denotes]
        simp [stringsOfItems, ItemsDenote.nil]
    | cons v' items =>
      obtain ⟨trees, hrest⟩ := ih (by simp) fun v'' h'' => h v'' (List.mem_cons_of_mem v h'')
      refine ⟨tree :: trees, ?_, ?_, ?_, ?_⟩
      · rw [itemPieces, layOutBody_cons _ _ _ _ (by simp [itemPieces])]
        simpa using ItemsText.more (hbreak _) hv.text .nil hrest.text
      · rw [levelsOfTrees, levelsOfItems, hv.levels, hrest.levels]
      · simp only [numeralsOfItems, List.mem_append, or_imp, forall_and]
        exact ⟨hv.limits, hrest.limits⟩
      · rw [itemsDenote_cons_iff, hv.denotes, hrest.denotes]
        simp only [stringsOfItems, List.mem_append, or_imp, forall_and]

theorem exists_renderedMembers (depth : ℕ) {members : List Member} (hne : members ≠ [])
    (h : ∀ m ∈ members,
      ∃ tree, Rendered escaped (layOut l escaped (m.2.pieces (depth + 1))) m.2 tree) :
    ∃ trees, RenderedMembers escaped
      (layOutBody l escaped depth (memberPieces (depth + 1) members)) members trees := by
  have hbreak := blanks_lineBreak l escaped
  induction members with
  | nil => exact absurd rfl hne
  | cons m members ih =>
    obtain ⟨key, v⟩ := m
    obtain ⟨tree, hv⟩ := h (key, v) List.mem_cons_self
    obtain ⟨k, parts, hquote, hk, hparts⟩ := exists_parts_quote escaped key
    have hjoin := joinUnits_eq_self_iff hparts
    have hmember : ∀ {w'}, Blanks w' → MemberText (layOut l escaped [.lineBreak (depth + 1)] ++
        layOut l escaped (.token (quote key) :: .token ":" :: .gap :: v.pieces (depth + 1)) ++ w')
        (parts, tree) := by
      intro w' hw'
      have hcolon : layOut l escaped [.token ":"] = [ofChar ':'] :=
        layOut_ascii l escaped (by decide)
      have htext := MemberText.mk (hbreak (depth + 1)) hk .nil (blanks_gap l escaped) hv.text hw'
      rw [layOut_cons l escaped (.token (quote key)), layOut_token, hquote,
        layOut_cons l escaped (.token ":"), hcolon, layOut_cons l escaped .gap]
      simpa using htext
    cases members with
    | nil =>
      refine ⟨[(parts, tree)], ?_, ?_, ?_, rfl, ?_⟩
      · rw [memberPieces, memberPieces, layOutBody_singleton]
        exact .last (hmember (hbreak depth))
      · simp [levelsOfNamedTrees, levelsOfMembers, hv.levels]
      · simpa [numeralsOfMembers, Tree.WithinLimits] using hv.limits
      · rw [membersDenote_cons_iff, hjoin, hv.denotes]
        simp [stringsOfMembers, MembersDenote.nil, forall_and]
    | cons m' members =>
      obtain ⟨trees, hrest⟩ := ih (by simp) fun m'' h'' => h m'' (List.mem_cons_of_mem _ h'')
      refine ⟨(parts, tree) :: trees, ?_, ?_, ?_, ?_, ?_⟩
      · rw [memberPieces, layOutBody_cons _ _ _ _ (by simp [memberPieces])]
        simpa using MembersText.more (hmember .nil) hrest.text
      · rw [levelsOfNamedTrees, levelsOfMembers, hv.levels, hrest.levels]
      · simp only [numeralsOfMembers, List.mem_append, or_imp, forall_and]
        exact ⟨hv.limits, hrest.limits⟩
      · rw [List.length_cons, List.length_cons, hrest.length]
      · rw [membersDenote_cons_iff, hjoin, hv.denotes, hrest.denotes]
        simp only [stringsOfMembers, List.mem_cons, List.mem_append, or_imp, forall_and, forall_eq]

/-- An array has a tree if each of its items has one. -/
theorem exists_rendered_array (depth : ℕ) {items : List Value}
    (h : ∀ v ∈ items, ∃ tree, Rendered escaped (layOut l escaped (v.pieces (depth + 1))) v tree) :
    ∃ tree, Rendered escaped (layOut l escaped ((Value.array items).pieces depth)) (.array items)
      tree := by
  by_cases hne : items = []
  · subst hne
    refine ⟨.array [], .of_no_strings ?_ rfl ?_ (.array .nil) rfl⟩
    · rw [Value.pieces, itemPieces, Piece.enclose, layOut_ascii l escaped (by decide)]
      exact .emptyArray .nil
    · simp [Tree.WithinLimits, Tree.numerals, numeralsOfItems]
  · obtain ⟨trees, hitems⟩ := exists_renderedItems l escaped depth hne h
    have hpieces : itemPieces (depth + 1) items ≠ [] := by
      cases items with
      | nil => exact absurd rfl hne
      | cons v items => simp [itemPieces]
    refine ⟨.array trees, ?_, ?_, hitems.limits, ?_⟩
    · rw [Value.pieces, layOut_enclose l escaped depth (by decide) (by decide) hpieces]
      exact .array hitems.text
    · rw [Tree.levels, Value.levels, hitems.levels]
    · rw [Value.strings, ← hitems.denotes]
      constructor
      · intro h
        cases h
        assumption
      · exact .array

/-- An object without repeated names has a tree if the value of each of its members has one. -/
theorem exists_rendered_object (depth : ℕ) {members : List Member}
    (hnames : (namesOf members).Nodup)
    (h : ∀ m ∈ members,
      ∃ tree, Rendered escaped (layOut l escaped (m.2.pieces (depth + 1))) m.2 tree) :
    ∃ tree, Rendered escaped (layOut l escaped ((Value.object members).pieces depth))
      (.object members) tree := by
  by_cases hne : members = []
  · subst hne
    refine ⟨.object [], .of_no_strings ?_ rfl ?_ (.object .nil (Merges.refl hnames)) rfl⟩
    · rw [Value.pieces, memberPieces, Piece.enclose, layOut_ascii l escaped (by decide)]
      exact .emptyObject .nil
    · simp [Tree.WithinLimits, Tree.numerals, numeralsOfMembers]
  · obtain ⟨trees, hmembers⟩ := exists_renderedMembers l escaped depth hne h
    have hpieces : memberPieces (depth + 1) members ≠ [] := by
      cases members with
      | nil => exact absurd rfl hne
      | cons m members => simp [memberPieces]
    refine ⟨.object trees, ?_, ?_, hmembers.limits, ?_⟩
    · rw [Value.pieces, layOut_enclose l escaped depth (by decide) (by decide) hpieces]
      exact .object hmembers.text
    · rw [Tree.levels, Value.levels, hmembers.levels]
    · rw [Value.strings, ← hmembers.denotes, denotes_object_iff hmembers.length hnames]

/-- **What is written for a well-formed value is a value of the grammar**, and its tree denotes
that value unless halves that stand side by side are escaped. -/
theorem exists_rendered {v : Value} (hv : v.WellFormed) (depth : ℕ) :
    ∃ tree, Rendered escaped (layOut l escaped (v.pieces depth)) v tree := by
  induction v using Value.induction generalizing depth with
  | null =>
    refine ⟨.null, .of_no_strings ?_ rfl (by simp [Tree.WithinLimits, Tree.numerals]) .null rfl⟩
    rw [Value.pieces, layOut_ascii l escaped (by decide)]
    exact .null
  | bool b =>
    refine ⟨.bool b, .of_no_strings ?_ rfl (by simp [Tree.WithinLimits, Tree.numerals])
      (.bool b) rfl⟩
    cases b with
    | true =>
      rw [Value.pieces, layOut_ascii l escaped (by decide)]
      exact .true
    | false =>
      rw [Value.pieces, layOut_ascii l escaped (by decide)]
      exact .false
  | int n =>
    rw [Value.WellFormed] at hv
    refine ⟨.number (.ofInt n), .of_no_strings ?_ rfl ?_ (.number (denotes_ofInt n)) rfl⟩
    · rw [Value.pieces, layOut_number l escaped (numberText_ofInt n)]
      exact .number (numberText_ofInt n)
    · simpa [Tree.WithinLimits, Tree.numerals] using inRange_ofInt hv
  | float x =>
    rw [Value.WellFormed] at hv
    obtain ⟨n, htext, hrange, hdenotes⟩ := exists_numeral_toText hv
    refine ⟨.number n, .of_no_strings ?_ rfl ?_ (.number hdenotes) rfl⟩
    · rw [Value.pieces, layOut_number l escaped htext]
      exact .number htext
    · simpa [Tree.WithinLimits, Tree.numerals] using hrange
  | string s =>
    obtain ⟨t, parts, hquote, ht, hparts⟩ := exists_parts_quote escaped s
    refine ⟨.string parts, ?_, rfl, by simp [Tree.WithinLimits, Tree.numerals], ?_⟩
    · rw [Value.pieces, layOut_token, hquote]
      exact .string ht
    · simp only [Value.strings, List.mem_singleton, forall_eq, ← joinUnits_eq_self_iff hparts]
      constructor
      · intro h
        cases h
        rfl
      · intro h
        rw [← h]
        exact .string parts
  | array items ih =>
    rw [Value.WellFormed] at hv
    exact exists_rendered_array l escaped depth fun v h =>
      ih v h (wellFormed_of_mem hv h) (depth + 1)
  | object members ih =>
    rw [Value.WellFormed] at hv
    exact exists_rendered_object l escaped depth hv.1 fun m h =>
      ih m h (wellFormed_of_mem_members hv.2 h) (depth + 1)

end Trees

/-! ## Reading back -/

/-- What is written for a well-formed value is read back unless halves of a surrogate pair stand
side by side and are escaped. -/
theorem parseWithin_renderWith_iff (o : FormatOptions) {v : Value} (hv : v.WellFormed) {levels : ℕ}
    (hlevels : v.levels ≤ levels) :
    parseWithin levels (renderWith o v) = .ok v ↔
      (o.escapeNonAscii → ∀ s ∈ v.strings, ¬ HoldsPair s) := by
  obtain ⟨tree, htree⟩ := exists_rendered o.layout o.escapeNonAscii hv 0
  have hdocument : DocumentText (renderWith o v) tree := by
    have htext := DocumentText.mk .nil htree.text .nil
    rwa [List.nil_append, List.append_nil] at htext
  -- Levels and numbers are no obstacle, so it is read back just if its tree denotes it.
  rw [parseWithin_eq_ok_iff hdocument, ← htree.denotes]
  exact ⟨fun h => h.2.2, fun h => ⟨htree.levels ▸ hlevels, htree.limits, h⟩⟩

/-- Well-formed values that are read back are told apart by their texts. -/
theorem eq_of_renderWith_eq {o : FormatOptions} {v w : Value} (hv : v.WellFormed)
    (hw : w.WellFormed) (hpairv : o.escapeNonAscii → ∀ s ∈ v.strings, ¬ HoldsPair s)
    (hpairw : o.escapeNonAscii → ∀ s ∈ w.strings, ¬ HoldsPair s)
    (h : renderWith o v = renderWith o w) : v = w := by
  have hreadv := (parseWithin_renderWith_iff o hv (le_max_left v.levels w.levels)).mpr hpairv
  have hreadw := (parseWithin_renderWith_iff o hw (le_max_right v.levels w.levels)).mpr hpairw
  rw [h, hreadw] at hreadv
  exact (Except.ok.inj hreadv).symm

/-- **What is written is read back**, exactly: with the same members in the same order, under any
options, unless everything beyond ASCII is escaped and a string or name holds the two halves of a
surrogate pair side by side. -/
theorem serialize_round_trip (o : FormatOptions) {v : Value} (hv : v.WellFormed) {levels : ℕ}
    (hlevels : v.levels ≤ levels) :
    ∃ text, serialize o v = .ok text ∧
      (o.escapeNonAscii = false → parseWithin levels text = .ok v) ∧
      (o.escapeNonAscii = true →
        (parseWithin levels text = .ok v ↔ ∀ s ∈ v.strings, ¬ HoldsPair s)) := by
  have hread := parseWithin_renderWith_iff o hv hlevels
  refine ⟨renderWith o v, ?_, ?_, ?_⟩
  · rw [serialize, unwritable?_of_wellFormed hv]
  · intro hescape
    rw [hread, hescape]
    exact fun h => absurd h (by simp)
  · intro hescape
    rw [hread, hescape]
    exact ⟨fun h => h rfl, fun h _ => h⟩

/-- An object that holds two halves side by side, in an array. -/
def halves : Value :=
  .object [("half", .array [.float (.finite true .zero), .int (-1),
    .string [⟨0xD83D, by decide⟩, ⟨0xDE00, by decide⟩]])]

theorem wellFormed_halves : halves.WellFormed := by
  have hone : (-1 : ℤ).natAbs < 10 ^ maxIntegerDigits := Nat.one_lt_pow (by decide) (by decide)
  exact ⟨by simp [namesOf], ⟨rfl, hone, trivial, trivial⟩, trivial⟩

/-- Both options for that object: it is read back, and it is not. -/
theorem serialize_round_trip_halves :
    (∃ text, serialize {} halves = .ok text ∧ parseWithin 2 text = .ok halves) ∧
    (∃ text, serialize { escapeNonAscii := true } halves = .ok text ∧
      parseWithin 2 text ≠ .ok halves) := by
  constructor
  · obtain ⟨text, hwritten, hread, -⟩ :=
      serialize_round_trip {} wellFormed_halves (show halves.levels ≤ 2 by decide)
    exact ⟨text, hwritten, hread rfl⟩
  · obtain ⟨text, hwritten, -, hread⟩ :=
      serialize_round_trip { escapeNonAscii := true } wellFormed_halves
        (show halves.levels ≤ 2 by decide)
    refine ⟨text, hwritten, fun h => ?_⟩
    have hpair := (hread rfl).mp h [⟨0xD83D, by decide⟩, ⟨0xDE00, by decide⟩]
      (by simp [halves, Value.strings, stringsOfItems, stringsOfMembers])
    exact hpair ⟨[], _, _, [], rfl, by decide, by decide⟩

end StructuredText.Json
