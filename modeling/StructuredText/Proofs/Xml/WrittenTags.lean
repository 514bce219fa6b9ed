/-
# Tags as they are written

The tags of an element with everything in them, blanks and line breaks included, and the shape of
the lines that they make.

* `Tag.start`, `Tag.alone` and `Tag.stop` are the texts of tags, `Content` is what may stand between
  a start tag and an end tag on the same line;
* `holdsEndTagBackwards_iff` says what the search for an end tag finds;
* `lineShape_start`, `lineShape_stop`, `lineShape_alone` and `lineShape_textLine` tell the shapes.
-/
import Mathlib
import StructuredText.Proofs.Text.Lines
import StructuredText.Proofs.Text.Trimming
import StructuredText.Xml.TagLine

namespace StructuredText.Xml

open Text
open CodePoint (ofChar)

/-! ## Tags -/

/-- Blanks, line breaks among them, or nothing at all. -/
abbrev Space := { t : Text // t.isBlank }

/-- A text without the brackets of tags. -/
def NoBracket (t : Text) : Prop := ofChar '<' ∉ t ∧ ofChar '>' ∉ t

/-- The name of an element, which begins with a word code point. -/
structure ElementName where
  first : CodePoint
  rest : Text
  isWord_first : first.isWord
  noBracket_rest : NoBracket rest
  noSlash_rest : ofChar '/' ∉ rest

/-- The text of a name. -/
def ElementName.text (n : ElementName) : Text := n.first :: n.rest

/-- An attribute, with the blanks in front of it and around its equals sign. -/
structure WrittenAttribute where
  space : Space
  name : Text
  beforeEquals : Space
  afterEquals : Space
  quote : CodePoint
  value : Text
  isQuote : quote = ofChar '"' ∨ quote = ofChar '\''
  noBracket_name : NoBracket name
  noBracket_value : NoBracket value

/-- The text of an attribute. -/
def WrittenAttribute.text (a : WrittenAttribute) : Text :=
  a.space.1 ++ a.name ++ a.beforeEquals.1 ++ ofChar '=' :: a.afterEquals.1 ++
    a.quote :: a.value ++ [a.quote]

/-- What a start tag or an empty-element tag holds. -/
structure Tag where
  name : ElementName
  attributes : List WrittenAttribute
  /-- The blanks in front of the closing bracket or the slash. -/
  space : Space

namespace Tag

/-- The text between the brackets. -/
def inside (tag : Tag) : Text :=
  tag.name.text ++ tag.attributes.flatMap WrittenAttribute.text ++ tag.space.1

/-- The start tag. -/
def start (tag : Tag) : Text := ofChar '<' :: tag.inside ++ [ofChar '>']

/-- The empty-element tag. -/
def alone (tag : Tag) : Text := ofChar '<' :: (tag.inside ++ [ofChar '/']) ++ [ofChar '>']

/-- The end tag, with blanks behind the name. -/
def stop (tag : Tag) (space : Space) : Text :=
  ofChar '<' :: (ofChar '/' :: tag.name.text ++ space.1) ++ [ofChar '>']

end Tag

/-- Text that an element holds: something visible, and no brackets. -/
structure Content where
  text : Text
  noBracket : NoBracket text
  visible : text.isBlank = false

/-- A start tag, some text and the end tag. -/
def textLine (tag : Tag) (content : Content) (space : Space) : Text :=
  tag.start ++ content.text ++ tag.stop space

/-! ## Brackets -/

theorem NoBracket.append {s t : Text} (hs : NoBracket s) (ht : NoBracket t) :
    NoBracket (s ++ t) := by
  simp only [NoBracket, List.mem_append, not_or] at hs ht ⊢
  exact ⟨⟨hs.1, ht.1⟩, hs.2, ht.2⟩

theorem NoBracket.cons {c : CodePoint} {t : Text} (hopening : c ≠ ofChar '<')
    (hclosing : c ≠ ofChar '>') (ht : NoBracket t) : NoBracket (c :: t) := by
  simp only [NoBracket, List.mem_cons, not_or] at ht ⊢
  exact ⟨⟨hopening.symm, ht.1⟩, hclosing.symm, ht.2⟩

theorem noBracket_nil : NoBracket [] := ⟨List.not_mem_nil, List.not_mem_nil⟩

/-- Brackets are visible. -/
theorem noBracket_of_isBlank {w : Text} (hw : w.isBlank) : NoBracket w := by
  constructor <;> intro hmem <;> exact absurd (isBlank_of_mem hw hmem) (by decide)

/-- Neither brackets nor slashes are word code points. -/
theorem ne_of_isWord {c : CodePoint} (hc : c.isWord) :
    c ≠ ofChar '<' ∧ c ≠ ofChar '>' ∧ c ≠ ofChar '/' := by
  refine ⟨?_, ?_, ?_⟩ <;> rintro rfl <;> exact absurd hc (by decide)

theorem ElementName.noBracket (n : ElementName) : NoBracket n.text :=
  .cons (ne_of_isWord n.isWord_first).1 (ne_of_isWord n.isWord_first).2.1 n.noBracket_rest

theorem WrittenAttribute.noBracket (a : WrittenAttribute) : NoBracket a.text := by
  have hquote : a.quote ≠ ofChar '<' ∧ a.quote ≠ ofChar '>' := by
    rcases a.isQuote with h | h <;> rw [h] <;> decide
  have hvalue : NoBracket (a.quote :: a.value ++ [a.quote]) :=
    (NoBracket.cons hquote.1 hquote.2 a.noBracket_value).append
      (.cons hquote.1 hquote.2 noBracket_nil)
  have hequals : NoBracket (ofChar '=' :: a.afterEquals.1) :=
    .cons (by decide) (by decide) (noBracket_of_isBlank a.afterEquals.2)
  have hname := ((noBracket_of_isBlank a.space.2).append a.noBracket_name).append
    (noBracket_of_isBlank a.beforeEquals.2)
  have htext := (hname.append hequals).append hvalue
  simpa [WrittenAttribute.text] using htext

theorem Tag.noBracket_inside (tag : Tag) : NoBracket tag.inside := by
  have hattributes : NoBracket (tag.attributes.flatMap WrittenAttribute.text) := by
    generalize tag.attributes = attributes
    induction attributes with
    | nil => exact noBracket_nil
    | cons a rest ih => exact a.noBracket.append ih
  exact (tag.name.noBracket.append hattributes).append (noBracket_of_isBlank tag.space.2)

/-- A start tag does not close itself: it ends in its name, a quote or a blank. -/
theorem Tag.getLast?_inside (tag : Tag) : tag.inside.getLast? ≠ some (ofChar '/') := by
  intro hlast
  have hspace : ofChar '/' ∉ tag.space.1 := fun h =>
    absurd (isBlank_of_mem tag.space.2 h) (by decide)
  rw [Tag.inside, List.getLast?_append, Option.or_eq_some_iff] at hlast
  rcases hlast with hlast | ⟨-, hlast⟩
  · exact hspace (List.mem_of_getLast? hlast)
  · cases hattributes : tag.attributes.getLast? with
    | none =>
      have hname : ofChar '/' ∉ tag.name.text := by
        rw [ElementName.text, List.mem_cons, not_or]
        exact ⟨(ne_of_isWord tag.name.isWord_first).2.2.symm, tag.name.noSlash_rest⟩
      rw [List.getLast?_eq_none_iff.mp hattributes, List.flatMap_nil, List.append_nil] at hlast
      exact hname (List.mem_of_getLast? hlast)
    | some a =>
      obtain ⟨before, hbefore⟩ := List.getLast?_eq_some_iff.mp hattributes
      rw [hbefore, List.flatMap_append, List.flatMap_singleton, WrittenAttribute.text,
        ← List.append_assoc, ← List.append_assoc, List.getLast?_concat, Option.some.injEq] at hlast
      rcases a.isQuote with h | h <;> rw [h] at hlast <;> exact absurd hlast (by decide)

/-! ## End tags in a line -/

/-- The search for an end tag, backwards from the end of a line, finds its beginning together with
what stands in front of it. -/
theorem holdsEndTagBackwards_iff {t : Text} :
    holdsEndTagBackwards t ↔ ∃ behind letter before rest,
      t = behind ++ letter :: ofChar '/' :: ofChar '<' :: before :: rest ∧ letter.isWord ∧
        before ≠ ofChar '\n' ∧ ofChar '>' ∉ behind := by
  fun_induction holdsEndTagBackwards t with
  | case1 letter slash bracket before rest ih =>
    simp only [Bool.or_eq_true, Bool.and_eq_true, bne_iff_ne, beq_iff_eq, ih]
    constructor
    · rintro (⟨⟨⟨hword, rfl⟩, rfl⟩, hbefore⟩ | ⟨hletter, behind, l, b, r, heq, hl, hb, hbehind⟩)
      · exact ⟨[], letter, before, rest, rfl, hword, hbefore, List.not_mem_nil⟩
      · refine ⟨letter :: behind, l, b, r, by rw [heq]; rfl, hl, hb, ?_⟩
        rw [List.mem_cons, not_or]
        exact ⟨hletter.symm, hbehind⟩
    · rintro ⟨behind, l, b, r, heq, hl, hb, hbehind⟩
      cases behind with
      | nil =>
        simp only [List.nil_append, List.cons.injEq] at heq
        obtain ⟨rfl, rfl, rfl, rfl, rfl⟩ := heq
        exact Or.inl ⟨⟨⟨hl, rfl⟩, rfl⟩, hb⟩
      | cons c behind =>
        rw [List.mem_cons, not_or] at hbehind
        obtain ⟨hhead, htail⟩ := List.cons.inj heq
        exact Or.inr ⟨hhead ▸ Ne.symm hbehind.1, behind, l, b, r, htail, hl, hb, hbehind.2⟩
  | case2 t hshort =>
    simp only [Bool.false_eq_true, false_iff]
    rintro ⟨behind, l, b, r, rfl, -⟩
    -- An end tag with something in front of it takes four code points, and here are fewer.
    match behind with
    | [] => exact hshort _ _ _ _ _ rfl
    | [_] => exact hshort _ _ _ _ _ rfl
    | [_, _] => exact hshort _ _ _ _ _ rfl
    | _ :: _ :: _ :: _ :: _ => exact hshort _ _ _ _ _ rfl
    | [_, _, _] => exact hshort _ _ _ _ _ rfl

/-- A line of one tag holds no end tag with something in front of it. -/
theorem isClosedInline_eq_false {body : Text} (hbody : ofChar '<' ∉ body) :
    isClosedInline (ofChar '<' :: body ++ [ofChar '>']) = false := by
  rw [Bool.eq_false_iff]
  intro h
  rw [isClosedInline, List.reverse_append, List.reverse_singleton, List.singleton_append,
    List.reverse_cons] at h
  simp only [beq_self_eq_true, Bool.true_and] at h
  obtain ⟨behind, letter, before, rest, heq, -⟩ := holdsEndTagBackwards_iff.mp h
  -- The only opening bracket is the last code point, so nothing comes after it.
  have hinit : body.reverse =
      (behind ++ letter :: ofChar '/' :: ofChar '<' :: before :: rest).dropLast := by
    rw [← heq, List.dropLast_concat]
  have hmem : ofChar '<' ∈ body.reverse := by
    rw [hinit, List.dropLast_append_of_ne_nil (by simp)]
    simp
  exact hbody (List.mem_reverse.mp hmem)

/-! ## Shapes -/

/-- Whether a text begins like a name. -/
def BeginsName (t : Text) : Prop := ∃ c s, t = c :: s ∧ c.isWord

theorem Tag.beginsName_inside (tag : Tag) : BeginsName tag.inside :=
  ⟨tag.name.first, _, by rw [Tag.inside, ElementName.text, List.cons_append, List.cons_append],
    tag.name.isWord_first⟩

theorem BeginsName.append {s : Text} (hs : BeginsName s) (t : Text) : BeginsName (s ++ t) := by
  obtain ⟨c, r, rfl, hc⟩ := hs
  exact ⟨c, r ++ t, rfl, hc⟩

/-- What begins with a name is no end tag. -/
theorem isClosing_eq_false {s : Text} (hs : BeginsName s) (t : Text) :
    isClosing (ofChar '<' :: s ++ t) = false := by
  obtain ⟨c, r, rfl, hc⟩ := hs
  have hslash : (c == ofChar '/') = false := beq_eq_false_iff_ne.mpr (ne_of_isWord hc).2.2
  cases h : r ++ t with
  | nil => simp [h, isClosing]
  | cons d u => simp [h, isClosing, hslash]

/-- What stands up to the first closing bracket, and what stands from there on. -/
theorem takeWhile_noBracket {s : Text} (hs : NoBracket s) (t : Text) :
    (s ++ ofChar '>' :: t).takeWhile (fun c => c != ofChar '>') = s ∧
      (s ++ ofChar '>' :: t).dropWhile (fun c => c != ofChar '>') = ofChar '>' :: t :=
  ⟨takeWhile_ne_append hs.2 t, dropWhile_ne_append hs.2 t⟩

/-- A line begins with a start tag just if this does not close itself and no line break follows. -/
theorem isOpening_iff {s : Text} (hname : BeginsName s) (hs : NoBracket s) (t : Text) :
    isOpening (ofChar '<' :: s ++ ofChar '>' :: t) ↔
      s.getLast? ≠ some (ofChar '/') ∧ ofChar '\n' ∉ t := by
  obtain ⟨c, r, rfl, hc⟩ := hname
  obtain ⟨htake, hdrop⟩ := takeWhile_noBracket hs t
  rw [List.cons_append] at htake hdrop
  have hfeed : ofChar '\n' ≠ ofChar '>' := by decide
  simp only [List.cons_append, isOpening, htake, hdrop, hc]
  simp [hfeed]

theorem lineShape_start (tag : Tag) : LineShape.of tag.start = .opening := by
  have hinline : isClosedInline tag.start = false := isClosedInline_eq_false tag.noBracket_inside.1
  have hclosing : isClosing tag.start = false := isClosing_eq_false tag.beginsName_inside _
  have hopening : isOpening tag.start = true :=
    (isOpening_iff tag.beginsName_inside tag.noBracket_inside []).mpr
      ⟨tag.getLast?_inside, List.not_mem_nil⟩
  simp [LineShape.of, hinline, hclosing, hopening]

theorem lineShape_alone (tag : Tag) : LineShape.of tag.alone = .other := by
  have hname : BeginsName (tag.inside ++ [ofChar '/']) := tag.beginsName_inside.append _
  have hbody : NoBracket (tag.inside ++ [ofChar '/']) :=
    tag.noBracket_inside.append (.cons (by decide) (by decide) noBracket_nil)
  have hinline : isClosedInline tag.alone = false := isClosedInline_eq_false hbody.1
  have hclosing : isClosing tag.alone = false := isClosing_eq_false hname _
  have hopening : isOpening tag.alone = false := by
    rw [Bool.eq_false_iff]
    intro h
    exact ((isOpening_iff hname hbody []).mp h).1 List.getLast?_concat
  simp [LineShape.of, hinline, hclosing, hopening]

theorem lineShape_stop (tag : Tag) (space : Space) :
    LineShape.of (tag.stop space) = .closing := by
  have hbody : NoBracket (ofChar '/' :: tag.name.text ++ space.1) :=
    (NoBracket.cons (by decide) (by decide) tag.name.noBracket).append
      (noBracket_of_isBlank space.2)
  have hinline : isClosedInline (tag.stop space) = false := isClosedInline_eq_false hbody.1
  have hclosing : isClosing (tag.stop space) = true := by
    simp [Tag.stop, ElementName.text, isClosing, tag.name.isWord_first]
  simp [LineShape.of, hinline, hclosing]

/-- **An element of text on a line of its own opens and closes nothing.**  If its text ends in a
line break then the end tag is not found, but neither does the line count as a start tag. -/
theorem lineShape_textLine (tag : Tag) (content : Content) (space : Space) :
    LineShape.of (textLine tag content space) = .closedInline ∨
      LineShape.of (textLine tag content space) = .other := by
  have hline : textLine tag content space =
      ofChar '<' :: tag.inside ++ ofChar '>' :: (content.text ++ tag.stop space) := by
    simp [textLine, Tag.start]
  have hne : content.text ≠ [] := by
    intro h
    have hvisible := content.visible
    rw [h] at hvisible
    exact absurd hvisible (by simp)
  obtain ⟨before, last, hcontent⟩ : ∃ before last, content.text = before ++ [last] :=
    ⟨_, _, (List.dropLast_append_getLast hne).symm⟩
  by_cases hfeed : last = ofChar '\n'
  · have hclosing : isClosing (textLine tag content space) = false := by
      rw [hline]
      exact isClosing_eq_false tag.beginsName_inside _
    have hopening : isOpening (textLine tag content space) = false := by
      rw [Bool.eq_false_iff, hline]
      intro h
      have hafter := ((isOpening_iff tag.beginsName_inside tag.noBracket_inside _).mp h).2
      rw [hcontent, hfeed] at hafter
      exact hafter (by simp)
    simp only [LineShape.of, hclosing, hopening]
    split
    · exact Or.inl rfl
    · exact Or.inr rfl
  · have hinline : isClosedInline (textLine tag content space) = true := by
      have hreverse : (textLine tag content space).reverse = ofChar '>' ::
          ((space.1.reverse ++ tag.name.rest.reverse) ++ tag.name.first :: ofChar '/' ::
            ofChar '<' :: last :: (tag.start ++ before).reverse) := by
        simp [textLine, Tag.stop, ElementName.text, hcontent]
      rw [isClosedInline, hreverse]
      simp only [beq_self_eq_true, Bool.true_and]
      refine holdsEndTagBackwards_iff.mpr ⟨_, _, _, _, rfl, tag.name.isWord_first, hfeed, ?_⟩
      simp [(noBracket_of_isBlank space.2).2, tag.name.noBracket_rest.2]
    exact Or.inl (if_pos hinline)

end StructuredText.Xml
