/-
# Tags of XML on lines of their own

The lines that are one legal tag, with closing brackets and slashes in the values of attributes,
and what they do to the depth.  A line is read up to its first closing bracket, which is the end of
the tag unless a value holds one.

* `TagLine` is a line of one tag, `TagLine.ownDepth` and `TagLine.depthAfter` are the depths that it
  has and leaves by the definition of XML;
* `LegalTag.SeemsToEnd` tells where a tag seems to end inside a value, and `TagLine.Misread` which
  tags are taken for another kind therefore;
* `indentLines_tagLine` is the law of the depth, in any list of lines.
-/
import Mathlib
import StructuredText.Proofs.Xml.Nesting
import StructuredText.Proofs.Xml.Regaps

namespace StructuredText.Xml

open Text
open CodePoint (ofChar)

/-! ## Legal tags -/

/-- Blanks of XML, or nothing at all. -/
abbrev XmlSpace := { t : Text // t.all isXmlBlank }

/-- A name, in which a colon counts as a letter. -/
structure LegalName where
  first : CodePoint
  rest : Text
  isStart_first : isColonNameStart first
  isPart_rest : rest.all isColonNamePart

/-- The text of a name. -/
def LegalName.text (n : LegalName) : Text := n.first :: n.rest

/-- A name that begins with a letter or the low line. -/
abbrev WordName := { n : LegalName // n.first.isWord }

/-- An attribute, with the blanks in front of it and around its equals sign.  What the references
in its value stand for is of no account. -/
structure LegalAttribute where
  space : XmlSpace
  name : LegalName
  beforeEquals : XmlSpace
  afterEquals : XmlSpace
  quote : CodePoint
  value : Text
  spaced : space.1 ≠ []
  isQuote : quote = ofChar '"' ∨ quote = ofChar '\''
  noOpening_value : ofChar '<' ∉ value
  noQuote_value : quote ∉ value

/-- An attribute up to the quote that opens its value. -/
def LegalAttribute.opening (a : LegalAttribute) : Text :=
  a.space.1 ++ a.name.text ++ a.beforeEquals.1 ++ ofChar '=' :: a.afterEquals.1 ++ [a.quote]

/-- The text of an attribute. -/
def LegalAttribute.text (a : LegalAttribute) : Text := a.opening ++ a.value ++ [a.quote]

/-- What a start tag or an empty-element tag holds. -/
structure LegalTag where
  name : WordName
  attributes : List LegalAttribute
  /-- The blanks in front of the closing bracket or the slash. -/
  space : XmlSpace

namespace LegalTag

/-- The text between the brackets. -/
def inside (tag : LegalTag) : Text :=
  tag.name.1.text ++ tag.attributes.flatMap LegalAttribute.text ++ tag.space.1

/-- The start tag. -/
def start (tag : LegalTag) : Text := ofChar '<' :: tag.inside ++ [ofChar '>']

/-- The empty-element tag. -/
def alone (tag : LegalTag) : Text := ofChar '<' :: (tag.inside ++ [ofChar '/']) ++ [ofChar '>']

/-- The tag seems to end inside a value: no value in front of this one holds a closing bracket,
`front` stands in this value ahead of its first closing bracket, and `back` is what the tag holds
behind that bracket. -/
def SeemsToEnd (tag : LegalTag) (front back : Text) : Prop :=
  ∃ (passed left : List LegalAttribute) (a : LegalAttribute) (others : Text),
    tag.attributes = passed ++ a :: left ∧ (∀ b ∈ passed, ofChar '>' ∉ b.value) ∧
      a.value = front ++ ofChar '>' :: others ∧ ofChar '>' ∉ front ∧
      back = others ++ [a.quote] ++ left.flatMap LegalAttribute.text ++ tag.space.1

end LegalTag

/-- A line that is one tag. -/
inductive TagLine
  | start (tag : LegalTag)
  | alone (tag : LegalTag)
  | stop (name : WordName) (space : XmlSpace)

namespace TagLine

/-- The text of the line. -/
def text : TagLine → Text
  | start tag => tag.start
  | alone tag => tag.alone
  | stop name space => ofChar '<' :: (ofChar '/' :: name.1.text ++ space.1) ++ [ofChar '>']

/-- The depth of the line after some depth.  An end tag stands one level higher, if there is one. -/
def ownDepth (depth : ℕ) : TagLine → ℕ
  | start _ => depth
  | alone _ => depth
  | stop _ _ => depth - 1

/-- The depth that the line leaves. -/
def depthAfter (depth : ℕ) : TagLine → ℕ
  | start _ => depth + 1
  | alone _ => depth
  | stop _ _ => depth - 1

/-- The depth that the line leaves if it is taken for the other kind of tag with attributes. -/
def mistakenDepth (depth : ℕ) : TagLine → ℕ
  | start _ => depth
  | alone _ => depth + 1
  | stop _ _ => depth - 1

/-- The line seems to end inside a value, and is taken for another kind of tag there: a start tag
because a slash stands in front of the closing bracket or a line break somewhere behind it, an
empty-element tag because neither does. -/
def Misread : TagLine → Prop
  | start tag => ∃ front back, tag.SeemsToEnd front back ∧
      (front.getLast? = some (ofChar '/') ∨ ofChar '\n' ∈ back)
  | alone tag => ∃ front back, tag.SeemsToEnd front back ∧
      front.getLast? ≠ some (ofChar '/') ∧ ofChar '\n' ∉ back
  | stop _ _ => False

end TagLine

/-! ## Tags without closing brackets in their values -/

/-- No mark of a tag is part of a name. -/
theorem ne_of_isColonNamePart {c : CodePoint} (hc : isColonNamePart c) :
    c ≠ ofChar '<' ∧ c ≠ ofChar '>' ∧ c ≠ ofChar '/' := by
  refine ⟨?_, ?_, ?_⟩ <;> rintro rfl <;> exact absurd hc (by decide)

theorem isColonNamePart_of_isColonNameStart {c : CodePoint} (hc : isColonNameStart c) :
    isColonNamePart c := by
  simp only [isColonNameStart, Bool.or_eq_true] at hc
  rcases hc with hc | hc <;> simp [isColonNamePart, isNamePart, hc]

theorem LegalName.ne_of_mem {n : LegalName} {c : CodePoint} (hc : c ∈ n.text) :
    c ≠ ofChar '<' ∧ c ≠ ofChar '>' ∧ c ≠ ofChar '/' := by
  rcases List.mem_cons.mp hc with rfl | hc
  · exact ne_of_isColonNamePart (isColonNamePart_of_isColonNameStart n.isStart_first)
  · exact ne_of_isColonNamePart (List.all_eq_true.mp n.isPart_rest c hc)

theorem LegalName.noBracket (n : LegalName) : NoBracket n.text :=
  ⟨fun h => (ne_of_mem h).1 rfl, fun h => (ne_of_mem h).2.1 rfl⟩

theorem isBlank_xmlSpace (w : XmlSpace) : isBlank w.1 := isBlank_of_all_isXmlBlank w.2

/-- The name of an element is one of those in tags without brackets. -/
def WordName.elementName (n : WordName) : ElementName where
  first := n.1.first
  rest := n.1.rest
  isWord_first := n.2
  noBracket_rest :=
    ⟨fun h => (LegalName.ne_of_mem (List.mem_cons_of_mem _ h)).1 rfl,
      fun h => (LegalName.ne_of_mem (List.mem_cons_of_mem _ h)).2.1 rfl⟩
  noSlash_rest := fun h => (LegalName.ne_of_mem (List.mem_cons_of_mem _ h)).2.2 rfl

theorem LegalAttribute.exists_written {a : LegalAttribute} (h : ofChar '>' ∉ a.value) :
    ∃ b : WrittenAttribute, b.text = a.text := by
  refine ⟨⟨⟨_, isBlank_xmlSpace a.space⟩, a.name.text, ⟨_, isBlank_xmlSpace a.beforeEquals⟩,
    ⟨_, isBlank_xmlSpace a.afterEquals⟩, a.quote, a.value, a.isQuote, a.name.noBracket,
    ⟨a.noOpening_value, h⟩⟩, ?_⟩
  simp [WrittenAttribute.text, LegalAttribute.text, LegalAttribute.opening]

/-- A tag whose values hold no closing bracket is a tag without brackets. -/
theorem LegalTag.exists_tag {tag : LegalTag} (h : ∀ a ∈ tag.attributes, ofChar '>' ∉ a.value) :
    ∃ plain : Tag, plain.inside = tag.inside := by
  have hattributes : ∃ written : List WrittenAttribute,
      written.flatMap WrittenAttribute.text = tag.attributes.flatMap LegalAttribute.text := by
    generalize tag.attributes = attributes at h
    induction attributes with
    | nil => exact ⟨[], rfl⟩
    | cons a rest ih =>
      obtain ⟨b, hb⟩ := LegalAttribute.exists_written (h a List.mem_cons_self)
      obtain ⟨written, hwritten⟩ := ih fun d hd => h d (List.mem_cons_of_mem a hd)
      exact ⟨b :: written, by rw [List.flatMap_cons, List.flatMap_cons, hb, hwritten]⟩
  obtain ⟨written, hwritten⟩ := hattributes
  refine ⟨⟨tag.name.elementName, written, ⟨_, isBlank_xmlSpace tag.space⟩⟩, ?_⟩
  rw [Tag.inside, hwritten]
  rfl

/-! ## Tags that seem to end early -/

/-- The attribute with another value, which holds nothing new. -/
def LegalAttribute.withValue (a : LegalAttribute) (value : Text) (h : value ⊆ a.value) :
    LegalAttribute :=
  { a with
    value := value
    noOpening_value := fun hmem => a.noOpening_value (h hmem)
    noQuote_value := fun hmem => a.noQuote_value (h hmem) }

namespace LegalTag

variable {tag : LegalTag} {front back : Text}

/-- Every value is free of closing brackets, or one of them is the first that is not. -/
theorem noClosing_or_seemsToEnd (tag : LegalTag) :
    (∀ a ∈ tag.attributes, ofChar '>' ∉ a.value) ∨ ∃ front back, tag.SeemsToEnd front back := by
  cases hfind : tag.attributes.find? fun a => decide (ofChar '>' ∈ a.value) with
  | none =>
    left
    intro a ha
    simpa using List.find?_eq_none.mp hfind a ha
  | some a =>
    obtain ⟨ha, passed, left, hsplit, hpassed⟩ := List.find?_eq_some_iff_append.mp hfind
    obtain ⟨front, others, hvalue, hfront⟩ := List.eq_append_cons_of_mem (of_decide_eq_true ha)
    refine Or.inr ⟨front, _, passed, left, a, others, hsplit, ?_, hvalue, hfront, rfl⟩
    intro b hb
    simpa using hpassed b hb

theorem SeemsToEnd.exists_mem (h : tag.SeemsToEnd front back) :
    ∃ a ∈ tag.attributes, ofChar '>' ∈ a.value := by
  obtain ⟨passed, left, a, others, hsplit, -, hvalue, -, -⟩ := h
  exact ⟨a, by simp [hsplit], by simp [hvalue]⟩

/-- What stands ahead of the first closing bracket is a tag of its own, if the value is closed
there. -/
theorem SeemsToEnd.exists_plain (h : tag.SeemsToEnd front back) :
    ∃ (plain : Tag) (s : Text) (quote : CodePoint), plain.inside = s ++ front ++ [quote] ∧
      tag.inside = s ++ front ++ ofChar '>' :: back ∧ BeginsName s ∧ s.getLast? = some quote ∧
      quote ≠ ofChar '/' := by
  obtain ⟨passed, left, a, others, hsplit, hpassed, hvalue, hfront, rfl⟩ := h
  have hsub : front ⊆ a.value := by
    rw [hvalue]
    exact List.subset_append_left _ _
  have hcut : ∀ b ∈ passed ++ [a.withValue front hsub], ofChar '>' ∉ b.value := by
    intro b hb
    rcases List.mem_append.mp hb with hb | hb
    · exact hpassed b hb
    · rw [List.mem_singleton.mp hb]
      exact hfront
  obtain ⟨plain, hplain⟩ :=
    @exists_tag ⟨tag.name, passed ++ [a.withValue front hsub], ⟨[], rfl⟩⟩ hcut
  refine ⟨plain, tag.name.1.text ++ passed.flatMap LegalAttribute.text ++ a.opening, a.quote,
    ?_, ?_, ⟨tag.name.1.first, _, rfl, tag.name.2⟩, ?_, ?_⟩
  · rw [hplain]
    simp [inside, LegalAttribute.text, LegalAttribute.opening, LegalAttribute.withValue]
  · simp [inside, hsplit, LegalAttribute.text, hvalue]
  · rw [LegalAttribute.opening, ← List.append_assoc, List.getLast?_concat]
  · rcases a.isQuote with hquote | hquote <;> rw [hquote] <;> decide

/-- A line that seems to end early begins with a start tag just if no slash stands in front of the
closing bracket and no line break behind it. -/
theorem SeemsToEnd.isOpening_iff (h : tag.SeemsToEnd front back) (t : Text) :
    isOpening (ofChar '<' :: tag.inside ++ t) ↔
      front.getLast? ≠ some (ofChar '/') ∧ ofChar '\n' ∉ back ++ t := by
  obtain ⟨plain, s, quote, hplain, hinside, hname, hlast, hquote⟩ := h.exists_plain
  have hbracket : NoBracket (s ++ front) := by
    have hall := plain.noBracket_inside
    rw [hplain] at hall
    exact ⟨fun h => hall.1 (List.mem_append_left _ h), fun h => hall.2 (List.mem_append_left _ h)⟩
  have hslash : (s ++ front).getLast? = some (ofChar '/') ↔
      front.getLast? = some (ofChar '/') := by
    rw [List.getLast?_append, hlast, Option.or_eq_some_iff, Option.some.injEq]
    simp [hquote]
  have hline : ofChar '<' :: tag.inside ++ t =
      ofChar '<' :: (s ++ front) ++ ofChar '>' :: (back ++ t) := by
    simp [hinside]
  rw [hline, Xml.isOpening_iff (hname.append front) hbracket, ne_eq, hslash]

end LegalTag

/-! ## Shapes -/

theorem LegalAttribute.noOpening (a : LegalAttribute) : ofChar '<' ∉ a.text := by
  have hspace : ∀ w : XmlSpace, ofChar '<' ∉ w.1 := fun w =>
    (noBracket_of_isBlank (isBlank_xmlSpace w)).1
  have hquote : ofChar '<' ≠ a.quote := by
    rcases a.isQuote with h | h <;> rw [h] <;> decide
  have hequals : ofChar '<' ≠ ofChar '=' := by decide
  simp [text, opening, hspace, a.name.noBracket.1, a.noOpening_value, hquote, hequals]

theorem LegalTag.noOpening_inside (tag : LegalTag) : ofChar '<' ∉ tag.inside := by
  have hspace := (noBracket_of_isBlank (isBlank_xmlSpace tag.space)).1
  simp [inside, tag.name.1.noBracket.1, LegalAttribute.noOpening, hspace]

theorem LegalTag.beginsName_inside (tag : LegalTag) : BeginsName tag.inside :=
  ⟨tag.name.1.first, _, rfl, tag.name.2⟩

/-- The shape of a tag that seems to end early is told by what stands on both sides of the closing
bracket, whether or not the tag closes itself. -/
theorem LegalTag.SeemsToEnd.lineShape {tag : LegalTag} {front back : Text}
    (h : tag.SeemsToEnd front back) {t : Text} (ht : ofChar '<' ∉ t) (hfeed : ofChar '\n' ∉ t) :
    LineShape.of (ofChar '<' :: (tag.inside ++ t) ++ [ofChar '>']) =
      if front.getLast? ≠ some (ofChar '/') ∧ ofChar '\n' ∉ back then .opening else .other := by
  have hbody : ofChar '<' ∉ tag.inside ++ t := by
    rw [List.mem_append, not_or]
    exact ⟨tag.noOpening_inside, ht⟩
  have hclosing := isClosing_eq_false (tag.beginsName_inside.append t) [ofChar '>']
  have hback : ofChar '\n' ∉ back ++ (t ++ [ofChar '>']) ↔ ofChar '\n' ∉ back := by
    have hbracket : ofChar '\n' ≠ ofChar '>' := by decide
    simp [hfeed, hbracket]
  have hopening : isOpening (ofChar '<' :: (tag.inside ++ t) ++ [ofChar '>']) ↔
      front.getLast? ≠ some (ofChar '/') ∧ ofChar '\n' ∉ back := by
    rw [← hback, ← h.isOpening_iff]
    simp
  rw [LineShape.of, isClosedInline_eq_false hbody, hclosing]
  simp only [Bool.false_eq_true, if_false, hopening]

/-- A start tag is taken for one or, if it is misread, for nothing. -/
theorem lineShape_legalStart (tag : LegalTag) :
    LineShape.of tag.start = .opening ∧ ¬ (TagLine.start tag).Misread ∨
      LineShape.of tag.start = .other ∧ (TagLine.start tag).Misread := by
  have hshape : ∀ {front back}, tag.SeemsToEnd front back → LineShape.of tag.start =
      if front.getLast? ≠ some (ofChar '/') ∧ ofChar '\n' ∉ back then .opening else .other := by
    intro front back hends
    rw [← hends.lineShape (t := []) (by simp) (by simp), List.append_nil, LegalTag.start]
  by_cases hwrong : (TagLine.start tag).Misread
  · obtain ⟨front, back, hends, hcut⟩ := id hwrong
    refine Or.inr ⟨(hshape hends).trans (if_neg ?_), hwrong⟩
    rintro ⟨hslash, hback⟩
    exact hcut.elim hslash hback
  · refine Or.inl ⟨?_, hwrong⟩
    rcases tag.noClosing_or_seemsToEnd with hnone | ⟨front, back, hends⟩
    · obtain ⟨plain, hplain⟩ := LegalTag.exists_tag hnone
      have hstart := lineShape_start plain
      rwa [Tag.start, hplain] at hstart
    · refine (hshape hends).trans (if_pos ⟨fun h => ?_, fun h => ?_⟩)
      · exact hwrong ⟨front, back, hends, Or.inl h⟩
      · exact hwrong ⟨front, back, hends, Or.inr h⟩

/-- An empty-element tag is taken for nothing or, if it is misread, for a start tag. -/
theorem lineShape_legalAlone (tag : LegalTag) :
    LineShape.of tag.alone = .other ∧ ¬ (TagLine.alone tag).Misread ∨
      LineShape.of tag.alone = .opening ∧ (TagLine.alone tag).Misread := by
  have hshape : ∀ {front back}, tag.SeemsToEnd front back → LineShape.of tag.alone =
      if front.getLast? ≠ some (ofChar '/') ∧ ofChar '\n' ∉ back then .opening else .other :=
    fun hends => hends.lineShape (by decide) (by decide)
  by_cases hwrong : (TagLine.alone tag).Misread
  · obtain ⟨front, back, hends, hcut⟩ := id hwrong
    exact Or.inr ⟨(hshape hends).trans (if_pos hcut), hwrong⟩
  · refine Or.inl ⟨?_, hwrong⟩
    rcases tag.noClosing_or_seemsToEnd with hnone | ⟨front, back, hends⟩
    · obtain ⟨plain, hplain⟩ := LegalTag.exists_tag hnone
      have halone := lineShape_alone plain
      rwa [Tag.alone, hplain] at halone
    · exact (hshape hends).trans (if_neg fun h => hwrong ⟨front, back, hends, h⟩)

/-- An end tag is always taken for one. -/
theorem lineShape_legalStop (name : WordName) (space : XmlSpace) :
    LineShape.of (TagLine.stop name space).text = .closing :=
  lineShape_stop ⟨name.elementName, [], ⟨[], rfl⟩⟩ ⟨space.1, isBlank_xmlSpace space⟩

/-! ## Depth -/

/-- Only a closing bracket in a value makes a tag misread. -/
theorem LegalTag.not_misread {tag : LegalTag} (h : ∀ a ∈ tag.attributes, ofChar '>' ∉ a.value) :
    ¬ (TagLine.start tag).Misread ∧ ¬ (TagLine.alone tag).Misread := by
  have hends : ∀ {front back}, ¬ tag.SeemsToEnd front back := by
    intro front back hends
    obtain ⟨a, ha, hvalue⟩ := hends.exists_mem
    exact h a ha hvalue
  constructor <;> rintro ⟨front, back, hseems, -⟩ <;> exact hends hseems

/-- What one tag does to the depth. -/
theorem finalDepth_tagLine (line : TagLine) (depth : ℕ) :
    withDepths depth [line.text] = [(line.ownDepth depth, line.text)] ∧
      (finalDepth depth [line.text] = line.depthAfter depth ↔ ¬ line.Misread) ∧
      (line.Misread → finalDepth depth [line.text] = line.mistakenDepth depth) := by
  cases line with
  | start tag =>
    rcases lineShape_legalStart tag with ⟨hshape, hread⟩ | ⟨hshape, hread⟩ <;>
      simp [TagLine.text, TagLine.ownDepth, TagLine.depthAfter, TagLine.mistakenDepth, withDepths,
        finalDepth, hshape, hread, LineShape.depthBefore, LineShape.depthAfter]
  | alone tag =>
    rcases lineShape_legalAlone tag with ⟨hshape, hread⟩ | ⟨hshape, hread⟩ <;>
      simp [TagLine.text, TagLine.ownDepth, TagLine.depthAfter, TagLine.mistakenDepth, withDepths,
        finalDepth, hshape, hread, LineShape.depthBefore, LineShape.depthAfter]
  | stop name space =>
    have hshape := lineShape_legalStop name space
    simp [TagLine.ownDepth, TagLine.depthAfter, TagLine.Misread, withDepths, finalDepth, hshape,
      LineShape.depthBefore, LineShape.depthAfter]

/-- **A tag on a line of its own moves the depth as XML defines it, unless it is misread.**  In any
list of lines the tag stands at its own depth.  The lines behind it are laid out from the depth that
it leaves, which is the right one if and only if the tag does not seem to end inside a value and to
be of the other kind there; then it is the depth that this other kind leaves. -/
theorem indentLines_tagLine (line : TagLine) (before after : List Text) (unit : Text) :
    indentLines (before ++ line.text :: after) unit =
        (unlines ((withDepths 0 before ++ (line.ownDepth (finalDepth 0 before), line.text) ::
          withDepths (finalDepth 0 (before ++ [line.text])) after).map (indentedLine unit))).trim ∧
      (finalDepth 0 (before ++ [line.text]) = line.depthAfter (finalDepth 0 before) ↔
        ¬ line.Misread) ∧
      (line.Misread →
        finalDepth 0 (before ++ [line.text]) = line.mistakenDepth (finalDepth 0 before)) := by
  obtain ⟨hown, hdepth⟩ := finalDepth_tagLine line (finalDepth 0 before)
  rw [finalDepth_append]
  refine ⟨?_, hdepth⟩
  have hlines : withDepths 0 (before ++ line.text :: after) =
      withDepths 0 before ++ (line.ownDepth (finalDepth 0 before), line.text) ::
        withDepths (finalDepth (finalDepth 0 before) [line.text]) after := by
    rw [← List.singleton_append, withDepths_append, withDepths_append, hown, List.singleton_append]
  rw [indentLines, placeLines, hlines]
  rfl

/-- The attribute whose value is a closing bracket. -/
def bracketAttribute : LegalAttribute where
  space := ⟨" ", by decide⟩
  name := ⟨ofChar 'b', [], by decide, rfl⟩
  beforeEquals := ⟨[], rfl⟩
  afterEquals := ⟨[], rfl⟩
  quote := ofChar '"'
  value := ">"
  spaced := by decide
  isQuote := Or.inl rfl
  noOpening_value := by decide
  noQuote_value := by decide

/-- An empty-element tag with this attribute raises the depth. -/
theorem indentLines_tagLine_raised :
    ∃ tag : LegalTag, (TagLine.alone tag).text = "<a b=\">\"/>" ∧
      indentLines ["<a b=\">\"/>", "<c/>"] "  " = "<a b=\">\"/>\n  <c/>" ∧
      finalDepth 0 [(TagLine.alone tag).text] ≠ (TagLine.alone tag).depthAfter 0 :=
  ⟨⟨⟨⟨ofChar 'a', [], by decide, rfl⟩, by decide⟩, [bracketAttribute], ⟨[], rfl⟩⟩, by decide,
    by decide, by decide⟩

end StructuredText.Xml
