/-
# Indentation and nesting

An element that holds either text or other elements, written with any blanks between its tags, is
laid out by its nesting: every tag stands on a line of its own, except that an element of text is
one line, and it is indented as often as there are elements open around it.

* `Element` is a tree of such elements, `Element.Written` relates it to its texts and `Element.lines`
  to its lines;
* `Nests` is what one line or some lines do to the depth, with the step lemmas `Nests.append` and
  `Nests.enclose`;
* `indentLines_written` is the law of layout.
-/
import Mathlib
import StructuredText.Proofs.Xml.SpacedLines

namespace StructuredText.Xml

open Text
open CodePoint (ofChar)

/-! ## Elements -/

/-- An element, with the blanks in its end tag if it has one. -/
inductive Element
  /-- An empty-element tag. -/
  | empty (tag : Tag)
  /-- An element that holds nothing but text. -/
  | text (tag : Tag) (content : Content) (space : Space)
  /-- An element that holds nothing but elements, perhaps none. -/
  | parent (tag : Tag) (children : List Element) (space : Space)

mutual

/-- The lines of an element that stands at some depth, each with its own depth. -/
def Element.lines (depth : ℕ) : Element → List (ℕ × Text)
  | .empty tag => [(depth, tag.alone)]
  | .text tag content space => [(depth, textLine tag content space)]
  | .parent tag children space =>
    (depth, tag.start) :: (linesOfAll (depth + 1) children ++ [(depth, tag.stop space)])
termination_by structural e => e

/-- The lines of some elements that stand at some depth. -/
def linesOfAll (depth : ℕ) : List Element → List (ℕ × Text)
  | [] => []
  | e :: rest => e.lines depth ++ linesOfAll depth rest
termination_by structural elements => elements

end

mutual

/-- The texts of an element. -/
inductive Element.Written : Element → Text → Prop
  | empty (tag : Tag) : Element.Written (.empty tag) tag.alone
  | text (tag : Tag) (content : Content) (space : Space) :
      Element.Written (.text tag content space) (textLine tag content space)
  | parent (tag : Tag) {children : List Element} {t : Text} (space : Space)
      (inside : AllWritten children t) :
      Element.Written (.parent tag children space) (tag.start ++ t ++ tag.stop space)

/-- The texts of some elements, with blanks between them, in front of the first one and behind the
last one. -/
inductive AllWritten : List Element → Text → Prop
  | nil (gap : Space) : AllWritten [] gap.1
  | cons (gap : Space) {e : Element} {rest : List Element} {t u : Text} (first : e.Written t)
      (others : AllWritten rest u) : AllWritten (e :: rest) (gap.1 ++ t ++ u)

end

/-! ## Depth -/

/-- The depth after some lines, from some depth on. -/
def finalDepth (depth : ℕ) : List Text → ℕ
  | [] => depth
  | line :: rest =>
    let shape := LineShape.of line
    finalDepth (shape.depthAfter (shape.depthBefore depth)) rest

/-- No end tag is met at depth zero, so none is surplus. -/
def NoSurplus (depth : ℕ) : List Text → Prop
  | [] => True
  | line :: rest =>
    let shape := LineShape.of line
    (shape = .closing → 0 < depth) ∧ NoSurplus (shape.depthAfter (shape.depthBefore depth)) rest

theorem finalDepth_append (depth : ℕ) (lines lines' : List Text) :
    finalDepth depth (lines ++ lines') = finalDepth (finalDepth depth lines) lines' := by
  induction lines generalizing depth with
  | nil => rfl
  | cons line lines ih => exact ih _

theorem noSurplus_append (depth : ℕ) (lines lines' : List Text) :
    NoSurplus depth (lines ++ lines') ↔
      NoSurplus depth lines ∧ NoSurplus (finalDepth depth lines) lines' := by
  induction lines generalizing depth with
  | nil => simp [NoSurplus, finalDepth]
  | cons line lines ih => simp only [List.cons_append, NoSurplus, finalDepth, ih, and_assoc]

theorem withDepths_append (depth : ℕ) (lines lines' : List Text) :
    withDepths depth (lines ++ lines') =
      withDepths depth lines ++ withDepths (finalDepth depth lines) lines' := by
  induction lines generalizing depth with
  | nil => rfl
  | cons line lines ih => simp only [List.cons_append, withDepths, finalDepth, ih]

/-- Lines that are placed at the depths that are given with them, without a surplus end tag, and
that lead back to the depth at which they begin. -/
structure Nests (depth : ℕ) (lines : List (ℕ × Text)) : Prop where
  placed : withDepths depth (lines.map Prod.snd) = lines
  noSurplus : NoSurplus depth (lines.map Prod.snd)
  settled : finalDepth depth (lines.map Prod.snd) = depth

theorem nests_nil (depth : ℕ) : Nests depth [] := ⟨rfl, trivial, rfl⟩

theorem Nests.append {depth : ℕ} {lines lines' : List (ℕ × Text)} (h : Nests depth lines)
    (h' : Nests depth lines') : Nests depth (lines ++ lines') where
  placed := by rw [List.map_append, withDepths_append, h.placed, h.settled, h'.placed]
  noSurplus := by
    rw [List.map_append, noSurplus_append, h.settled]
    exact ⟨h.noSurplus, h'.noSurplus⟩
  settled := by rw [List.map_append, finalDepth_append, h.settled, h'.settled]

/-- A line that opens and closes nothing. -/
theorem nests_singleton {line : Text} (depth : ℕ)
    (h : LineShape.of line = .closedInline ∨ LineShape.of line = .other) :
    Nests depth [(depth, line)] := by
  rcases h with h | h <;>
  exact ⟨by simp [withDepths, h, LineShape.depthBefore], by simp [NoSurplus, h],
    by simp [finalDepth, h, LineShape.depthBefore, LineShape.depthAfter]⟩

/-- A start tag and an end tag around lines that stand one level deeper. -/
theorem Nests.enclose {depth : ℕ} {lines : List (ℕ × Text)} {start stop : Text}
    (hstart : LineShape.of start = .opening) (hstop : LineShape.of stop = .closing)
    (h : Nests (depth + 1) lines) :
    Nests depth ((depth, start) :: (lines ++ [(depth, stop)])) := by
  have hbefore : LineShape.opening.depthAfter (LineShape.opening.depthBefore depth) = depth + 1 :=
    rfl
  refine ⟨?_, ?_, ?_⟩
  · rw [List.map_cons, List.map_append, withDepths, hstart, hbefore, withDepths_append, h.placed,
      h.settled]
    simp [withDepths, hstop, LineShape.depthBefore]
  · rw [List.map_cons, List.map_append, NoSurplus, hstart, hbefore, noSurplus_append, h.settled]
    exact ⟨by simp, h.noSurplus, by simp [NoSurplus]⟩
  · rw [List.map_cons, List.map_append, finalDepth, hstart, hbefore, finalDepth_append, h.settled]
    simp [finalDepth, hstop, LineShape.depthBefore, LineShape.depthAfter]

mutual

/-- The lines of an element nest. -/
theorem Element.nests (depth : ℕ) : ∀ e : Element, Nests depth (e.lines depth)
  | .empty tag => nests_singleton depth (Or.inr (lineShape_alone tag))
  | .text tag content space => nests_singleton depth (lineShape_textLine tag content space)
  | .parent tag children space =>
    (allNest (depth + 1) children).enclose (lineShape_start tag) (lineShape_stop tag space)

/-- The lines of some elements nest. -/
theorem allNest (depth : ℕ) : ∀ elements : List Element, Nests depth (linesOfAll depth elements)
  | [] => nests_nil depth
  | e :: rest => (e.nests depth).append (allNest depth rest)

end

/-! ## Laying out -/

mutual

/-- The text of an element is its lines with blanks between them. -/
theorem Element.Written.spaced (depth : ℕ) : ∀ {e : Element} {t : Text}, e.Written t →
    Spaced ((e.lines depth).map Prod.snd) t
  | .empty tag, _, .empty _ => .singleton (isLine_alone tag)
  | .text tag content space, _, .text _ _ _ => .singleton (isLine_textLine tag content space)
  | .parent tag children space, _, .parent _ _ inside => by
    have hall := AllWritten.spaced (depth + 1) inside
    have hlines := ((Spaced.singleton (isLine_start tag)).append hall).append
      (.singleton (isLine_stop tag space))
    rw [Element.lines]
    simpa using hlines

/-- The text of some elements is their lines with blanks between them. -/
theorem AllWritten.spaced (depth : ℕ) : ∀ {elements : List Element} {t : Text},
    AllWritten elements t → Spaced ((linesOfAll depth elements).map Prod.snd) t
  | [], _, .nil gap => .nil gap
  | _ :: _, _, .cons gap first others => by
    have hfirst := (Element.Written.spaced depth first).blanks_append gap.2
    have hall := hfirst.append (AllWritten.spaced depth others)
    rw [linesOfAll, List.map_append]
    exact hall

end

/-- The first line of an element stands at the depth of the element. -/
theorem Element.exists_lines_cons (depth : ℕ) (e : Element) :
    ∃ line rest, e.lines depth = (depth, line) :: rest := by
  cases e <;> exact ⟨_, _, rfl⟩

/-- A line behind as many units as its depth. -/
def indentedLine (unit : Text) (line : ℕ × Text) : Text := times line.1 unit ++ line.2

/-- Nothing is trimmed off the lines of an element that stands at depth zero. -/
theorem trim_indentedLines (root : Element) (unit : Text)
    (hlines : ∀ line ∈ (root.lines 0).map Prod.snd, IsLine line) :
    (unlines ((root.lines 0).map (indentedLine unit))).trim =
      unlines ((root.lines 0).map (indentedLine unit)) := by
  obtain ⟨first, rest, hroot⟩ := root.exists_lines_cons 0
  apply trim_of_brackets
  · obtain ⟨r, rfl⟩ := List.head?_eq_some_iff.mp (hlines first (by simp [hroot])).opens
    have hfirst : indentedLine unit (0, ofChar '<' :: r) = ofChar '<' :: r := by
      simp [indentedLine, times]
    rw [hroot, List.map_cons, hfirst, head?_unlines]
  · obtain ⟨before, ⟨depth, last⟩, hlast⟩ : ∃ before last, root.lines 0 = before ++ [last] :=
      ⟨_, _, (List.dropLast_append_getLast (by simp [hroot])).symm⟩
    obtain ⟨q, rfl⟩ := List.getLast?_eq_some_iff.mp (hlines last (by simp [hlast])).closes
    rw [hlast, List.map_append, List.map_singleton, indentedLine, ← List.append_assoc,
      getLast?_unlines]

/-- **Indentation is nesting.**  However an element is written, it is cut into its tags and elements
of text, in their order; each of them is kept as it is and indented as often as there are elements
open around it.  No end tag is surplus on the way, and at the end everything is closed. -/
theorem indentLines_written {root : Element} {t : Text} (h : root.Written t) (unit : Text) :
    splitTagLines t = (root.lines 0).map Prod.snd ∧
      indentLines (splitTagLines t) unit = unlines ((root.lines 0).map (indentedLine unit)) ∧
      NoSurplus 0 (splitTagLines t) ∧ finalDepth 0 (splitTagLines t) = 0 := by
  have hspaced := h.spaced 0
  have hnests := root.nests 0
  have hne : (root.lines 0).map Prod.snd ≠ [] := by
    obtain ⟨line, rest, hroot⟩ := root.exists_lines_cons 0
    simp [hroot]
  have hsplit := splitTagLines_spaced hspaced hne
  rw [hsplit]
  refine ⟨rfl, ?_, hnests.noSurplus, hnests.settled⟩
  rw [indentLines, placeLines, hnests.placed]
  exact trim_indentedLines root unit hspaced.isLine

/-- A tag without attributes. -/
def plainTag (first : Char) (isWord_first : (ofChar first).isWord) : Tag where
  name := ⟨ofChar first, [], isWord_first, noBracket_nil, List.not_mem_nil⟩
  attributes := []
  space := ⟨[], rfl⟩

/-- An empty element and two lines of text, each in a parent, in which the text ends in a line break
and so does an end tag. -/
theorem indentLines_written_feeds :
    ∃ root : Element, root.Written "<a> <b/>\n\n<c>d\ne\n</c\n></a>" ∧
      indentLines (splitTagLines "<a> <b/>\n\n<c>d\ne\n</c\n></a>") "\t" =
        "<a>\n\t<b/>\n\t<c>d\ne\n</c\n>\n</a>" := by
  have hempty : Element.Written (.empty (plainTag 'b' (by decide))) "<b/>" := .empty _
  have htext := Element.Written.text (plainTag 'c' (by decide))
    ⟨"d\ne\n", by unfold NoBracket; decide, by decide⟩ ⟨"\n", by decide⟩
  have hroot := Element.Written.parent (plainTag 'a' (by decide)) ⟨[], rfl⟩
    (.cons ⟨" ", by decide⟩ hempty (.cons ⟨"\n\n", by decide⟩ htext (.nil ⟨[], rfl⟩)))
  exact ⟨_, hroot, (indentLines_written hroot "\t").2.1⟩

end StructuredText.Xml
