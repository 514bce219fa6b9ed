/-
# The sections of a text

Comments, instructions and sections of literal text are found in a text by their marks.  A scan for
them has to know where it stands: between the brackets of a document type no literal text begins, and
between quotes there nothing does.  Attribute values are no obstacle, as no opening bracket may stand
in them.

* `cut?` cuts a text at the first mark, `sectionsFrom` finds the sections;
* `sections_induction` is the induction along a scan, with one case for each step;
* `sections_trim`: blanks around a text do not count.
-/
import Mathlib
import StructuredText.Proofs.Xml.FollowingSections
import StructuredText.Proofs.Xml.Gaps

namespace StructuredText.Xml

open Text
open CodePoint (ofChar)

/-! ## Marks -/

/-- The parts of a document in which neither tags nor references are looked for. -/
inductive SectionKind
  | comment
  | instruction
  | literal
deriving DecidableEq

/-- What begins a section, behind the opening bracket. -/
def SectionKind.opening : SectionKind → Text
  | comment => "!--"
  | instruction => "?"
  | literal => "![CDATA["

/-- What ends a section. -/
def SectionKind.mark : SectionKind → Text
  | comment => "-->"
  | instruction => "?>"
  | literal => "]]>"

/-- A section with what stands between its marks. -/
structure Section where
  kind : SectionKind
  content : Text
deriving DecidableEq

/-- What stands in front of the first mark, and what is left behind it. -/
def cut? (mark : Text) : Text → Option (Text × Text)
  | [] => none
  | c :: r =>
    if mark.isPrefixOf (c :: r) then some ([], (c :: r).drop mark.length)
    else (cut? mark r).map fun (content, rest) => (c :: content, rest)

theorem isMark_mark (kind : SectionKind) : IsMark true kind.mark := by
  cases kind <;> decide

theorem isWord_opening (kind : SectionKind) : Scan.IsWord false kind.opening := by
  cases kind <;> decide

/-! ## Where a scan stands -/

/-- Where a scan for sections stands. -/
inductive Region
  /-- Among tags and text. -/
  | content
  /-- In a document type, outside of its square brackets. -/
  | typeHead
  /-- Between the square brackets of a document type. -/
  | typeBody
  /-- In a declaration of a document type. -/
  | declaration
  /-- Between quotes, in a document type or in one of its declarations. -/
  | quoted (double inBody : Bool)

namespace Region

/-- The sections that may begin. -/
def kinds : Region → List SectionKind
  | content => [.comment, .instruction, .literal]
  | typeBody => [.comment, .instruction]
  | _ => []

/-- The section that begins with a code point. -/
def opens? (region : Region) (c : CodePoint) (r : Text) : Option SectionKind :=
  if c = '<' then region.kinds.find? fun kind => kind.opening.isPrefixOf r else none

/-- Behind a code point that may be a quote. -/
def afterQuote (region : Region) (inBody : Bool) (c : CodePoint) : Region :=
  if c = '"' then quoted true inBody else if c = '\'' then quoted false inBody else region

/-- Where a scan stands behind a code point that begins no section. -/
def after : Region → CodePoint → Text → Region
  | content, c, r => if c = '<' ∧ Text.isPrefixOf "!DOCTYPE" r then typeHead else content
  | typeHead, c, _ =>
    if c = '[' then typeBody else if c = '>' then content else typeHead.afterQuote false c
  | typeBody, c, _ => if c = ']' then typeHead else if c = '<' then declaration else typeBody
  | declaration, c, _ => if c = '>' then typeBody else declaration.afterQuote true c
  | quoted double inBody, c, _ =>
    if c = (if double then '"' else '\'') then (if inBody then declaration else typeHead)
    else quoted double inBody

variable {c : CodePoint} {r r' : Text}

theorem opens?_of_ne (region : Region) (hc : c ≠ ofChar '<') (r : Text) :
    region.opens? c r = none := if_neg hc

/-- The mark of a section that begins stands at the front. -/
theorem isPrefixOf_of_opens? {region : Region} {kind : SectionKind}
    (h : region.opens? c r = some kind) : c = ofChar '<' ∧ kind.opening.isPrefixOf r := by
  unfold opens? at h
  split at h
  · next hc =>
    have hopening := List.find?_some h
    exact ⟨hc, hopening⟩
  · exact absurd h (by simp)

/-- Only behind an opening bracket it matters what comes next. -/
theorem after_of_ne (region : Region) (hc : c ≠ ofChar '<') (r r' : Text) :
    region.after c r = region.after c r' := by
  cases region with
  | content => exact (if_neg fun h => hc h.1).trans (if_neg fun h => hc h.1).symm
  | _ => rfl

/-- At an opening bracket texts are the same if the same words come next. -/
theorem opening_congr (region : Region)
    (h : ∀ word ∈ [("!DOCTYPE" : Text), "!--", "?", "![CDATA["],
      word.isPrefixOf r = word.isPrefixOf r') (c : CodePoint) :
    region.opens? c r = region.opens? c r' ∧ region.after c r = region.after c r' := by
  have hkind : ∀ kind : SectionKind, kind.opening.isPrefixOf r = kind.opening.isPrefixOf r' := by
    intro kind
    cases kind <;> exact h _ (by simp [SectionKind.opening])
  constructor
  · simp only [opens?, hkind]
  · cases region with
    | content => simp only [after, h "!DOCTYPE" (by simp)]
    | _ => rfl

/-- Blanks lead nowhere. -/
theorem after_of_isBlank (region : Region) (hc : c.isBlank) (r : Text) :
    region.after c r = region := by
  have hne : ∀ d : CodePoint, ¬ d.isBlank → c ≠ d := by
    rintro d hd rfl
    exact hd hc
  have hopening : c ≠ ofChar '<' := hne _ (by decide)
  have hclosing : c ≠ ofChar '>' := hne _ (by decide)
  have hsquare : c ≠ ofChar '[' ∧ c ≠ ofChar ']' := ⟨hne _ (by decide), hne _ (by decide)⟩
  have hquote : c ≠ ofChar '"' ∧ c ≠ ofChar '\'' := ⟨hne _ (by decide), hne _ (by decide)⟩
  cases region with
  | quoted double inBody => cases double <;> simp [after, hquote]
  | _ => simp [after, afterQuote, hopening, hclosing, hsquare, hquote]

end Region

/-! ## Scanning -/

/-- The sections of a text, behind some code points that were scanned already.  Where a section is
not closed no other one is looked for. -/
def sectionsFrom : Region → ℕ → Text → List Section
  | _, _, [] => []
  | region, scanned + 1, _ :: r => sectionsFrom region scanned r
  | region, 0, c :: r =>
    match region.opens? c r with
    | none => sectionsFrom (region.after c r) 0 r
    | some kind =>
      match cut? kind.mark (r.drop kind.opening.length) with
      | none => []
      | some (content, rest) =>
        ⟨kind, content⟩ :: sectionsFrom region (r.length - rest.length) r

/-- The sections of a document. -/
def sections (t : Text) : List Section := sectionsFrom .content 0 t

/-- A text is what stands in front of the mark, the mark and the rest. -/
theorem append_of_cut? {mark t content rest : Text} (h : cut? mark t = some (content, rest)) :
    t = content ++ (mark ++ rest) := by
  induction t generalizing content with
  | nil => exact absurd h (by simp [cut?])
  | cons c t ih =>
    rw [cut?] at h
    split at h
    · next hmark =>
      obtain ⟨rfl, rfl⟩ := Prod.mk.inj (Option.some.inj h)
      exact (List.prefix_iff_eq_append.mp (List.isPrefixOf_iff_prefix.mp hmark)).symm
    · obtain ⟨⟨content', rest'⟩, hcut, heq⟩ := Option.map_eq_some_iff.mp h
      obtain ⟨rfl, rfl⟩ := Prod.mk.inj heq
      rw [List.cons_append, ← ih hcut]

section Steps

variable {region : Region} {kind : SectionKind} {c : CodePoint} {r content rest : Text}

theorem sectionsFrom_nil (region : Region) : sectionsFrom region 0 [] = [] := rfl

theorem sectionsFrom_drop (region : Region) (n : ℕ) (t : Text) :
    sectionsFrom region n t = sectionsFrom region 0 (t.drop n) := by
  induction t generalizing n with
  | nil => cases n <;> rfl
  | cons c t ih =>
    cases n with
    | zero => rfl
    | succ n => exact ih n

theorem sectionsFrom_passed (h : region.opens? c r = none) :
    sectionsFrom region 0 (c :: r) = sectionsFrom (region.after c r) 0 r := by
  rw [sectionsFrom, h]

theorem sectionsFrom_unclosed (h : region.opens? c r = some kind)
    (hcut : cut? kind.mark (r.drop kind.opening.length) = none) :
    sectionsFrom region 0 (c :: r) = [] := by
  rw [sectionsFrom, h]
  dsimp only
  rw [hcut]

theorem sectionsFrom_closed (h : region.opens? c r = some kind)
    (hcut : cut? kind.mark (r.drop kind.opening.length) = some (content, rest)) :
    sectionsFrom region 0 (c :: r) = ⟨kind, content⟩ :: sectionsFrom region 0 rest := by
  have hrest : rest <:+ r := by
    have hparts : rest <:+ r.drop kind.opening.length := by
      rw [append_of_cut? hcut, ← List.append_assoc]
      exact List.suffix_append _ _
    exact hparts.trans (List.drop_suffix _ _)
  rw [sectionsFrom, h]
  dsimp only
  rw [hcut]
  dsimp only
  rw [sectionsFrom_drop, ← List.suffix_iff_eq_drop.mp hrest]

/-- **Induction along a scan**: at each code point no section begins, or one that is not closed, or
one with a content, behind which the scan goes on. -/
theorem sections_induction {motive : Region → Text → Prop} (nil : ∀ region, motive region [])
    (passed : ∀ region c r, region.opens? c r = none → motive (region.after c r) r →
      motive region (c :: r))
    (unclosed : ∀ region kind c r, region.opens? c r = some kind →
      cut? kind.mark (r.drop kind.opening.length) = none → motive region (c :: r))
    (closed : ∀ region kind c r content rest, region.opens? c r = some kind →
      cut? kind.mark (r.drop kind.opening.length) = some (content, rest) → motive region rest →
      motive region (c :: r))
    (region : Region) (t : Text) : motive region t := by
  induction hn : t.length using Nat.strong_induction_on generalizing region t with
  | _ n ih =>
    subst hn
    cases t with
    | nil => exact nil region
    | cons c r =>
      cases hopens : region.opens? c r with
      | none => exact passed region c r hopens (ih r.length (by simp) _ r rfl)
      | some kind =>
        cases hcut : cut? kind.mark (r.drop kind.opening.length) with
        | none => exact unclosed region kind c r hopens hcut
        | some parts =>
          obtain ⟨content, rest⟩ := parts
          have hlength := congrArg List.length (append_of_cut? hcut)
          simp only [List.length_drop, List.length_append] at hlength
          refine closed region kind c r content rest hopens hcut (ih rest.length ?_ _ rest rfl)
          simp only [List.length_cons]
          omega

end Steps

/-- What stands in a section is a part of the text. -/
theorem isInfix_of_mem_sectionsFrom {region : Region} {t : Text} :
    ∀ s ∈ sectionsFrom region 0 t, s.content <:+: t := by
  induction region, t using sections_induction with
  | nil region => simp [sectionsFrom_nil]
  | passed region c r h ih =>
    rw [sectionsFrom_passed h]
    exact fun s hs => (ih s hs).trans (List.suffix_cons c r).isInfix
  | unclosed region kind c r h hcut => simp [sectionsFrom_unclosed h hcut]
  | closed region kind c r content rest h hcut ih =>
    have hparts := append_of_cut? hcut
    have hdrop : r.drop kind.opening.length <:+: c :: r :=
      ((List.drop_suffix _ r).trans (List.suffix_cons c r)).isInfix
    rw [sectionsFrom_closed h hcut, List.forall_mem_cons]
    constructor
    · refine List.IsInfix.trans ?_ hdrop
      rw [hparts]
      exact (List.prefix_append _ _).isInfix
    · intro s hs
      refine (ih s hs).trans (List.IsInfix.trans ?_ hdrop)
      rw [hparts, ← List.append_assoc]
      exact (List.suffix_append _ _).isInfix

/-! ## Blanks around a text -/

section Blanks

variable {w : Text}

theorem sectionsFrom_blanks_append (region : Region) (hw : w.isBlank) (t : Text) :
    sectionsFrom region 0 (w ++ t) = sectionsFrom region 0 t := by
  induction w with
  | nil => rfl
  | cons c w ih =>
    rw [isBlank_cons, Bool.and_eq_true] at hw
    have hc : c ≠ ofChar '<' := by
      rintro rfl
      exact not_isBlank_opening hw.1
    rw [List.cons_append, sectionsFrom_passed (region.opens?_of_ne hc _),
      region.after_of_isBlank hw.1, ih hw.2]

/-- A word without blanks does not see blanks at the end of a text. -/
theorem isPrefixOf_append_blanks {word : Text} (hword : ∀ c ∈ word, ¬ c.isBlank)
    (hw : w.isBlank) (t : Text) : word.isPrefixOf (t ++ w) = word.isPrefixOf t := by
  induction word generalizing t with
  | nil => rfl
  | cons c word ih =>
    obtain ⟨hc, hword⟩ := List.forall_mem_cons.mp hword
    cases t with
    | nil =>
      cases w with
      | nil => rfl
      | cons d w =>
        have hd : (c == d) = false := by
          rw [beq_eq_false_iff_ne]
          rintro rfl
          exact hc (isBlank_of_mem hw List.mem_cons_self)
        rw [List.nil_append, isPrefixOf, List.isPrefixOf_cons_cons, hd]
        rfl
    | cons d t =>
      rw [List.cons_append, isPrefixOf, isPrefixOf, List.isPrefixOf_cons_cons,
        List.isPrefixOf_cons_cons]
      exact congrArg _ (ih hword t)

/-- Blanks at the end of a text are left at the end. -/
theorem cut?_append_blanks {mark : Text} (hmark : ∀ c ∈ mark, ¬ c.isBlank) (hne : mark ≠ [])
    (hw : w.isBlank) (t : Text) :
    cut? mark (t ++ w) = (cut? mark t).map fun (content, rest) => (content, rest ++ w) := by
  induction t with
  | nil =>
    show cut? mark w = none
    induction w with
    | nil => rfl
    | cons c w ih =>
      have hnone := isPrefixOf_append_blanks hmark hw []
      rw [isBlank_cons, Bool.and_eq_true] at hw
      have hempty : mark.isPrefixOf [] = false := by
        cases mark with
        | nil => exact absurd rfl hne
        | cons d mark => rfl
      rw [List.nil_append, hempty] at hnone
      rw [cut?, hnone, ih hw.2]
      rfl
  | cons c t ih =>
    have hprefix := isPrefixOf_append_blanks hmark hw (c :: t)
    rw [List.cons_append] at hprefix ⊢
    rw [cut?, cut?, hprefix, ih]
    split
    · next h =>
      have hlength : mark.length ≤ (c :: t).length :=
        (List.isPrefixOf_iff_prefix.mp h).length_le
      rw [← List.cons_append, List.drop_append_of_le_length hlength]
      rfl
    · cases cut? mark t <;> rfl

theorem sectionsFrom_append_blanks (region : Region) (t : Text) (hw : w.isBlank) :
    sectionsFrom region 0 (t ++ w) = sectionsFrom region 0 t := by
  have hwords : ∀ word ∈ [("!DOCTYPE" : Text), "!--", "?", "![CDATA["],
      ∀ c ∈ word, ¬ c.isBlank := by decide
  have hmark : ∀ kind : SectionKind, (∀ c ∈ kind.mark, ¬ c.isBlank) ∧ kind.mark ≠ [] := by
    intro kind
    cases kind <;> decide
  have hsame : ∀ (region : Region) (c : CodePoint) (r : Text),
      region.opens? c (r ++ w) = region.opens? c r ∧ region.after c (r ++ w) = region.after c r :=
    fun region c r => region.opening_congr
      (fun word hword => isPrefixOf_append_blanks (hwords word hword) hw r) c
  have hdrop : ∀ {region : Region} {kind : SectionKind} {c : CodePoint} {r : Text},
      region.opens? c r = some kind →
        (r ++ w).drop kind.opening.length = r.drop kind.opening.length ++ w := by
    intro region kind c r h
    have hopening := (Region.isPrefixOf_of_opens? h).2
    exact List.drop_append_of_le_length (List.isPrefixOf_iff_prefix.mp hopening).length_le
  induction region, t using sections_induction with
  | nil region =>
    have hnone := sectionsFrom_blanks_append region hw []
    rwa [List.append_nil] at hnone
  | passed region c r h ih =>
    rw [List.cons_append, sectionsFrom_passed h, sectionsFrom_passed ((hsame region c r).1.trans h),
      (hsame region c r).2, ih]
  | unclosed region kind c r h hcut =>
    rw [List.cons_append, sectionsFrom_unclosed h hcut,
      sectionsFrom_unclosed ((hsame region c r).1.trans h)]
    rw [hdrop h, cut?_append_blanks (hmark kind).1 (hmark kind).2 hw, hcut]
    rfl
  | closed region kind c r content rest h hcut ih =>
    have hcut' : cut? kind.mark ((r ++ w).drop kind.opening.length) = some (content, rest ++ w) := by
      rw [hdrop h, cut?_append_blanks (hmark kind).1 (hmark kind).2 hw, hcut]
      rfl
    rw [List.cons_append, sectionsFrom_closed h hcut,
      sectionsFrom_closed ((hsame region c r).1.trans h) hcut', ih]

/-- Blanks around a text hold no sections. -/
theorem sections_trim (t : Text) : sections t.trim = sections t := by
  obtain ⟨w, w', hw, hw', h⟩ := exists_trim t
  conv_rhs => rw [h, sections, sectionsFrom_append_blanks _ _ hw', sectionsFrom_blanks_append _ hw]
  rfl

end Blanks

end StructuredText.Xml
