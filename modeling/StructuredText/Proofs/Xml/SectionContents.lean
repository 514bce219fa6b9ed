/-
# The sections of a text laid out

Laying out looks at brackets and not at what they are part of, so it finds gaps inside of sections
too.  A document that is laid out has the same sections in the same order; in each of them the gaps
hold line breaks then, and all else stays as it is.

* `Regaps.cut?` and `Regaps.forall₂_sections` find the same sections in two texts;
* `Relaid` says what becomes of a section, `reindent_sections` that this becomes of each.
-/
import Mathlib
import StructuredText.Proofs.Xml.CharacterData
import StructuredText.Proofs.Xml.Sections

namespace StructuredText.Xml

open Text
open CodePoint (ofChar)

/-! ## Texts with other blanks -/

section Regaps

variable {after : Bool} {t t' w : Text}

/-- Other blanks between brackets go when gaps are closed. -/
theorem Regaps.closeGaps_eq (h : Regaps after t t') :
    (after = false → closeGaps t = closeGaps t') ∧
      closeGaps (ofChar '>' :: t) = closeGaps (ofChar '>' :: t') := by
  induction h with
  | nil => exact ⟨fun _ => rfl, rfl⟩
  | @cons after c t t' rest ih =>
    have heq : closeGaps (c :: t) = closeGaps (c :: t') := by
      by_cases hc : c = ofChar '>'
      · subst hc
        exact ih.2
      · rw [closeGaps_cons_of_ne hc, closeGaps_cons_of_ne hc, ih.1 (beq_eq_false_iff_ne.mpr hc)]
    exact ⟨fun _ => heq, closeGaps_append_congr [ofChar '>'] heq⟩
  | gap hw hw' rest ih =>
    refine ⟨fun h => absurd h (by simp), ?_⟩
    rw [closeGaps_gap hw, closeGaps_gap (isBlank_of_all_isXmlBlank hw'), ih.1 rfl]

/-- Where there is no gap nothing can be other. -/
theorem Regaps.eq_of_noGap (h : Regaps after t t')
    (hnone : NoGap (if after then ofChar '>' :: t else t)) : t = t' := by
  induction h with
  | nil => rfl
  | @cons after c t t' rest ih =>
    have htail : NoGap (c :: t) := by
      cases after with
      | false => exact hnone
      | true => exact hnone.tail
    refine congrArg _ (ih ?_)
    by_cases hc : c = ofChar '>'
    · subst hc
      exact htail
    · rw [beq_eq_false_iff_ne.mpr hc]
      exact htail.tail
  | @gap w w' t t' hw _ _ => exact absurd rfl (hnone [] w t hw)

/-- No mark begins in a gap. -/
theorem cut?_gap {mark : Text} (hmark : IsMark true mark) (hw : w.isBlank) (t : Text) :
    cut? mark (w ++ ofChar '<' :: t) =
      (cut? mark t).map fun (content, rest) => (w ++ ofChar '<' :: content, rest) := by
  induction w with
  | nil =>
    rw [List.nil_append, cut?, if_neg (hmark.not_isPrefixOf (Or.inr rfl) t)]
    rfl
  | cons c w ih =>
    rw [isBlank_cons, Bool.and_eq_true] at hw
    rw [List.cons_append, cut?, if_neg (hmark.not_isPrefixOf (Or.inl hw.1) _), ih hw.2,
      Option.map_map]
    rfl

/-- The first mark stands in both texts or in none, and what stands in front of it is the same but
for gaps. -/
theorem Regaps.cut? {mark : Text} (hmark : IsMark true mark) (h : Regaps after t t') :
    (Xml.cut? mark t = none ∧ Xml.cut? mark t' = none) ∨
      ∃ content content' rest rest', Xml.cut? mark t = some (content, rest) ∧
        Xml.cut? mark t' = some (content', rest') ∧ Regaps after content content' ∧
        Regaps true rest rest' := by
  induction h with
  | nil => exact Or.inl ⟨rfl, rfl⟩
  | @cons after c t t' rest ih =>
    have h : Regaps false (c :: t) (c :: t') := .cons rest
    obtain ⟨hnext, hdrop⟩ := h.isPrefixOf hmark.1.2.1
    rw [Xml.cut?, Xml.cut?, ← hnext]
    split
    · next hm =>
      exact Or.inr ⟨_, _, _, _, rfl, rfl, .nil _, hmark.1.2.2 ▸ hdrop hmark.1.1 hm⟩
    · rcases ih with ⟨hnone, hnone'⟩ | ⟨content, content', u, u', hcut, hcut', hcontent, hu⟩
      · exact Or.inl ⟨by rw [hnone]; rfl, by rw [hnone']; rfl⟩
      · exact Or.inr ⟨_, _, u, u', by rw [hcut]; rfl, by rw [hcut']; rfl, .cons hcontent, hu⟩
  | @gap w w' t t' hw hw' rest ih =>
    rw [cut?_gap hmark hw, cut?_gap hmark (isBlank_of_all_isXmlBlank hw')]
    rcases ih with ⟨hnone, hnone'⟩ | ⟨content, content', u, u', hcut, hcut', hcontent, hu⟩
    · exact Or.inl ⟨by rw [hnone]; rfl, by rw [hnone']; rfl⟩
    · exact Or.inr ⟨_, _, u, u', by rw [hcut]; rfl, by rw [hcut']; rfl, .gap hw hw' hcontent, hu⟩

/-- The same section in two texts. -/
structure SameSection (s s' : Section) : Prop where
  kind : s'.kind = s.kind
  content : Regaps false s.content s'.content

/-- At an opening bracket both texts have the same words next. -/
theorem Regaps.opening_congr (h : Regaps false t t') (region : Region) (c : CodePoint) :
    region.opens? c t = region.opens? c t' ∧ region.after c t = region.after c t' := by
  have hwords : ∀ word ∈ [("!DOCTYPE" : Text), "!--", "?", "![CDATA["],
      ∀ c ∈ word.dropLast, c ≠ ofChar '>' := by decide
  exact region.opening_congr (fun word hword => (h.isPrefixOf (hwords word hword)).1) c

/-- At the next code point of the one text the other has it too, perhaps behind the blanks of a gap,
or the next code point is in a gap. -/
theorem Regaps.step_cases {c : CodePoint} {r : Text} (h : Regaps after (c :: r) t') :
    (∃ w r' : Text, w.isBlank ∧ t' = w ++ c :: r' ∧ Regaps (c == ofChar '>') r r') ∨
      c.isBlank ∧ Regaps true r t' := by
  rcases h.gap_cases with haligned | ⟨-, w, w', u, u', hw, hw', hu, heq, rfl⟩
  · rcases haligned.aligned_cases with ⟨heq, -⟩ | ⟨d, u, u', heq, rfl, hu⟩
    · exact absurd heq (by simp)
    · obtain ⟨rfl, rfl⟩ := List.cons.inj heq
      exact Or.inl ⟨[], u', rfl, rfl, hu⟩
  · cases w with
    | nil =>
      obtain ⟨rfl, rfl⟩ := List.cons.inj heq
      exact Or.inl ⟨w', u', isBlank_of_all_isXmlBlank hw', rfl, hu⟩
    | cons d w =>
      obtain ⟨rfl, rfl⟩ := List.cons.inj heq
      rw [isBlank_cons, Bool.and_eq_true] at hw
      exact Or.inr ⟨hw.1, .gap hw.2 hw' hu⟩

/-- Where a section begins in the one text, it begins in the other, and what stands behind its mark
goes on alike. -/
theorem Regaps.opens?_cases {region : Region} {kind : SectionKind} {c : CodePoint} {r : Text}
    (h : Regaps after (c :: r) t') (hopens : region.opens? c r = some kind) :
    ∃ w r' : Text, w.isBlank ∧ t' = w ++ c :: r' ∧ region.opens? c r' = some kind ∧
      Regaps false (r.drop kind.opening.length) (r'.drop kind.opening.length) := by
  obtain ⟨rfl, hopening⟩ := Region.isPrefixOf_of_opens? hopens
  rcases h.step_cases with ⟨w, r', hw, rfl, hr⟩ | ⟨hblank, -⟩
  · have hr : Regaps false r r' := hr
    obtain ⟨hne, hword, hlast⟩ := isWord_opening kind
    have hdrop := (hr.isPrefixOf hword).2 hne hopening
    rw [hlast] at hdrop
    exact ⟨w, r', hw, rfl, (hr.opening_congr region _).1 ▸ hopens, hdrop⟩
  · exact absurd hblank not_isBlank_opening

/-- **Texts with other blanks between brackets have the same sections.** -/
theorem Regaps.forall₂_sections (region : Region) (h : Regaps after t t') :
    List.Forall₂ SameSection (sectionsFrom region 0 t) (sectionsFrom region 0 t') := by
  induction region, t using sections_induction generalizing after t' with
  | nil region =>
    have hempty : t' = [] := by simpa using h.isEmpty_eq
    rw [hempty]
    exact .nil
  | passed region c r hopens ih =>
    rw [sectionsFrom_passed hopens]
    rcases h.step_cases with ⟨w, r', hw, rfl, hr⟩ | ⟨hblank, hr⟩
    · rw [sectionsFrom_blanks_append region hw]
      by_cases hc : c = ofChar '<'
      · subst hc
        have hr : Regaps false r r' := hr
        obtain ⟨hopens', hafter⟩ := hr.opening_congr region (ofChar '<')
        rw [sectionsFrom_passed (hopens' ▸ hopens), ← hafter]
        exact ih hr
      · rw [sectionsFrom_passed (region.opens?_of_ne hc r'), region.after_of_ne hc r' r]
        exact ih hr
    · -- A blank leads nowhere, and the gap goes on behind it.
      rw [region.after_of_isBlank hblank] at ih ⊢
      exact ih hr
  | unclosed region kind c r hopens hcut =>
    obtain ⟨w, r', hw, rfl, hopens', hdrop⟩ := h.opens?_cases hopens
    rw [sectionsFrom_blanks_append region hw, sectionsFrom_unclosed hopens hcut]
    rcases hdrop.cut? (isMark_mark kind) with ⟨-, hnone⟩ | ⟨_, _, _, _, hsome, -⟩
    · rw [sectionsFrom_unclosed hopens' hnone]
      exact .nil
    · rw [hcut] at hsome
      exact absurd hsome (by simp)
  | closed region kind c r content rest hopens hcut ih =>
    obtain ⟨w, r', hw, rfl, hopens', hdrop⟩ := h.opens?_cases hopens
    rw [sectionsFrom_blanks_append region hw, sectionsFrom_closed hopens hcut]
    rcases hdrop.cut? (isMark_mark kind) with ⟨hnone, -⟩ | ⟨_, _, _, _, hsome, hsome', hcontent, hu⟩
    · rw [hcut] at hnone
      exact absurd hnone (by simp)
    · rw [hcut] at hsome
      obtain ⟨rfl, rfl⟩ := Prod.mk.inj (Option.some.inj hsome)
      rw [sectionsFrom_closed hopens' hsome']
      exact .cons ⟨rfl, hcontent⟩ (ih hu)

end Regaps

/-! ## The law of laying out -/

/-- What becomes of a section that is laid out: the gaps of its content hold line breaks, and all else
stays as it is. -/
structure Relaid (margin : ℕ → Text) (s s' : Section) : Prop where
  kind : s'.kind = s.kind
  closed : closeGaps s'.content = closeGaps s.content
  gaps : GapsAre (IsLineBreak margin) s'.content
  same : NoGap s.content → s'.content = s.content

theorem SameSection.relaid {margin : ℕ → Text} {s s' : Section} (h : SameSection s s')
    (hgaps : GapsAre (IsLineBreak margin) s'.content) : Relaid margin s s' where
  kind := h.kind
  closed := (h.content.closeGaps_eq.1 rfl).symm
  gaps := hgaps
  same hnone := (h.content.eq_of_noGap hnone).symm

/-- **What laying out does to sections.**  A document laid out has the same comments, instructions
and sections of literal text in the same order, and of their contents no more is changed than the
gaps, which hold line breaks then. -/
theorem reindent_sections {text indent out : Text} (hindent : indent.all isXmlBlank)
    (h : reindent text indent = .ok out) :
    List.Forall₂ (Relaid (times · indent)) (sections text.unifyLineEnds) (sections out) := by
  have hmargin : ∀ d, (times d indent).isBlank := fun d =>
    isBlank_of_all_isXmlBlank (all_isXmlBlank_times hindent d)
  rw [reindent_eq_ok] at h
  split at h
  · next hblank =>
    have hnone := sectionsFrom_blanks_append .content (isBlank_unifyLineEnds hblank) []
    rw [List.append_nil] at hnone
    rw [h, sections, hnone]
    exact .nil
  · have hregaps := regaps_placeLines (all_isXmlBlank_times hindent) text.unifyLineEnds
    have hgaps := gapsAre_placeLines hmargin text.unifyLineEnds
    rw [← indentLines, ← h.2] at hregaps hgaps
    rw [← sections_trim]
    obtain ⟨hlength, hsame⟩ := List.forall₂_iff_zip.mp (hregaps.forall₂_sections .content)
    refine List.forall₂_iff_zip.mpr ⟨hlength, fun {s s'} hpair => ?_⟩
    have hmem : s' ∈ sections out := (List.of_mem_zip hpair).2
    exact (hsame hpair).relaid (hgaps.of_part (isInfix_of_mem_sectionsFrom s' hmem))

/-- A section of literal text with a gap in it, and a comment without. -/
theorem reindent_sections_literal :
    List.all "  " isXmlBlank ∧
      reindent "<!-- > --><a><![CDATA[<b> <c>]]></a>" "  " =
        .ok "<!-- > -->\n<a>\n  <![CDATA[<b>\n  <c>]]>\n  </a>" ∧
      List.Forall₂ (Relaid (times · "  ")) [⟨.comment, " > "⟩, ⟨.literal, "<b> <c>"⟩]
        [⟨.comment, " > "⟩, ⟨.literal, "<b>\n  <c>"⟩] := by
  have hfault : fault? (Text.trim (unifyLineEnds "<!-- > --><a><![CDATA[<b> <c>]]></a>")) = none := by
    decide +kernel
  have hok : reindent "<!-- > --><a><![CDATA[<b> <c>]]></a>" "  " =
      .ok "<!-- > -->\n<a>\n  <![CDATA[<b>\n  <c>]]>\n  </a>" := by
    refine reindent_eq_ok.mpr ?_
    rw [if_neg (by decide)]
    exact ⟨inspect_eq_ok.mpr ⟨by decide, hfault⟩, by decide +kernel⟩
  refine ⟨by decide, hok, ?_⟩
  have hsections := reindent_sections (by decide) hok
  have hbefore : sections (unifyLineEnds "<!-- > --><a><![CDATA[<b> <c>]]></a>") =
      [⟨.comment, " > "⟩, ⟨.literal, "<b> <c>"⟩] := by decide +kernel
  have hafter : sections "<!-- > -->\n<a>\n  <![CDATA[<b>\n  <c>]]>\n  </a>" =
      [⟨.comment, " > "⟩, ⟨.literal, "<b>\n  <c>"⟩] := by decide +kernel
  rwa [hbefore, hafter] at hsections

/-- Literal text is changed where it looks like tags. -/
theorem reindent_sections_changed :
    reindent "<a><![CDATA[<b> <c>]]></a>" "  " =
        .ok "<a>\n  <![CDATA[<b>\n  <c>]]>\n  </a>" ∧
      (sections (unifyLineEnds "<a><![CDATA[<b> <c>]]></a>")).map Section.content ≠
        (sections "<a>\n  <![CDATA[<b>\n  <c>]]>\n  </a>").map Section.content := by
  have hfault : fault? (Text.trim (unifyLineEnds "<a><![CDATA[<b> <c>]]></a>")) = none := by
    decide +kernel
  refine ⟨reindent_eq_ok.mpr ?_, by decide +kernel⟩
  rw [if_neg (by decide)]
  exact ⟨inspect_eq_ok.mpr ⟨by decide, hfault⟩, by decide +kernel⟩

end StructuredText.Xml
