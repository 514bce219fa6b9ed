/-
# Elements in two texts

Tags hold no gaps, for a gap ends in a bracket that no attribute value may hold.  Gaps stand
between tags, where their blanks are content of the element around them, and in the content that
entities stand for.

* `follows_value`, `follows_attributes` and `follows_startTag` follow a start tag;
* `follows_contentWith` follows content, gaps included, wherever entities lead;
* `follows_content` follows the content of a document.
-/
import Mathlib
import StructuredText.Proofs.Xml.FollowingTypes
import StructuredText.Xml.Element

namespace StructuredText.Xml

open Text CodePoint

/-! ## Relations -/

/-- Elements of the same name with the same prefixes known, wherever they were opened. -/
structure OpenElement.Alike (e e' : OpenElement) : Prop where
  name : e.name = e'.name
  scope : e.scope = e'.scope

structure Progress.Alike (p p' : Progress) : Prop where
  opened : List.Forall₂ OpenElement.Alike p.opened p'.opened
  identifiers : p.identifiers = p'.identifiers

theorem Progress.Alike.isEmpty_opened {p p' : Progress} (h : p.Alike p') :
    p.opened.isEmpty = p'.opened.isEmpty := by
  rw [Bool.eq_iff_iff, List.isEmpty_iff_length_eq_zero, List.isEmpty_iff_length_eq_zero,
    h.opened.length_eq]

/-- The prefixes known around a new element. -/
theorem Progress.Alike.outer {p p' : Progress} (h : p.Alike p') :
    (p.opened.head?.map (·.scope)).getD [] = (p'.opened.head?.map (·.scope)).getD [] := by
  obtain ⟨opened, identifiers⟩ := p
  obtain ⟨opened', identifiers'⟩ := p'
  obtain ⟨hopened, -⟩ := h
  cases hopened with
  | nil => rfl
  | cons he _ => exact he.scope

namespace Scan

variable {lost : Text → Prop} {t t' : Text} {after : Bool} {entities entities' : Entities}

/-! ## Notes -/

theorem follows_noteIf (complaint : Option Complaint) (h : Regaps after t t') :
    FollowsOr lost (noteIf complaint) (noteIf complaint) t t' (Both Eq after) := by
  cases complaint with
  | none => exact follows_pure ⟨rfl, h⟩
  | some complaint => exact follows_note _ _ ⟨rfl, h⟩

theorem follows_forM {β : Type} {f : β → Scan Unit}
    (hf : ∀ b t t', Regaps after t t' → Follows (f b) (f b) t t' (Both Eq after)) (l : List β)
    (h : Regaps after t t') : FollowsOr lost (l.forM f) (l.forM f) t t' (Both Eq after) := by
  induction l generalizing t t' with
  | nil => exact follows_pure ⟨rfl, h⟩
  | cons b l ih => exact FollowsOr.bind_same (hf b t t' h) fun _ _ _ hr => ih hr

theorem follows_noteAll (complaints : List Complaint) (h : Regaps after t t') :
    FollowsOr lost (noteAll complaints) (noteAll complaints) t t' (Both Eq after) :=
  follows_forM (fun _ _ _ hr => follows_note _ _ ⟨rfl, hr⟩) complaints h

theorem follows_attributeNames (scope : Scope) (element : Text) (attributes : List Attribute)
    (h : Regaps after t t') :
    FollowsOr lost (attributeNames scope element attributes)
      (attributeNames scope element attributes) t t' (Both Eq after) := by
  refine FollowsOr.bind_same (follows_noteAll _ h) fun _ r r' hr => ?_
  refine FollowsOr.bind_same (follows_forM ?_ _ hr) fun _ r r' hr => ?_
  · rintro complaint u u' hu
    split
    · exact follows_fail _
    · exact follows_note _ _ ⟨rfl, hu⟩
  · refine .ite (fun _ => ?_) fun _ => follows_pure ⟨rfl, hr⟩
    split
    · exact follows_fail _
    · exact follows_pure ⟨rfl, hr⟩

theorem follows_identifiers (given identifiers : List Text) (h : Regaps after t t') :
    FollowsOr lost (Scan.identifiers given identifiers) (Scan.identifiers given identifiers) t t'
      (Both Eq after) := by
  induction identifiers generalizing given t t' with
  | nil => exact follows_pure ⟨rfl, h⟩
  | cons identifier rest ih =>
    refine .unless (fun _ => follows_note _ _ ⟨rfl, h⟩) h fun r r' hr => ?_
    exact .when (fun _ => follows_note _ _ ⟨rfl, hr⟩) hr fun r r' hr => ih _ hr

/-! ## Attributes -/

theorem follows_referenceInValue (he : entities.Alike entities') (h : Regaps false t t') :
    FollowsOr lost (referenceInValue entities) (referenceInValue entities') t t'
      (Both Eq false) := by
  refine FollowsOr.bind (follows_reference he h) ?_
  rintro _ _ r r' ⟨halike, hr⟩
  cases halike with
  | plain x => exact follows_pure ⟨rfl, hr⟩
  | unknown => exact follows_pure ⟨rfl, hr⟩
  | entity name hbody => exact follows_entityInValue he _ _ name hbody hr

/-- A value holds no gap, since it holds no opening bracket. -/
theorem follows_valueUpTo (he : entities.Alike entities') {quote : CodePoint}
    (hquote : IsQuote quote) (h : Regaps false t t') :
    FollowsOr lost (valueUpTo entities quote) (valueUpTo entities' quote) t t'
      (Both Eq false) := by
  suffices hloop : Follows (loop _ []) (loop _ []) t t' (Both Eq false) from
    hloop.bind_same fun read r r' hr => follows_pure ⟨rfl, hr⟩
  refine FollowsOr.loop (fun _ read read' => read = read') ?_ rfl h
  rintro after read _ t t' rfl h
  rcases h.gap_cases with haligned | ⟨rfl, w, w', u, u', hw, -, -, rfl, rfl⟩
  · rcases haligned.aligned_cases with ⟨rfl, rfl⟩ | ⟨c, r, r', rfl, rfl, hr⟩
    · exact .ends ⟨rfl, haligned⟩
    · refine .moves (.ite (fun _ => .stops ⟨rfl, haligned⟩) fun _ => .ite (fun _ => .fails _ _)
        fun _ => .ite (fun hc => .passes ?_) fun _ => .ite (fun _ => .fails _ _) fun _ =>
          .steps rfl hr)
      subst hc
      refine FollowsOr.bind_same (follows_referenceInValue he (haligned.tail (by decide))) ?_
      exact fun x u u' hu => follows_pure ⟨false, rfl, hu⟩
  · refine .strays fun j a r k hrun => absurd hrun (run_loop_ne_ok ?_ ?_ j _)
    · intro read d hd r
      have hblank := isBlank_of_mem hw hd
      have hquote' : d ≠ quote := by
        rintro rfl
        exact hquote.not_isBlank hblank
      have hmarks : d ≠ ofChar '<' ∧ d ≠ ofChar '&' := by
        constructor <;> rintro rfl <;> exact absurd hblank (by decide)
      rw [if_neg hquote', if_neg hmarks.1, if_neg hmarks.2]
      split
      · exact Or.inl ⟨_, rfl⟩
      · exact Or.inr ⟨_, rfl⟩
    · exact fun read r => ⟨_, by rw [if_neg hquote.ne_opening.symm, if_pos rfl]⟩

theorem follows_value (he : entities.Alike entities') (h : Regaps false t t') :
    FollowsOr lost (value entities) (value entities') t t' (Both Eq false) := by
  refine follows_peek_bind h (fun _ _ => follows_fail _) ?_
  rintro quote r r' rfl rfl -
  refine .ite (fun hquote => follows_skip_bind ?_) fun _ => follows_fail _
  have hquote : IsQuote quote := hquote
  refine FollowsOr.bind_same (follows_valueUpTo he hquote (h.tail hquote.ne_closing))
    fun v u u' hu => ?_
  refine FollowsOr.bind_same (follows_expect false (isWord_singleton hquote.ne_closing) _ _ hu) ?_
  exact fun _ u u' hu => follows_pure ⟨rfl, hu⟩

theorem follows_atTagEnd (h : Regaps false t t') :
    FollowsOr lost atTagEnd atTagEnd t t' (Both Eq false) :=
  follows_isNext_bind true (by decide) h fun _ _ =>
    follows_isNext_bind true (by decide) h fun _ _ => follows_pure ⟨rfl, h⟩

theorem follows_namespaceName (space name : Text) (h : Regaps after t t') :
    FollowsOr lost (namespaceName space name) (namespaceName space name) t t' (Both Eq after) := by
  unfold namespaceName
  split
  · exact follows_note _ _ ⟨rfl, h⟩
  · exact .ite (fun _ => follows_warn ⟨rfl, h⟩) fun _ => follows_pure ⟨rfl, h⟩
  · exact follows_pure ⟨rfl, h⟩

theorem follows_bindNamespace (declaring : QualifiedName) (space name : Text) (declared : Scope)
    (h : Regaps after t t') :
    FollowsOr lost (bindNamespace declaring space name declared)
      (bindNamespace declaring space name declared) t t' (Both Eq after) := by
  unfold bindNamespace
  split
  · next complaint _ =>
    have hnote : Follows (note complaint) (note complaint) t t' (Both Eq after) :=
      follows_note _ _ ⟨rfl, h⟩
    exact hnote.bind_same fun _ _ _ hr => follows_pure ⟨rfl, hr⟩
  · refine .ite (fun _ => follows_pure ⟨rfl, h⟩) fun _ => ?_
    refine FollowsOr.bind_same (follows_namespaceName space name h) fun _ r r' hr => ?_
    exact .when (fun _ => follows_fail _) hr fun _ _ hr => follows_pure ⟨rfl, hr⟩

theorem follows_blankTreatment (name : QualifiedName) (v : Text) (h : Regaps after t t') :
    FollowsOr lost (blankTreatment name v) (blankTreatment name v) t t' (Both Eq after) :=
  .ite (fun _ => follows_warn ⟨rfl, h⟩) fun _ => follows_pure ⟨rfl, h⟩

theorem follows_attributeAfter (he : entities.Alike entities') {first : CodePoint}
    {start start' : Text} (state : TagState) (hstart : Passed start start' t t')
    (h : Regaps false t t') :
    FollowsOr lost (attributeAfter entities first start state)
      (attributeAfter entities' first start' state) t t' (Both Eq false) := by
  refine FollowsOr.bind_same (follows_qualifiedNameAfter hstart h) fun name r r' hr => ?_
  refine FollowsOr.bind_same (follows_blanks hr) fun _ r r' hr => ?_
  refine FollowsOr.bind_same (follows_expect false (by decide) _ _ hr) fun _ r r' hr => ?_
  refine FollowsOr.bind_same (follows_blanks hr) fun _ r r' hr => ?_
  refine FollowsOr.bind_same (follows_value he hr) fun v r r' hr => ?_
  refine FollowsOr.bind_same (follows_blankTreatment name v hr) fun _ r r' hr => ?_
  have hend : ∀ (state : TagState) {u u' : Text}, Regaps false u u' →
      FollowsOr lost
        (do
          unless ← atTagEnd do
            unless ← blanks do fail .blankBetweenAttributes
          return state)
        (do
          unless ← atTagEnd do
            unless ← blanks do fail .blankBetweenAttributes
          return state) u u' (Both Eq false) := by
    intro state u u' hu
    refine FollowsOr.bind_same (follows_atTagEnd hu) fun last u u' hu => ?_
    refine .ite (fun _ => follows_pure ⟨rfl, hu⟩) fun _ => ?_
    refine FollowsOr.bind_same (follows_blanks hu) fun blank u u' hu => ?_
    exact .unless (fun _ => follows_fail _) hu fun _ _ hu => follows_pure ⟨rfl, hu⟩
  dsimp only
  split
  · refine FollowsOr.bind_same (follows_bindNamespace _ _ _ _ hr) fun declared r r' hr => ?_
    exact FollowsOr.bind_same (follows_pure ⟨rfl, hr⟩) fun _ _ _ hr => hend _ hr
  · exact FollowsOr.bind_same (follows_pure ⟨rfl, hr⟩) fun _ _ _ hr => hend _ hr

theorem follows_attributes (he : entities.Alike entities') (h : Regaps false t t') :
    FollowsOr lost (attributes entities) (attributes entities') t t' (Both Eq false) := by
  refine FollowsOr.loop (fun after state state' => after = false ∧ state = state') ?_ ⟨rfl, rfl⟩ h
  rintro _ state _ t t' ⟨rfl, rfl⟩ h
  rcases h.aligned_cases with ⟨rfl, rfl⟩ | ⟨c, r, r', rfl, rfl, -⟩
  · exact .ends ⟨rfl, h⟩
  · have hend : (c = ofChar '>' ∨ (c = ofChar '/' ∧ Text.isPrefixOf ">" r) ∨ c.val < 0x20) ↔
        (c = ofChar '>' ∨ (c = ofChar '/' ∧ Text.isPrefixOf ">" r') ∨ c.val < 0x20) := by
      refine or_congr_right (or_congr_left (and_congr_right ?_))
      rintro rfl
      have hr : Regaps false r r' := h.tail (by decide)
      rw [show Text.isPrefixOf ">" r = Text.isPrefixOf ">" r' from (hr.isPrefixOf (by decide)).1]
    refine .moves (.ite_congr hend (fun _ => .stops ⟨rfl, h⟩) fun _ => ?_)
    refine .ite (fun hc => .passes ?_) fun _ => .fails _ _
    have hr : Regaps false r r' := h.tail (ne_closing_of_isColonNameStart hc)
    refine (follows_attributeAfter he state ⟨[c], rfl, rfl⟩ hr).mono ?_
    exact fun _ _ _ _ hu => ⟨false, ⟨rfl, hu.1⟩, hu.2⟩

/-! ## Tags -/

theorem follows_startTag (he : entities.Alike entities') {progress progress' : Progress}
    (hp : progress.Alike progress') (opening opening' : Text) (h : Regaps false t t') :
    FollowsOr lost (startTag entities progress opening) (startTag entities' progress' opening')
      t t' (Both Progress.Alike true) := by
  unfold startTag
  rw [hp.opened.length_eq, hp.outer, hp.identifiers]
  refine .when (fun _ => follows_fail _) h fun r r' hr => ?_
  refine FollowsOr.bind (follows_placeBefore opening opening' hr) ?_
  rintro place place' r r' ⟨-, hr⟩
  refine FollowsOr.bind_same (follows_qualifiedName hr) fun name r r' hr => ?_
  cases name with
  | none => exact follows_fail _
  | some name =>
    refine FollowsOr.bind_same (follows_blanks hr) fun _ r r' hr => ?_
    refine FollowsOr.bind_same (follows_attributes he hr) fun state r r' hr => ?_
    refine FollowsOr.bind_same (follows_attributeNames _ _ _ hr) fun _ r r' hr => ?_
    refine FollowsOr.bind_same (follows_noteIf _ hr) fun _ r r' hr => ?_
    refine FollowsOr.bind_same (follows_identifiers _ _ hr) fun given r r' hr => ?_
    refine follows_accept_bind true (by decide) hr ?_ ?_
    · rintro u u' - - hu
      exact follows_pure ⟨⟨hp.opened, rfl⟩, hu⟩
    · refine FollowsOr.bind_same (follows_expect true (by decide) _ _ hr) fun _ u u' hu => ?_
      exact follows_pure ⟨⟨.cons ⟨rfl, rfl⟩ hp.opened, rfl⟩, hu⟩

theorem follows_endName (name : QualifiedName) (h : Regaps false t t') :
    FollowsOr lost (endName name) (endName name) t t' (Both Eq false) := by
  unfold endName
  split
  · exact FollowsOr.bind_same (follows_plainName h) fun _ _ _ hr => follows_pure ⟨rfl, hr⟩
  · exact FollowsOr.bind_same (follows_qualifiedName h) fun _ _ _ hr => follows_pure ⟨rfl, hr⟩

/-- The bracket after the name of an end tag, and the judgement on what was found as its name. -/
theorem follows_judgement {element element' : OpenElement} (found : Option (Text × Text))
    (h : Regaps false t t') : FollowsOr lost
      (do
        let _ ← blanks
        expect ">" .endTagNotClosed
        match found with
        | none => fail (.endTagMismatch element'.name.base element.opening "unparsable")
        | some (name, told) =>
          unless name = element'.name.written do
            fail (.endTagMismatch element'.name.base element.opening told))
      (do
        let _ ← blanks
        expect ">" .endTagNotClosed
        match found with
        | none => fail (.endTagMismatch element'.name.base element'.opening "unparsable")
        | some (name, told) =>
          unless name = element'.name.written do
            fail (.endTagMismatch element'.name.base element'.opening told))
      t t' (Both Eq true) := by
  refine FollowsOr.bind_same (follows_blanks h) fun _ u u' hu => ?_
  refine FollowsOr.bind_same (follows_expect true (by decide) _ _ hu) fun _ u u' hu => ?_
  cases found with
  | none => exact follows_fail _
  | some found => exact .ite (fun _ => follows_pure ⟨rfl, hu⟩) fun _ => follows_fail _

theorem follows_endTag {element element' : OpenElement} (helement : element.Alike element')
    (h : Regaps false t t') :
    FollowsOr lost (endTag element) (endTag element') t t' (Both Eq true) := by
  unfold endTag
  rw [helement.name]
  refine FollowsOr.bind_same (follows_endName _ h) fun found r r' hr => ?_
  refine .ite (fun _ => follows_peek_bind hr ?_ ?_) fun _ => follows_judgement found hr
  · rintro rfl rfl
    exact follows_judgement found hr
  · rintro c u u' rfl rfl -
    exact .when (fun _ => follows_countBytes _ _ ⟨rfl, hr⟩) hr fun _ _ hv => follows_judgement found hv

theorem follows_markup (he : entities.Alike entities') {progress progress' : Progress}
    (hp : progress.Alike progress') (opening opening' : Text) (h : Regaps false t t') :
    FollowsOr lost (markup entities progress opening) (markup entities' progress' opening') t t'
      (Both Progress.Alike true) := by
  refine follows_accept_bind false (by decide) h ?_ ?_
  · rintro r r' - - hr
    exact FollowsOr.bind_same (follows_instruction hr) fun _ _ _ hr => follows_pure ⟨hp, hr⟩
  refine follows_accept_bind false (by decide) h ?_ ?_
  · rintro r r' - - hr
    exact FollowsOr.bind_same (follows_comment hr) fun _ _ _ hr => follows_pure ⟨hp, hr⟩
  refine follows_accept_bind false (by decide) h ?_ ?_
  · rintro r r' - - hr
    exact FollowsOr.bind_same (follows_literalSection hr) fun _ _ _ hr => follows_pure ⟨hp, hr⟩
  refine follows_accept_bind false (by decide) h ?_ (follows_startTag he hp opening opening' h)
  rintro r r' - - hr
  obtain ⟨opened, identifiers⟩ := progress
  obtain ⟨opened', identifiers'⟩ := progress'
  obtain ⟨hopened, hidentifiers⟩ := hp
  cases hopened with
  | nil => exact follows_fail _
  | cons helement hothers =>
    exact FollowsOr.bind_same (follows_endTag helement hr) fun _ _ _ hr =>
      follows_pure ⟨⟨hothers, hidentifiers⟩, hr⟩

/-! ## Content -/

/-- What `contentWith` does at one code point. -/
def contentTurn (isEntity : Bool) (follow : Text → EntityBody → Progress → Scan Progress)
    (entities : Entities) (progress : Progress) (c : CodePoint) (r : Text) :
    Except Complaint (Option (Scan Progress)) :=
  if progress.opened.isEmpty && (!isEntity || Text.isPrefixOf "</" (c :: r)) then .ok none
  else if c = '<' then .ok (some (markup entities progress (c :: r)))
  else if c = '&' then
    .ok (some do
      match ← reference entities with
      | .entity name body => follow name body progress
      | _ => return progress)
  else if !isCharacter c then .error (characterComplaint .contentCharacter c)
  else if Text.isPrefixOf "]]>" (c :: r) then .error .sectionEndInContent
  else .ok (some do let _ ← takeWhile isPlain; return progress)

section Content

variable {isEntity : Bool} {follow follow' : Text → EntityBody → Progress → Scan Progress}
  {progress progress' : Progress} {c : CodePoint} {r : Text}

theorem isPlain_of_isXmlBlank (hc : isXmlBlank c) : isPlain c := by
  have hmarks : c ≠ ofChar '<' ∧ c ≠ ofChar '&' ∧ c ≠ ofChar ']' := by
    refine ⟨?_, ?_, ?_⟩ <;> rintro rfl <;> exact absurd hc (by decide)
  simp [isPlain, isCharacter_of_isXmlBlank hc, hmarks]

/-- Whether content goes on, whatever comes next but an end tag. -/
def GoesOn (isEntity : Bool) (progress : Progress) : Prop :=
  ¬ (progress.opened.isEmpty && !isEntity)

/-- Text is passed with all the plain characters behind it. -/
theorem run_content_text (hturn : contentTurn isEntity follow entities progress c r =
    .ok (some do let _ ← takeWhile isPlain; return progress)) (j : Journal) :
    run (loop (contentTurn isEntity follow entities) progress) j (c :: r) =
      run (loop (contentTurn isEntity follow entities) progress) j (r.dropWhile isPlain) := by
  rw [run_loop_of_some hturn, run_bind, run_bind, run_takeWhile, ok_bind, run_pure, ok_bind]

/-- A word does not come next where its first code point does not. -/
theorem isPrefixOf_eq_false {word : Text} {d : CodePoint} (hword : word.head? = some d)
    (hc : c ≠ d) : Text.isPrefixOf word (c :: r) = false := by
  obtain ⟨word, rfl⟩ := List.head?_eq_some_iff.mp hword
  rw [isPrefixOf, List.isPrefixOf_cons_cons, beq_eq_false_iff_ne.mpr hc.symm, Bool.false_and]

/-- Content that goes on ends before an opening bracket only. -/
theorem contentTurn_of_ne (hgoes : GoesOn isEntity progress) (hc : c ≠ ofChar '<') :
    contentTurn isEntity follow entities progress c r =
      if c = '&' then
        .ok (some do
          match ← reference entities with
          | .entity name body => follow name body progress
          | _ => return progress)
      else if !isCharacter c then .error (characterComplaint .contentCharacter c)
      else if Text.isPrefixOf "]]>" (c :: r) then .error .sectionEndInContent
      else .ok (some do let _ ← takeWhile isPlain; return progress) := by
  rw [contentTurn, isPrefixOf_eq_false rfl hc, Bool.or_false, if_neg hgoes, if_neg hc]

theorem contentTurn_plain (hgoes : GoesOn isEntity progress) (hc : isPlain c) :
    contentTurn isEntity follow entities progress c r =
      .ok (some do let _ ← takeWhile isPlain; return progress) := by
  simp only [isPlain, Bool.and_eq_true, bne_iff_ne] at hc
  obtain ⟨⟨⟨hcharacter, hopening⟩, hreference⟩, hsection⟩ := hc
  rw [contentTurn_of_ne hgoes hopening, if_neg hreference, if_neg (by simp [hcharacter]),
    if_neg (by rw [isPrefixOf_eq_false rfl hsection]; simp)]

theorem run_content_dropWhile (hgoes : GoesOn isEntity progress) (j : Journal) (t : Text) :
    run (loop (contentTurn isEntity follow entities) progress) j t =
      run (loop (contentTurn isEntity follow entities) progress) j (t.dropWhile isPlain) := by
  cases t with
  | nil => rfl
  | cons c r =>
    by_cases hc : isPlain c
    · rw [run_content_text (contentTurn_plain hgoes hc), List.dropWhile_cons_of_pos hc]
    · rw [List.dropWhile_cons_of_neg hc]

/-- A blank that is no character is refused. -/
theorem contentTurn_blank (hgoes : GoesOn isEntity progress) (hc : c.isBlank) (hplain : ¬ isPlain c) :
    ∃ e, contentTurn isEntity follow entities progress c r = .error e := by
  have hmarks : c ≠ ofChar '<' ∧ c ≠ ofChar '&' ∧ c ≠ ofChar ']' := by
    refine ⟨?_, ?_, ?_⟩ <;> rintro rfl <;> exact absurd hc (by decide)
  have hcharacter : isCharacter c = false := by
    simpa [isPlain, hmarks] using hplain
  rw [contentTurn_of_ne hgoes hmarks.1, if_neg hmarks.2.1, hcharacter]
  exact ⟨_, rfl⟩

/-- Content where nothing goes on ends at once. -/
theorem run_content_end (hgoes : ¬ GoesOn isEntity progress) (j : Journal) (t : Text) :
    run (loop (contentTurn isEntity follow entities) progress) j t = .ok (progress, t, j) := by
  cases t with
  | nil => exact run_loop_nil _ _
  | cons c r =>
    obtain ⟨hempty, hentity⟩ : progress.opened.isEmpty ∧ !isEntity := by
      simpa [GoesOn] using hgoes
    exact run_loop_of_none (by rw [contentTurn, hempty, hentity]; rfl) j

/-- A turn of content in two texts. -/
abbrev ContentTurns (isEntity : Bool) (follow follow' : Text → EntityBody → Progress → Scan Progress)
    (entities entities' : Entities) (after : Bool) (progress progress' : Progress) (t t' : Text) :
    Prop :=
  Turn (fun _ => False) (fun _ => Progress.Alike) (Both Progress.Alike true)
    (contentTurn isEntity follow entities) (contentTurn isEntity follow' entities') after
    progress progress' t t'

/-- Text is passed up to its end, or to a blank in a gap that is no character. -/
theorem contentTurns_text (hgoes : GoesOn isEntity progress) (hp : progress.Alike progress')
    {passed : Bool} {u u' : Text} (hu : Regaps passed u u')
    (hshorter : 2 * (u.dropWhile isPlain).length < 2 * t.length + after.toNat)
    (hrun : ∀ j, run (loop (contentTurn isEntity follow entities) progress) j t =
      run (loop (contentTurn isEntity follow entities) progress) j (u.dropWhile isPlain))
    (hrun' : ∀ j, run (loop (contentTurn isEntity follow' entities') progress') j t' =
      run (loop (contentTurn isEntity follow' entities') progress') j (u'.dropWhile isPlain)) :
    ContentTurns isEntity follow follow' entities entities' after progress progress' t t' := by
  rcases hu.dropWhile_gap (by decide) (fun _ => isPlain_of_isXmlBlank) with
    hr | ⟨c, r, hr, hc, hplain⟩
  · exact .jumps (by simpa using hshorter) (fun j out hout => by rwa [hrun] at hout) hrun' hp hr
  · obtain ⟨e, he⟩ := contentTurn_blank hgoes hc hplain
    refine .strays fun j a v k hout => ?_
    rw [hrun, hr, run_loop_of_error he] at hout
    exact absurd hout (by simp)

/-- Markup is passed in both texts, or ends the content in both. -/
theorem contentTurns_markup (he : entities.Alike entities') (hp : progress.Alike progress')
    {r r' : Text} (h : Regaps false (ofChar '<' :: r) (ofChar '<' :: r')) :
    ContentTurns isEntity follow follow' entities entities' after progress progress'
      (ofChar '<' :: r) (ofChar '<' :: r') := by
  have hend : Text.isPrefixOf "</" (ofChar '<' :: r) = Text.isPrefixOf "</" (ofChar '<' :: r') :=
    (h.isPrefixOf (by decide)).1
  refine .moves ?_
  unfold contentTurn
  rw [hp.isEmpty_opened, hend, if_pos rfl, if_pos rfl]
  refine .ite (fun _ => .stops ⟨hp, h.loosen⟩) fun _ => .passes ?_
  exact (follows_markup he hp _ _ (h.tail (by decide))).mono fun _ _ _ _ hu => ⟨true, hu.1, hu.2⟩

/-- A code point that is no markup stands in both texts: it begins text, or it begins a reference
in both, or it is refused. -/
theorem contentTurns_visible (he : entities.Alike entities')
    (hfollow : ∀ name body body' p p' u u', body.Alike body' → p.Alike p' → Regaps false u u' →
      Follows (follow name body p) (follow' name body' p') u u' (Both Progress.Alike false))
    (hgoes : GoesOn isEntity progress) (hgoes' : GoesOn isEntity progress')
    (hp : progress.Alike progress') (hc : c ≠ ofChar '<') {r' : Text}
    (h : Regaps false (c :: r) (c :: r')) (hr : Regaps (c == ofChar '>') r r') :
    ContentTurns isEntity follow follow' entities entities' after progress progress'
      (c :: r) (c :: r') := by
  have hsection : Text.isPrefixOf "]]>" (c :: r) = Text.isPrefixOf "]]>" (c :: r') :=
    (h.isPrefixOf (by decide)).1
  by_cases htextual : c ≠ ofChar '&' ∧ isCharacter c ∧ ¬ Text.isPrefixOf "]]>" (c :: r)
  · obtain ⟨hreference, hcharacter, hnosection⟩ := htextual
    have hturn : contentTurn isEntity follow entities progress c r =
        .ok (some do let _ ← takeWhile isPlain; return progress) := by
      rw [contentTurn_of_ne hgoes hc, if_neg hreference, if_neg (by simp [hcharacter]),
        if_neg hnosection]
    have hturn' : contentTurn isEntity follow' entities' progress' c r' =
        .ok (some do let _ ← takeWhile isPlain; return progress') := by
      rw [contentTurn_of_ne hgoes' hc, if_neg hreference, if_neg (by simp [hcharacter]),
        if_neg (hsection ▸ hnosection)]
    refine contentTurns_text hgoes hp hr ?_ (run_content_text hturn) (run_content_text hturn')
    have := (List.dropWhile_sublist (l := r) isPlain).length_le
    rw [List.length_cons]
    omega
  · refine .moves ?_
    rw [contentTurn_of_ne hgoes hc, contentTurn_of_ne hgoes' hc, ← hsection]
    refine .ite (fun hreference => .passes ?_) fun hreference => .ite (fun _ => .fails _ _)
      fun hcharacter => .ite (fun _ => .fails _ _) fun hnosection =>
        absurd ⟨hreference, by simpa using hcharacter, hnosection⟩ htextual
    subst hreference
    refine FollowsOr.bind (follows_reference he (h.tail (by decide))) ?_
    rintro _ _ u u' ⟨halike, hu⟩
    cases halike with
    | plain x => exact follows_pure ⟨false, hp, hu⟩
    | unknown => exact follows_pure ⟨false, hp, hu⟩
    | entity name hbody =>
      exact (hfollow _ _ _ _ _ _ _ hbody hp hu).mono fun _ _ _ _ hv => ⟨false, hv.1, hv.2⟩

/-- **Content in two texts.**  A gap is text of the element around it, unless the content ends
there. -/
theorem follows_contentWith (he : entities.Alike entities')
    (hfollow : ∀ name body body' p p' u u', body.Alike body' → p.Alike p' → Regaps false u u' →
      Follows (follow name body p) (follow' name body' p') u u' (Both Progress.Alike false))
    (hp : progress.Alike progress') (h : Regaps after t t') :
    FollowsOr lost (contentWith isEntity follow entities progress)
      (contentWith isEntity follow' entities' progress') t t' (Both Progress.Alike true) := by
  suffices hloop : Follows (loop (contentTurn isEntity follow entities) progress)
      (loop (contentTurn isEntity follow' entities') progress') t t' (Both Progress.Alike true) by
    refine hloop.bind ?_
    rintro ⟨opened, identifiers⟩ ⟨opened', identifiers'⟩ r r' ⟨⟨hopened, hidentifiers⟩, hr⟩
    cases hopened with
    | nil => exact follows_pure ⟨⟨.nil, hidentifiers⟩, hr⟩
    | cons => exact follows_fail _
  refine FollowsOr.loop (fun _ => Progress.Alike) ?_ hp h
  clear hp h
  intro after p p' t t' hp h
  have hempty : p.opened.isEmpty = p'.opened.isEmpty := hp.isEmpty_opened
  by_cases hgoes : GoesOn isEntity p
  · have hgoes' : GoesOn isEntity p' := by rwa [GoesOn, ← hempty]
    rcases h.gap_cases with haligned | ⟨rfl, -⟩
    · rcases haligned.aligned_cases with ⟨rfl, rfl⟩ | ⟨c, r, r', rfl, rfl, hr⟩
      · exact .ends ⟨hp, .nil true⟩
      · by_cases hopening : c = ofChar '<'
        · subst hopening
          exact contentTurns_markup he hp haligned
        · exact contentTurns_visible he hfollow hgoes hgoes' hp hopening haligned hr
    · refine contentTurns_text hgoes hp h ?_ (run_content_dropWhile hgoes · t)
        (run_content_dropWhile hgoes' · t')
      have := (List.dropWhile_sublist (l := t) isPlain).length_le
      rw [Bool.toNat_true]
      omega
  · have hgoes' : ¬ GoesOn isEntity p' := by rwa [GoesOn, ← hempty]
    exact .stays (run_content_end hgoes · t) (run_content_end hgoes' · t') ⟨hp, h.loosen⟩

end Content

/-- An entity is content of its own, read where it is met first. -/
theorem follows_entityInContent (he : entities.Alike entities') (depth : ℕ) (inside : List Text)
    (name : Text) {body body' : EntityBody} (hbody : body.Alike body')
    {progress progress' : Progress} (hp : progress.Alike progress') (h : Regaps after t t') :
    FollowsOr lost (entityInContent entities depth inside name body progress)
      (entityInContent entities' depth inside name body' progress') t t'
      (Both Progress.Alike after) := by
  induction depth generalizing lost inside name body body' progress progress' t t' after with
  | zero => exact follows_fail _
  | succ depth ih =>
    cases hbody with
    | external => exact follows_pure ⟨hp, h⟩
    | unparsed => exact follows_fail _
    | @internal x x' hx =>
      rw [entityInContent, entityInContent]
      refine .when (fun _ => follows_fail _) h fun r r' hr => ?_
      have houtside : Progress.Alike { progress with opened := [] } { progress' with opened := [] } :=
        ⟨.nil, hp.identifiers⟩
      suffices hread : Follows (readOnce name x _ _) (readOnce name x' _ _) r r'
          (Both Progress.Alike after) by
        refine hread.bind ?_
        rintro read read' u u' ⟨hread, hu⟩
        exact follows_pure ⟨⟨hp.opened, hread.identifiers⟩, hu⟩
      refine follows_readOnce hx ?_ ⟨houtside, hr⟩
      refine FollowsOr.bind (follows_contentWith he ?_ houtside hx) ?_
      · intro name body body' p p' u u' hbody hp hu
        exact ih _ name hbody hp hu
      · rintro left left' u u' ⟨hleft, hu⟩
        have hend : Follows (expectEnd .entityNotBalanced) (expectEnd .entityNotBalanced) u u'
            fun _ _ _ _ => True := follows_expectEnd _ _ hu.isEmpty_eq trivial
        exact hend.bind fun _ _ _ _ _ => follows_pure ⟨hleft, hr⟩

theorem follows_content (he : entities.Alike entities') {progress progress' : Progress}
    (hp : progress.Alike progress') (h : Regaps after t t') :
    FollowsOr lost (content entities progress) (content entities' progress') t t'
      (Both Eq true) := by
  refine FollowsOr.bind (follows_contentWith he ?_ hp h) ?_
  · intro name body body' p p' u u' hbody hp hu
    exact follows_entityInContent he _ _ name hbody hp hu
  · exact fun _ _ _ _ hu => follows_pure ⟨rfl, hu.2⟩

end Scan

end StructuredText.Xml
