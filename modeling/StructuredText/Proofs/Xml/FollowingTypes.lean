/-
# Document types in two texts

In a document type gaps stand between declarations, and inside the literals that these hold.  The
text of an entity keeps its gaps, so the entities that two document types declare stand for texts
that differ in their gaps.

* `follows_literal` passes a literal whose text does not matter;
* `follows_entityText` follows the text of an entity, `follows_entityDeclaration` its declaration;
* `follows_declarations` and `follows_documentType` follow the rest.
-/
import Mathlib
import StructuredText.Proofs.Text.Digits
import StructuredText.Proofs.Xml.FollowingEntities
import StructuredText.Proofs.Xml.FollowingSections
import StructuredText.Xml.DocumentType

namespace StructuredText.Xml.Scan

open Text CodePoint

variable {lost : Text → Prop} {t t' : Text} {after : Bool} {entities entities' : Entities}

/-! ## Literals -/

/-- The two quotes. -/
def IsQuote (c : CodePoint) : Prop := c = ofChar '"' ∨ c = ofChar '\''

theorem IsQuote.ne_closing {c : CodePoint} (hc : IsQuote c) : c ≠ ofChar '>' := by
  rcases hc with rfl | rfl <;> decide

theorem IsQuote.ne_opening {c : CodePoint} (hc : IsQuote c) : c ≠ ofChar '<' := by
  rcases hc with rfl | rfl <;> decide

theorem IsQuote.not_isBlank {c : CodePoint} (hc : IsQuote c) : ¬ c.isBlank := by
  rcases hc with rfl | rfl <;> decide

theorem IsQuote.ne_of_isXmlBlank {c d : CodePoint} (hc : IsQuote c) (hd : isXmlBlank d) :
    d ≠ c := by
  rintro rfl
  exact hc.not_isBlank (isBlank_of_isXmlBlank hd)

theorem follows_requiredBlanks (explanation : Text) (h : Regaps false t t') :
    FollowsOr lost (requiredBlanks explanation) (requiredBlanks explanation) t t'
      (Both Eq false) := by
  refine FollowsOr.bind_same (follows_blanks h) fun blank r r' hr => ?_
  exact .ite (fun _ => follows_pure ⟨rfl, hr⟩) fun _ => follows_fail _

/-- A quote, which is passed: what is read of a declaration and of the name of something outside. -/
def quoteOr (complaint : Complaint) : Scan CodePoint := do
  match ← peek with
  | some c => if c = '"' ∨ c = '\'' then skip; return c else fail complaint
  | none => fail complaint

theorem follows_quoteOr (complaint : Complaint) (h : Regaps false t t') :
    FollowsOr lost (quoteOr complaint) (quoteOr complaint) t t' fun c c' r r' =>
      c = c' ∧ IsQuote c ∧ Regaps false r r' := by
  refine follows_peek_bind h (fun _ _ => follows_fail _) ?_
  rintro c r r' rfl rfl -
  refine .ite (fun hc => follows_skip_bind (follows_pure ⟨rfl, hc, ?_⟩)) fun _ => follows_fail _
  exact h.tail (IsQuote.ne_closing hc)

/-- A literal is passed up to its quote, whatever gaps it holds. -/
theorem follows_literal {quote : CodePoint} (hquote : IsQuote quote) {p : CodePoint → Bool}
    (hp : p (ofChar '>') = false ∨ p (ofChar '<') ∧ ∀ c, isXmlBlank c → p c)
    (complaint : Complaint) (h : Regaps false t t') :
    FollowsOr lost (do let _ ← takeWhile p; expect [quote] complaint)
      (do let _ ← takeWhile p; expect [quote] complaint) t t' (Both Eq false) := by
  have hexpect : ∀ {r r' : Text}, Regaps false r r' →
      FollowsOr lost (expect [quote] complaint) (expect [quote] complaint) r r' (Both Eq false) :=
    fun hr => follows_expect false (isWord_singleton hquote.ne_closing) _ _ hr
  rcases hp with hp | ⟨hopening, hblank⟩
  · exact FollowsOr.bind_same (follows_takeWhile hp h) fun _ _ _ hr => hexpect hr
  · rcases h.takeWhile_literal hopening hblank with ⟨-, hdrop⟩ | ⟨c, r, hdrop, hc, -⟩
    · have htake : Follows (takeWhile p) (takeWhile p) t t' (Both (fun _ _ => True) false) :=
        .of_run (fun _ => rfl) (fun _ => rfl) ⟨trivial, hdrop⟩
      exact htake.bind fun _ _ _ _ hr => hexpect hr.2
    · -- The literal ends at a blank, which is no quote.
      refine .of_fails fun j out hrun => ?_
      have hquote' : ¬ Text.isPrefixOf [quote] (c :: r) := by
        rw [isPrefixOf_singleton]
        rintro ⟨⟩
        exact hquote.not_isBlank hc
      rw [run_bind, run_takeWhile, hdrop, ok_bind, run_expect, if_neg hquote'] at hrun
      exact absurd hrun (by simp)

theorem follows_externalName {p : CodePoint → Bool}
    (hp : p (ofChar '>') = false ∨ p (ofChar '<') ∧ ∀ c, isXmlBlank c → p c)
    (h : Regaps false t t') :
    FollowsOr lost (externalName p) (externalName p) t t' (Both Eq false) := by
  refine FollowsOr.bind (follows_quoteOr _ h) ?_
  rintro quote _ r r' ⟨rfl, hquote, hr⟩
  refine follows_literal hquote ?_ _ hr
  rcases hp with hp | ⟨hopening, hblank⟩
  · exact Or.inl (by simp [hp])
  · refine Or.inr ⟨by simp [hopening, hquote.ne_opening.symm], fun c hc => ?_⟩
    simp [hblank c hc, hquote.ne_of_isXmlBlank hc]

theorem follows_externalPlace (h : Regaps false t t') :
    FollowsOr lost externalPlace externalPlace t t' (Both Eq false) := by
  have hcharacter : isCharacter (ofChar '>') = false ∨
      isCharacter (ofChar '<') ∧ ∀ c, isXmlBlank c → isCharacter c :=
    Or.inr ⟨by decide, fun _ => isCharacter_of_isXmlBlank⟩
  refine follows_accept_bind false (by decide) h ?_ ?_
  · rintro r r' - - hr
    refine FollowsOr.bind_same (follows_requiredBlanks _ hr) fun _ r r' hr => ?_
    refine FollowsOr.bind_same (follows_externalName hcharacter hr) fun _ r r' hr => ?_
    exact follows_pure ⟨rfl, hr⟩
  · refine follows_accept_bind false (by decide) h ?_ (follows_pure ⟨rfl, h⟩)
    rintro r r' - - hr
    refine FollowsOr.bind_same (follows_requiredBlanks _ hr) fun _ r r' hr => ?_
    refine FollowsOr.bind_same (follows_externalName (Or.inl (by decide)) hr) fun _ r r' hr => ?_
    refine FollowsOr.bind_same (follows_requiredBlanks _ hr) fun _ r r' hr => ?_
    refine FollowsOr.bind_same (follows_externalName hcharacter hr) fun _ r r' hr => ?_
    exact follows_pure ⟨rfl, hr⟩

/-! ## Entities -/

/-- What `entityText` does at a reference. -/
def textReference (read : Text) : Scan Text := do
  if ← accept "#" then return (← characterNumber).reverse ++ read
  let some name ← plainName | fail (forbiddenMark '&')
  expect ";" (forbiddenMark '&')
  return Text.concat [";", name.reverse, "&", read]

/-- What `entityText` does at one code point. -/
def entityTextTurn (read : Text) (c : CodePoint) (_ : Text) :
    Except Complaint (Option (Scan Text)) :=
  if c = '&' then .ok (some (textReference read))
  else if c = '%' then
    .ok (some do
      let some _ ← plainName | fail (forbiddenMark '%')
      expect ";" (forbiddenMark '%')
      fail (.typeDeclaration "PEReference forbidden in internal subset"))
  else if isCharacter c then .ok (some (pure (c :: read)))
  else .error (.typeDeclaration "invalid character in entity value")

/-- What was gathered of two texts, put before what is left of them, keeps the gaps. -/
def Gathered (after : Bool) (read read' : Text) : Prop :=
  ∀ x x' : Text, Regaps after x x' → Regaps false (read.reverse ++ x) (read'.reverse ++ x')

namespace Gathered

variable {read read' : Text}

theorem cons (c : CodePoint) (h : Gathered after read read') :
    Gathered (c == ofChar '>') (c :: read) (c :: read') := by
  intro x x' hx
  simpa using h (c :: x) (c :: x') (.cons hx)

theorem append (y : Text) (h : Gathered after read read') :
    Gathered false (y.reverse ++ read) (y.reverse ++ read') := by
  intro x x' hx
  simpa using h (y ++ x) (y ++ x') (hx.append_left y)

theorem gap {w w' : Text} (hw : w.isBlank) (hw' : w'.all isXmlBlank)
    (h : Gathered true read read') :
    Gathered false ((w ++ [ofChar '<']).reverse ++ read) ((w' ++ [ofChar '<']).reverse ++ read') := by
  intro x x' hx
  simpa using h (w ++ ofChar '<' :: x) (w' ++ ofChar '<' :: x') (.gap hw hw' hx)

end Gathered

/-- What may stand in a gap begins no reference. -/
theorem entityTextTurn_gap {c : CodePoint} (hgap : c.isBlank ∨ c = ofChar '<')
    (hc : isCharacter c) (read r : Text) :
    entityTextTurn read c r = .ok (some (pure (c :: read))) := by
  have hmarks : c ≠ ofChar '&' ∧ c ≠ ofChar '%' := by
    constructor <;> rintro rfl <;> exact absurd hgap (by decide)
  rw [entityTextTurn, if_neg hmarks.1, if_neg hmarks.2, if_pos hc]

theorem entityTextTurn_gap_error {c : CodePoint} (hgap : c.isBlank) (hc : ¬ isCharacter c)
    (read r : Text) : ∃ e, entityTextTurn read c r = .error e := by
  have hmarks : c ≠ ofChar '&' ∧ c ≠ ofChar '%' := by
    constructor <;> rintro rfl <;> exact absurd hgap (by decide)
  exact ⟨_, by rw [entityTextTurn, if_neg hmarks.1, if_neg hmarks.2, if_neg hc]⟩

/-- A gap is passed if it is made of characters. -/
theorem run_entityText_gap {w : Text} (hw : w.isBlank) (hall : ∀ c ∈ w, isCharacter c) (read : Text)
    (j : Journal) (x : Text) :
    run (loop entityTextTurn read) j (w ++ ofChar '<' :: x) =
      run (loop entityTextTurn ((w ++ [ofChar '<']).reverse ++ read)) j x := by
  rw [List.append_cons]
  refine run_loop_gather (fun read c hc r => ?_) read j x
  rcases List.mem_append.mp hc with hc | hc
  · exact entityTextTurn_gap (Or.inl (isBlank_of_mem hw hc)) (hall c hc) read r
  · rw [List.mem_singleton.mp hc]
    exact entityTextTurn_gap (Or.inr rfl) (by decide) read r

/-- A gap goes on behind its bracket, or it holds a blank that is no character and is refused. -/
theorem turn_entityText_gap {post : Text → Text → Text → Text → Prop} {read read' w w' u u' : Text}
    (hw : w.isBlank) (hw' : w'.all isXmlBlank) (hu : Regaps false u u')
    (hread : Gathered true read read') :
    Turn lost Gathered post entityTextTurn entityTextTurn true read read' (w ++ ofChar '<' :: u)
      (w' ++ ofChar '<' :: u') := by
  rcases dropWhile_blanks isCharacter hw with hall | ⟨c, r, hr, hc, hcharacter⟩
  · have hall' : ∀ c ∈ w', isCharacter c := fun c hc =>
      isCharacter_of_isXmlBlank (List.all_eq_true.mp hw' c hc)
    refine .jumps ?_ (fun j out hrun => by rwa [run_entityText_gap hw hall] at hrun)
      (fun j => run_entityText_gap (isBlank_of_all_isXmlBlank hw') hall' read' j u')
      (hread.gap hw hw') hu
    rw [List.length_append, List.length_cons, Bool.toNat_false, Bool.toNat_true]
    omega
  · refine .strays fun j a x k hrun => absurd hrun ?_
    rw [← List.takeWhile_append_dropWhile (l := w) (p := isCharacter), hr, List.append_assoc,
      List.cons_append]
    refine run_loop_ne_ok (fun read d hd x => Or.inr ⟨d :: read, ?_⟩)
      (entityTextTurn_gap_error hc hcharacter) j _
    have hblank := isBlank_of_mem hw ((List.takeWhile_sublist isCharacter).subset hd)
    exact entityTextTurn_gap (Or.inl hblank) (List.mem_takeWhile_imp hd) read x

theorem follows_textReference {read read' : Text} (hread : Gathered after read read')
    (h : Regaps false t t') :
    FollowsOr lost (textReference read) (textReference read') t t' fun v v' u u' =>
      Gathered false v v' ∧ Regaps false u u' := by
  refine follows_accept_bind false (by decide) h ?_ ?_
  · rintro r r' - - hr
    refine FollowsOr.bind_same (follows_characterNumber hr) fun x u u' hu => ?_
    exact follows_pure ⟨hread.append x, hu⟩
  · refine FollowsOr.bind_same (follows_plainName h) fun name r r' hr => ?_
    cases name with
    | none => exact follows_fail _
    | some name =>
      refine FollowsOr.bind_same (follows_expect false (by decide) _ _ hr) fun _ u u' hu => ?_
      have hconcat : ∀ read : Text, Text.concat [";", name.reverse, "&", read] =
          (("&" : Text) ++ name ++ (";" : Text)).reverse ++ read := by
        intro read
        simp only [Text.concat, List.reverse_append, List.flatten_cons, List.flatten_nil,
          List.append_nil, List.append_assoc]
        rfl
      rw [hconcat, hconcat]
      exact follows_pure ⟨hread.append _, hu⟩

/-- The gaps of a literal stay in the text of the entity. -/
theorem follows_entityText (h : Regaps false t t') :
    FollowsOr lost entityText entityText t t' fun x x' _ _ => Regaps false x x' := by
  have hloop : Follows (loop entityTextTurn []) (loop entityTextTurn []) t t'
      fun read read' _ _ => Regaps false read.reverse read'.reverse := by
    refine FollowsOr.loop Gathered ?_ (fun _ _ hx => hx) h
    intro after read read' t t' hread h
    rcases h.gap_cases with haligned | ⟨rfl, w, w', u, u', hw, hw', hu, rfl, rfl⟩
    · rcases haligned.aligned_cases with ⟨rfl, rfl⟩ | ⟨c, r, r', rfl, rfl, hr⟩
      · exact .ends (by simpa using hread [] [] (.nil _))
      · refine .moves (.ite (fun hc => .passes ?_) fun _ => .ite (fun hc => .passes ?_) fun _ =>
          .ite (fun _ => .steps (hread.cons c) hr) fun _ => .fails _ _)
        · subst hc
          exact (follows_textReference hread (haligned.tail (by decide))).mono
            fun _ _ _ _ hv => ⟨false, hv⟩
        · subst hc
          refine FollowsOr.bind_same (follows_plainName (haligned.tail (by decide)))
            fun name u u' hu => ?_
          cases name with
          | none => exact follows_fail _
          | some name =>
            exact FollowsOr.bind_same (follows_expect false (by decide) _ _ hu) fun _ _ _ _ =>
              follows_fail _
    · exact turn_entityText_gap hw hw' hu hread
  exact hloop.bind fun _ _ _ _ hread => follows_pure hread

/-- What `entityBody` does where no text is given. -/
def externalBody : Scan EntityBody := do
  unless ← externalPlace do fail (.typeDeclaration "Entity value required")
  if ← isNext ">" then return .external
  requiredBlanks "Space required before 'NDATA'"
  unless ← accept "NDATA" do return .external
  requiredBlanks "Space required after 'NDATA'"
  let _ ← plainName
  return .unparsed

theorem follows_externalBody (h : Regaps false t t') :
    FollowsOr lost externalBody externalBody t t' (Both EntityBody.Alike false) := by
  refine FollowsOr.bind_same (follows_externalPlace h) fun place r r' hr => ?_
  refine .unless (fun _ => follows_fail _) hr fun r r' hr => ?_
  refine follows_isNext_bind true (by decide) hr fun last _ => ?_
  refine .ite (fun _ => follows_pure ⟨.external, hr⟩) fun _ => ?_
  refine FollowsOr.bind_same (follows_requiredBlanks _ hr) fun _ r r' hr => ?_
  refine follows_accept_bind false (by decide) hr ?_ (follows_pure ⟨.external, hr⟩)
  rintro u u' - - hu
  refine FollowsOr.bind_same (follows_requiredBlanks _ hu) fun _ u u' hu => ?_
  refine FollowsOr.bind_same (follows_plainName hu) fun _ u u' hu => ?_
  exact follows_pure ⟨.unparsed, hu⟩

/-- The text of a literal keeps its gaps. -/
theorem follows_literalText {quote : CodePoint} (hquote : IsQuote quote) (h : Regaps false t t') :
    Follows (takeWhile fun c => c != quote) (takeWhile fun c => c != quote) t t'
      (Both (Regaps false) false) := by
  have hopening : ofChar '<' != quote := by simp [hquote.ne_opening.symm]
  have hblank : ∀ c, isXmlBlank c → c != quote := by
    intro c hc
    simp [hquote.ne_of_isXmlBlank hc]
  rcases h.takeWhile_literal hopening hblank with hboth | ⟨c, x, -, hc, hstop⟩
  · exact .of_run (fun _ => rfl) (fun _ => rfl) hboth
  · -- A literal ends at its quote only, which is no blank.
    obtain rfl : c = quote := by simpa using hstop
    exact absurd hc hquote.not_isBlank

theorem follows_entityBody (h : Regaps false t t') :
    FollowsOr lost entityBody entityBody t t' (Both EntityBody.Alike false) := by
  refine follows_peek_bind h ?_ ?_
  · rintro rfl rfl
    exact follows_externalBody h
  · rintro quote r r' rfl rfl -
    refine .ite (fun hquote => ?_) fun _ => follows_externalBody h
    have hquote : IsQuote quote := hquote
    refine follows_skip_bind ?_
    have hr : Regaps false r r' := h.tail hquote.ne_closing
    have hmove : Follows (moveColumns (-1)) (moveColumns (-1)) r r' (Both Eq false) :=
      follows_moveColumns _ _ ⟨rfl, hr⟩
    refine hmove.bind_same fun _ r r' hr => ?_
    refine (follows_literalText hquote hr).bind ?_
    rintro literal literal' u u' ⟨hliteral, hu⟩
    have hcount : Follows (countBytes literal) (countBytes literal') u u' (Both Eq false) :=
      follows_countBytes _ _ ⟨rfl, hu⟩
    refine hcount.bind_same fun _ u u' hu => ?_
    refine follows_isNext_bind false (isWord_singleton hquote.ne_closing) hu fun next hnext => ?_
    cases next with
    | false => exact follows_fail_bind _ _
    | true =>
      obtain ⟨v, rfl⟩ := List.head?_eq_some_iff.mp (isPrefixOf_singleton.mp hnext)
      obtain ⟨v', rfl⟩ := List.head?_eq_some_iff.mp (hu.head?_eq ▸ rfl : u'.head? = some quote)
      have hv : Regaps false v v' := hu.tail hquote.ne_closing
      have htext : Follows (again literal entityText) (again literal' entityText) (quote :: v)
          (quote :: v') fun x x' y y' => Regaps false x x' ∧ y = quote :: v ∧ y' = quote :: v' :=
        follows_readAt ((follows_entityText hliteral).mono fun _ _ _ _ hx => ⟨hx, rfl, rfl⟩)
      refine htext.bind ?_
      rintro x x' _ _ ⟨hx, rfl, rfl⟩
      exact follows_skip_bind (follows_pure ⟨.internal hx, hv⟩)

theorem follows_entityName (h : Regaps false t t') :
    FollowsOr lost entityName entityName t t' (Both Eq false) := by
  refine FollowsOr.bind_same (follows_plainName h) fun name r r' hr => ?_
  cases name with
  | none => exact follows_fail _
  | some name =>
    refine .when (fun _ => follows_note _ _ ⟨rfl, hr⟩) hr fun r r' hr => ?_
    refine FollowsOr.bind_same (follows_requiredBlanks _ hr) fun _ r r' hr => ?_
    exact follows_pure ⟨rfl, hr⟩

/-- A text with an opening bracket stands for no character that needs no declaration. -/
theorem standsFor_of_mem {c : CodePoint} (hc : c.val < 0x100) {x : Text} (hx : ofChar '<' ∈ x) :
    standsFor c x = false := by
  have hhex : ∀ n < 16, ofHexDigit n ≠ ofChar '<' := by decide
  rw [Bool.eq_false_iff]
  intro hstands
  simp only [standsFor, Bool.or_eq_true, Bool.and_eq_true, beq_iff_eq, bne_iff_ne] at hstands
  rcases hstands with (⟨⟨rfl, hopening⟩, -⟩ | rfl) | ⟨hnumber, hdigits⟩
  · exact hopening (List.mem_singleton.mp hx).symm
  · -- The number of a character is made of digits.
    simp only [Text.concat, List.flatten_cons, List.flatten_nil, List.append_nil,
      List.mem_append] at hx
    rcases hx with hx | hx | hx
    · exact absurd hx (by decide)
    · exact absurd (isDigit_of_mem_ofNat _ _ hx) (by decide)
    · exact absurd hx (by decide)
  · obtain ⟨digits, rfl⟩ := List.isPrefixOf_iff_prefix.mp hnumber
    have hmem : ofChar '<' ∈ digits := (List.mem_append.mp hx).resolve_left (by decide)
    have hlower : ofChar '<' ∈ (List.drop 3 (("&#x" : Text) ++ digits)).map toAsciiLower :=
      List.mem_map.mpr ⟨ofChar '<', hmem, by decide⟩
    rw [hdigits] at hlower
    rcases List.mem_cons.mp hlower with h | h
    · exact hhex _ (by omega) h.symm
    · rcases List.mem_cons.mp h with h | h
      · exact hhex _ (by omega) h.symm
      · exact absurd h (by decide)

theorem misdeclares_congr (name : Text) {body body' : EntityBody} (h : body.Alike body') :
    misdeclares name body = misdeclares name body' := by
  have hascii : ∀ e ∈ standardEntities, ∀ c ∈ e.2, c.val < 0x100 := by decide
  unfold misdeclares
  cases hfind : standardEntities.find? (fun e => decide (e.1 = name)) with
  | none => cases h <;> rfl
  | some e =>
    obtain ⟨other, character⟩ := e
    cases h with
    | external => rfl
    | unparsed => rfl
    | @internal x x' hx =>
      by_cases hopening : ofChar '<' ∈ x
      · have hstands : ∀ c ∈ character, standsFor c x = standsFor c x' := by
          intro c hc
          have hval := hascii _ (List.mem_of_find?_eq_some hfind) c hc
          rw [standsFor_of_mem hval hopening, standsFor_of_mem hval (hx.mem_opening hopening)]
        have hall : character.all (standsFor · x) = character.all (standsFor · x') := by
          rw [Bool.eq_iff_iff, List.all_eq_true, List.all_eq_true]
          exact forall₂_congr fun c hc => by rw [hstands c hc]
        exact congrArg Bool.not hall
      · rw [hx.eq_of_not_mem hopening]

theorem follows_entityDeclaration (he : entities.Alike entities') (h : Regaps false t t') :
    FollowsOr lost (entityDeclaration entities) (entityDeclaration entities') t t'
      (Both Entities.Alike true) := by
  refine FollowsOr.bind_same (follows_requiredBlanks _ h) fun _ r r' hr => ?_
  refine FollowsOr.bind_same (follows_accept_same (by decide) hr) fun isParameter r r' hr => ?_
  refine .when (fun _ => follows_requiredBlanks _ hr) hr fun r r' hr => ?_
  refine FollowsOr.bind_same (follows_entityName hr) fun name r r' hr => ?_
  refine FollowsOr.bind (follows_entityBody hr) ?_
  rintro body body' r r' ⟨hbody, hr⟩
  dsimp only
  rw [misdeclares_congr name hbody]
  refine .when (fun _ => follows_fail _) hr fun r r' hr => ?_
  refine FollowsOr.bind_same (follows_blanks hr) fun _ r r' hr => ?_
  refine FollowsOr.bind_same (follows_expect true (by decide) _ _ hr) fun _ r r' hr => ?_
  have hnew : EntitiesAlike [(name, body)] [(name, body')] := .cons ⟨rfl, hbody⟩ .nil
  refine .ite (fun _ => follows_pure ⟨?_, hr⟩) fun _ => follows_pure ⟨?_, hr⟩
  · exact ⟨he.declared, List.rel_append he.parameters hnew, he.elsewhere, he.alone⟩
  · exact ⟨List.rel_append he.declared hnew, he.parameters, he.elsewhere, he.alone⟩

/-! ## Declarations -/

/-- Brackets in a declaration stand inside quotes, but for the last one. -/
theorem follows_declarationRest (h : Regaps false t t') :
    FollowsOr lost declarationRest declarationRest t t' (Both Eq true) := by
  suffices hloop : Follows (loop _ ()) (loop _ ()) t t' (Both Eq false) from
    hloop.bind_same fun _ r r' hr => follows_expect true (by decide) _ _ hr
  refine FollowsOr.loop (fun after _ _ => after = false) ?_ rfl h
  rintro _ _ _ t t' rfl h
  rcases h.aligned_cases with ⟨rfl, rfl⟩ | ⟨c, r, r', rfl, rfl, -⟩
  · exact .ends ⟨rfl, h⟩
  · refine .moves (.ite (fun _ => .stops ⟨rfl, h⟩) fun hc => ?_)
    have hr : Regaps false r r' := h.tail hc
    refine .ite (fun hquote => .passes ?_) fun _ => .steps rfl hr
    have hquote : IsQuote c := hquote
    refine (follows_literal hquote (Or.inr ⟨?_, ?_⟩) _ hr).mono fun _ _ _ _ hu => ⟨false, rfl, hu.2⟩
    · simp [hquote.ne_opening.symm]
    · intro d hd
      simp [hquote.ne_of_isXmlBlank hd]

theorem follows_typeMarkup (he : entities.Alike entities') (h : Regaps false t t') :
    FollowsOr lost (typeMarkup entities) (typeMarkup entities') t t'
      (Both Entities.Alike true) := by
  refine follows_accept_bind false (by decide) h ?_ ?_
  · rintro r r' - - hr
    exact FollowsOr.bind_same (follows_instruction hr) fun _ _ _ hr => follows_pure ⟨he, hr⟩
  refine follows_accept_bind false (by decide) h ?_ ?_
  · rintro r r' - - hr
    exact FollowsOr.bind_same (follows_comment hr) fun _ _ _ hr => follows_pure ⟨he, hr⟩
  refine follows_accept_bind false (by decide) h ?_ ?_
  · rintro r r' - - hr
    exact follows_entityDeclaration he hr
  refine FollowsOr.bind_same (follows_acceptAny (by decide) h) fun known r r' hr => ?_
  refine .unless (fun _ => follows_fail _) hr fun r r' hr => ?_
  exact FollowsOr.bind_same (follows_declarationRest hr) fun _ _ _ hr => follows_pure ⟨he, hr⟩

theorem follows_parameterName (h : Regaps false t t') :
    FollowsOr lost parameterName parameterName t t' (Both Eq false) := by
  refine FollowsOr.bind_same (follows_plainName h) fun name r r' hr => ?_
  cases name with
  | none => exact follows_fail _
  | some name =>
    refine FollowsOr.bind_same (follows_expect false (by decide) _ _ hr) fun _ _ _ hr => ?_
    exact follows_pure ⟨rfl, hr⟩

/-- What `declarations` does at a reference. -/
def parameterReference (depth : ℕ) (inside : List Text) (entities : Entities) : Scan Entities := do
  let name ← parameterName
  let entities := { entities with elsewhere := true }
  match entities.parameters.find? (·.1 = name) with
  | some (_, .internal text) =>
    if inside.contains name then fail .entityLoop
    charge (Utf8.byteCount text + Journal.referenceCost)
    within text do
      let entities ← declarations depth (name :: inside) entities
      unless (← remaining).isEmpty do fail .documentType
      return entities
  | some _ => return entities
  | none =>
    if entities.alone then fail (.undefinedEntity name)
    warn
    return entities

/-- What `declarations` does at one code point. -/
def declarationsTurn (depth : ℕ) (inside : List Text) (entities : Entities) (c : CodePoint)
    (_ : Text) : Except Complaint (Option (Scan Entities)) :=
  if c = ']' then .ok none
  else if isXmlBlank c then .ok (some (pure entities))
  else if c = '%' then .ok (some (parameterReference depth inside entities))
  else if c = '<' then .ok (some (typeMarkup entities))
  else .error .documentType

/-- A reference is followed if the declarations that it stands for are. -/
theorem follows_parameterReference {depth : ℕ} (inside : List Text)
    (hdeclarations : ∀ inside {entities entities' : Entities} {x x' : Text},
      entities.Alike entities' → Regaps false x x' →
        Follows (declarations depth inside entities) (declarations depth inside entities') x x'
          (Both Entities.Alike false))
    (he : entities.Alike entities') (h : Regaps false t t') :
    FollowsOr lost (parameterReference depth inside entities)
      (parameterReference depth inside entities') t t' (Both Entities.Alike false) := by
  refine FollowsOr.bind_same (follows_parameterName h) fun name u u' hu => ?_
  have he : Entities.Alike { entities with elsewhere := true }
      { entities' with elsewhere := true } := ⟨he.declared, he.parameters, rfl, he.alone⟩
  rcases he.parameters.find? name with ⟨hl, hl'⟩ | ⟨body, body', hl, hl', hbody⟩
  · have halone : entities.alone = entities'.alone := he.alone
    dsimp only at hl hl' ⊢
    rw [hl, hl', ← halone]
    rw [← halone] at he
    refine .when (fun _ => follows_fail _) hu fun u u' hu => ?_
    have hwarn : Follows warn warn u u' (Both Eq false) := follows_warn ⟨rfl, hu⟩
    exact hwarn.bind_same fun _ _ _ hu => follows_pure ⟨he, hu⟩
  · dsimp only at hl hl' ⊢
    rw [hl, hl']
    cases hbody with
    | external => exact follows_pure ⟨he, hu⟩
    | unparsed => exact follows_pure ⟨he, hu⟩
    | @internal x x' hx =>
      refine .when (fun _ => follows_fail _) hu fun u u' hu => ?_
      have hcharge : Follows (charge (Utf8.byteCount x + Journal.referenceCost))
          (charge (Utf8.byteCount x' + Journal.referenceCost)) u u' (Both Eq false) :=
        follows_chargeReference _ _ ⟨rfl, hu⟩
      refine hcharge.bind_same fun _ u u' hu => ?_
      -- The declarations in the entity have to end with its text.
      refine follows_readAt (FollowsOr.bind (hdeclarations (name :: inside) he hx) ?_)
      rintro v v' y y' ⟨hv, hy⟩
      refine follows_remaining_bind ?_
      rw [hy.isEmpty_eq]
      exact .unless (fun _ => follows_fail _) hy fun _ _ _ => follows_pure ⟨hv, hu⟩

theorem declarationsTurn_of_isXmlBlank {depth : ℕ} {inside : List Text} {c : CodePoint}
    (hc : isXmlBlank c) (r : Text) :
    declarationsTurn depth inside entities c r = .ok (some (pure entities)) := by
  rw [declarationsTurn, if_neg, if_pos hc]
  rintro rfl
  exact absurd hc (by decide)

/-- Another blank than those of XML is no declaration. -/
theorem declarationsTurn_of_isBlank {depth : ℕ} {inside : List Text} {c : CodePoint}
    (hc : c.isBlank) (hblank : ¬ isXmlBlank c) (r : Text) :
    declarationsTurn depth inside entities c r = .error .documentType := by
  have hmarks : c ≠ ofChar ']' ∧ c ≠ ofChar '%' ∧ c ≠ ofChar '<' := by
    refine ⟨?_, ?_, ?_⟩ <;> rintro rfl <;> exact absurd hc (by decide)
  rw [declarationsTurn, if_neg hmarks.1, if_neg hblank, if_neg hmarks.2.1, if_neg hmarks.2.2]

/-- Gaps between declarations are made of blanks of XML. -/
theorem follows_declarations (depth : ℕ) (inside : List Text) (he : entities.Alike entities')
    (h : Regaps after t t') :
    FollowsOr lost (declarations depth inside entities) (declarations depth inside entities') t t'
      (Both Entities.Alike false) := by
  induction depth generalizing lost inside entities entities' t t' after with
  | zero => exact follows_fail _
  | succ depth ih =>
    suffices hloop : FollowsOr lost (loop (declarationsTurn depth inside) entities)
        (loop (declarationsTurn depth inside) entities') t t' (Both Entities.Alike false) from hloop
    refine FollowsOr.loop (fun _ => Entities.Alike) ?_ he h
    clear he h
    intro after entities entities' t t' he h
    rcases h.gap_cases with haligned | ⟨rfl, -⟩
    · rcases haligned.aligned_cases with ⟨rfl, rfl⟩ | ⟨c, r, r', rfl, rfl, hr⟩
      · exact .ends ⟨he, haligned⟩
      · refine .moves (.ite (fun _ => .stops ⟨he, haligned⟩) fun _ => .ite (fun _ => .steps he hr)
          fun _ => .ite (fun hc => .passes ?_) fun _ => .ite (fun hc => .passes ?_)
          fun _ => .fails _ _)
        · subst hc
          exact (follows_parameterReference inside (fun inside _ _ _ _ => ih inside) he
            (haligned.tail (by decide))).mono fun _ _ _ _ hv => ⟨false, hv⟩
        · subst hc
          exact (follows_typeMarkup he (haligned.tail (by decide))).mono
            fun _ _ _ _ hv => ⟨true, hv⟩
    · refine .gap (by decide) (fun _ => id) (fun _ r hc => declarationsTurn_of_isXmlBlank hc r)
        (fun _ r hc => declarationsTurn_of_isXmlBlank hc r) he h ?_
      intro c r hc hblank j a u k hrun
      rw [run_loop_of_error (declarationsTurn_of_isBlank hc hblank r)] at hrun
      exact absurd hrun (by simp)

theorem follows_documentType (he : entities.Alike entities') (h : Regaps false t t') :
    FollowsOr lost (documentType entities) (documentType entities') t t'
      (Both Entities.Alike true) := by
  refine FollowsOr.bind_same (follows_requiredBlanks _ h) fun _ r r' hr => ?_
  refine FollowsOr.bind_same (follows_plainName hr) fun name r r' hr => ?_
  cases name with
  | none => exact follows_fail _
  | some name =>
    refine FollowsOr.bind_same (follows_blanks hr) fun _ r r' hr => ?_
    refine FollowsOr.bind_same (follows_externalPlace hr) fun elsewhere r r' hr => ?_
    refine FollowsOr.bind_same (follows_blanks hr) fun _ r r' hr => ?_
    have he : Entities.Alike { entities with elsewhere := elsewhere }
        { entities' with elsewhere := elsewhere } := ⟨he.declared, he.parameters, rfl, he.alone⟩
    have hend : ∀ {e e' : Entities} {u u' : Text}, e.Alike e' → Regaps false u u' →
        FollowsOr lost (do expect ">" .documentType; return e)
          (do expect ">" .documentType; return e') u u' (Both Entities.Alike true) :=
      fun he hu => FollowsOr.bind_same (follows_expect true (by decide) _ _ hu) fun _ _ _ hu =>
        follows_pure ⟨he, hu⟩
    refine follows_accept_bind false (by decide) hr ?_ (hend he hr)
    rintro u u' - - hu
    refine FollowsOr.bind (follows_declarations _ _ he hu) ?_
    rintro e e' u u' ⟨he, hu⟩
    refine FollowsOr.bind_same (follows_expect false (by decide) _ _ hu) fun _ u u' hu => ?_
    refine FollowsOr.bind_same (follows_blanks hu) fun _ u u' hu => ?_
    exact hend he hu

end StructuredText.Xml.Scan
