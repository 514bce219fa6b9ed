/-
# Documents in two texts

A document and the same document with other blanks in its gaps are read alike, unless the first is
lost: a blank that is none of XML may stand in a gap outside the root element only where it is
passed over.

* `follows_declaration` follows the declaration, which holds no gap;
* `follows_document` follows a whole document;
* `isEmpty_or_isSome_first` says where a document is through before its end.
-/
import Mathlib
import StructuredText.Proofs.Xml.FollowingElements
import StructuredText.Xml.Document

namespace StructuredText.Xml.Scan

open Text CodePoint

variable {lost : Text → Prop} {t t' : Text}

/-! ## The declaration -/

theorem follows_equals (h : Regaps false t t') :
    FollowsOr lost equals equals t t' (Both Eq false) := by
  refine FollowsOr.bind_same (follows_blanks h) fun _ r r' hr => ?_
  refine FollowsOr.bind_same (follows_expect false (by decide) _ _ hr) fun _ r r' hr => ?_
  exact FollowsOr.bind_same (follows_blanks hr) fun _ r r' hr => follows_pure ⟨rfl, hr⟩

theorem follows_versionNumber (h : Regaps false t t') :
    FollowsOr lost versionNumber versionNumber t t' (Both Eq false) := by
  refine follows_peek_bind h ?_ ?_
  · rintro rfl rfl
    exact follows_pure ⟨rfl, h⟩
  · rintro c r r' rfl rfl -
    refine .ite (fun hc => follows_skip_bind ?_) fun _ => follows_pure ⟨rfl, h⟩
    have hclosing : c ≠ ofChar '>' := by
      rintro rfl
      exact absurd hc (by decide)
    have hr : Regaps false r r' := h.tail hclosing
    refine follows_accept_bind false (by decide) hr ?_ (follows_pure ⟨rfl, hr⟩)
    rintro u u' - - hu
    exact FollowsOr.bind_same (follows_takeWhile (by decide) hu) fun _ _ _ hv =>
      follows_pure ⟨rfl, hv⟩

theorem follows_version (h : Regaps false t t') :
    FollowsOr lost version version t t' (Both Eq false) := by
  refine FollowsOr.bind_same (follows_expect false (by decide) _ _ h) fun _ r r' hr => ?_
  refine FollowsOr.bind_same (follows_equals hr) fun _ r r' hr => ?_
  refine FollowsOr.bind (follows_quoteOr _ hr) ?_
  rintro quote _ r r' ⟨rfl, hquote, hr⟩
  refine FollowsOr.bind_same (follows_versionNumber hr) fun number r r' hr => ?_
  refine FollowsOr.bind_same (follows_expect false (isWord_singleton hquote.ne_closing) _ _ hr)
    fun _ r r' hr => ?_
  cases number with
  | none => exact follows_fail _
  | some number =>
    refine .unless (fun _ => follows_fail _) hr fun r r' hr => ?_
    exact .ite (fun _ => follows_pure ⟨rfl, hr⟩) fun _ => follows_warn ⟨rfl, hr⟩

theorem follows_encoding (h : Regaps false t t') :
    FollowsOr lost encoding encoding t t' (Both Eq false) := by
  refine FollowsOr.bind_same (follows_equals h) fun _ r r' hr => ?_
  refine FollowsOr.bind (follows_quoteOr _ hr) ?_
  rintro quote _ r r' ⟨rfl, hquote, hr⟩
  refine FollowsOr.bind (follows_nameOf (by decide) hr) ?_
  rintro name _ r r' ⟨rfl, hr, -⟩
  refine .when (fun _ => follows_fail _) hr fun r r' hr => ?_
  exact follows_expect false (isWord_singleton hquote.ne_closing) _ _ hr

theorem follows_standaloneValue (h : Regaps false t t') :
    FollowsOr lost standaloneValue standaloneValue t t' (Both Eq false) := by
  refine follows_accept_bind false (by decide) h (fun _ _ _ _ hr => follows_pure ⟨rfl, hr⟩) ?_
  exact follows_accept_bind false (by decide) h (fun _ _ _ _ hr => follows_pure ⟨rfl, hr⟩)
    (follows_fail _)

theorem follows_standalone (h : Regaps false t t') :
    FollowsOr lost standalone standalone t t' (Both Eq false) := by
  refine FollowsOr.bind_same (follows_equals h) fun _ r r' hr => ?_
  refine FollowsOr.bind (follows_quoteOr _ hr) ?_
  rintro quote _ r r' ⟨rfl, hquote, hr⟩
  refine FollowsOr.bind_same (follows_standaloneValue hr) fun answer r r' hr => ?_
  refine FollowsOr.bind_same (follows_expect false (isWord_singleton hquote.ne_closing) _ _ hr) ?_
  exact fun _ _ _ hr => follows_pure ⟨rfl, hr⟩

theorem follows_declarationEnds (h : Regaps false t t') :
    FollowsOr lost declarationEnds declarationEnds t t' fun a a' r r' =>
      a = a' ∧ Regaps a r r' := by
  refine follows_accept_bind true (by decide) h ?_ ?_
  · exact fun r r' _ _ hr => follows_pure ⟨rfl, hr⟩
  · refine follows_peek_bind h (fun _ _ => follows_fail _) ?_
    rintro c r r' rfl rfl -
    exact .ite (fun _ => follows_pure ⟨rfl, h⟩) fun _ => follows_fail _

theorem follows_declarationTail (h : Regaps false t t') :
    FollowsOr lost declarationTail declarationTail t t' (Both Eq true) := by
  refine FollowsOr.bind_same (follows_blanks h) fun _ r r' hr => ?_
  have hend : ∀ (alone : Bool) {u u' : Text}, Regaps false u u' → FollowsOr lost
      (do
        let _ ← blanks
        expect "?>" .declarationNotClosed
        return alone)
      (do
        let _ ← blanks
        expect "?>" .declarationNotClosed
        return alone) u u' (Both Eq true) := by
    intro alone u u' hu
    refine FollowsOr.bind_same (follows_blanks hu) fun _ u u' hu => ?_
    exact FollowsOr.bind_same (follows_expect true (by decide) _ _ hu) fun _ _ _ hu =>
      follows_pure ⟨rfl, hu⟩
  refine follows_accept_bind false (by decide) hr ?_ ?_
  · rintro u u' - - hu
    exact FollowsOr.bind_same (follows_standalone hu) fun alone _ _ hu => hend alone hu
  · exact FollowsOr.bind_same (follows_pure ⟨rfl, hr⟩) fun alone _ _ hr => hend alone hr

theorem follows_declaration (h : Regaps false t t') :
    FollowsOr lost declaration declaration t t' (Both Eq true) := by
  refine FollowsOr.bind_same (follows_blanks h) fun _ r r' hr => ?_
  refine FollowsOr.bind_same (follows_version hr) fun _ r r' hr => ?_
  refine FollowsOr.bind (follows_declarationEnds hr) ?_
  rintro last _ r r' ⟨rfl, hr⟩
  cases last with
  | true => exact follows_pure ⟨rfl, hr⟩
  | false =>
    refine FollowsOr.bind_same (follows_blanks hr) fun _ r r' hr => ?_
    refine follows_accept_bind false (by decide) hr ?_ (follows_declarationTail hr)
    rintro u u' - - hu
    refine FollowsOr.bind_same (follows_encoding hu) fun _ u u' hu => ?_
    refine FollowsOr.bind (follows_declarationEnds hu) ?_
    rintro last _ v v' ⟨rfl, hv⟩
    cases last with
    | true => exact follows_pure ⟨rfl, hv⟩
    | false => exact follows_declarationTail hv

/-! ## Documents -/

theorem opensWithDeclaration_congr (h : Regaps false t t') :
    opensWithDeclaration t = opensWithDeclaration t' := by
  have hword : IsWord false "<?xml" := by decide
  obtain ⟨heq, hdrop⟩ := h.isPrefixOf hword.2.1
  unfold opensWithDeclaration
  rw [show Text.isPrefixOf "<?xml" t = Text.isPrefixOf "<?xml" t' from heq]
  by_cases hnext : Text.isPrefixOf "<?xml" t
  · have hrest : Regaps false (t.drop 5) (t'.drop 5) := hdrop hword.1 hnext
    rw [hrest.head?_eq]
  · rw [show Text.isPrefixOf "<?xml" t' = false from heq ▸ Bool.eq_false_iff.mpr hnext]
    rfl

/-- A scan that is lost stands before a blank, which begins no tag. -/
theorem Strays.not_isPrefixOf (h : Strays t) {word : Text} (hword : word.head? = some (ofChar '<')) :
    ¬ word.isPrefixOf t := by
  obtain ⟨c, r, rfl, hc, -⟩ := h
  rw [isPrefixOf_eq_false hword]
  · simp
  · rintro rfl
    exact not_isBlank_opening hc

/-- What `document` does from the root element on. -/
def rootAndRest (entities : Entities) : Scan Unit := do
  let opening ← remaining
  expect "<" .startTagExpected
  let progress ← startTag entities {} opening
  content entities progress
  miscellany
  expectEnd .extraContent

theorem run_rootAndRest_of_strays (h : Strays t) (entities : Entities) (j : Journal)
    (out : Unit × Text × Journal) : run (rootAndRest entities) j t ≠ .ok out := by
  have hnext : ¬ Text.isPrefixOf "<" t := h.not_isPrefixOf rfl
  rw [rootAndRest, run_bind, run_remaining, ok_bind, run_bind, run_expect, if_neg hnext, error_bind]
  simp

theorem follows_rootAndRest {entities entities' : Entities} (he : entities.Alike entities')
    (h : Regaps false t t') :
    FollowsOr Strays (rootAndRest entities) (rootAndRest entities') t t' (Both Eq false) := by
  refine follows_remaining_bind ?_
  refine FollowsOr.bind_same (follows_expect false (by decide) _ _ h) fun _ r r' hr => ?_
  refine FollowsOr.bind (follows_startTag he ⟨.nil, rfl⟩ _ _ hr) ?_
  rintro progress progress' r r' ⟨hp, hr⟩
  refine FollowsOr.bind_same (follows_content he hp hr) fun _ r r' hr => ?_
  refine FollowsOr.bind_lost (follows_miscellany hr) ?_ ?_
  · -- What follows the root element may be passed over, wherever the scan is lost.
    intro _ r j b u k hlost hrun
    rw [run_expectEnd] at hrun
    split at hrun
    · obtain ⟨rfl, -⟩ : r = u ∧ j = k := by simpa using hrun
      exact hlost
    · exact absurd hrun (by simp)
  · rintro _ _ u u' - ⟨-, hu⟩
    exact follows_expectEnd _ _ hu.isEmpty_eq ⟨rfl, hu⟩

/-- What `document` does behind the declaration. -/
def typeAndRest (alone : Bool) : Scan Unit := do
  miscellany
  let mut entities : Entities := { alone := alone }
  if ← accept "<!DOCTYPE" then
    entities ← documentType entities
    miscellany
  rootAndRest entities

theorem follows_typeAndRest (alone : Bool) {after : Bool} (h : Regaps after t t') :
    FollowsOr Strays (typeAndRest alone) (typeAndRest alone) t t' (Both Eq false) := by
  have he : Entities.Alike { alone := alone } { alone := alone } := ⟨.nil, .nil, rfl, rfl⟩
  refine FollowsOr.bind_lost (follows_miscellany h) ?_ ?_
  · intro _ r j b u k hlost hrun
    have hnext : ¬ Text.isPrefixOf "<!DOCTYPE" r := hlost.not_isPrefixOf rfl
    rw [run_bind, run_accept, if_neg hnext, ok_bind] at hrun
    exact absurd hrun (run_rootAndRest_of_strays hlost _ j _)
  · rintro _ _ r r' - ⟨-, hr⟩
    refine follows_accept_bind false (by decide) hr ?_ (follows_rootAndRest he hr)
    rintro u u' - - hu
    refine FollowsOr.bind (follows_documentType he hu) ?_
    rintro e e' u u' ⟨he, hu⟩
    refine FollowsOr.bind_lost (follows_miscellany hu) ?_ ?_
    · intro _ r j b v k hlost hrun
      exact absurd hrun (run_rootAndRest_of_strays hlost _ j _)
    · rintro _ _ v v' - ⟨-, hv⟩
      exact follows_rootAndRest he hv

/-- **Documents in two texts.** -/
theorem follows_document (h : Regaps false t t') :
    FollowsOr Strays document document t t' (Both Eq false) := by
  refine follows_remaining_bind ?_
  rw [h.head?_eq]
  refine .when (fun _ => follows_fail _) h fun r r' hr => ?_
  dsimp only
  rw [opensWithDeclaration_congr h]
  refine .ite (fun _ => ?_) fun _ => ?_
  · refine FollowsOr.bind_same (follows_expect false (by decide) _ _ hr) fun _ r r' hr => ?_
    refine FollowsOr.bind_same (follows_declaration hr) fun alone r r' hr => ?_
    exact follows_typeAndRest alone hr
  · refine FollowsOr.bind_same (follows_pure ⟨rfl, hr⟩) fun alone r r' hr => ?_
    exact follows_typeAndRest alone hr

/-! ## The end of a document -/

section End

variable {j k : Journal} {r : Text} {out : Unit × Text × Journal}

theorem exists_typeAndRest (h : run document j t = .ok out) :
    ∃ alone r k, run (typeAndRest alone) k r = .ok out := by
  obtain ⟨_, r, k, hremaining, h⟩ := run_bind_eq_ok h
  dsimp only at h
  split at h
  · obtain ⟨_, _, _, hfail, -⟩ := run_bind_eq_ok h
    exact absurd hfail (by simp)
  · split at h
    · obtain ⟨_, _, _, -, h⟩ := run_bind_eq_ok h
      obtain ⟨alone, r, k, -, h⟩ := run_bind_eq_ok h
      exact ⟨alone, r, k, h⟩
    · obtain ⟨alone, r, k, -, h⟩ := run_bind_eq_ok h
      exact ⟨alone, r, k, h⟩

theorem exists_rootAndRest {alone : Bool} (h : run (typeAndRest alone) j t = .ok out) :
    ∃ entities r k, run (rootAndRest entities) k r = .ok out := by
  obtain ⟨_, _, _, -, h⟩ := run_bind_eq_ok h
  obtain ⟨typed, r, k, -, h⟩ := run_bind_eq_ok h
  cases typed with
  | false => exact ⟨_, r, k, h⟩
  | true =>
    obtain ⟨entities, _, _, -, h⟩ := run_bind_eq_ok h
    obtain ⟨_, r, k, -, h⟩ := run_bind_eq_ok h
    exact ⟨entities, r, k, h⟩

/-- A document is read to its end, unless an error was noted in it. -/
theorem isEmpty_or_isSome_first (h : run document j t = .ok ((), r, k)) :
    r.isEmpty ∨ k.first.isSome := by
  obtain ⟨_, _, _, h⟩ := exists_typeAndRest h
  obtain ⟨_, _, _, h⟩ := exists_rootAndRest h
  -- The last of what is done from the root element on is to look for the end.
  obtain ⟨_, _, _, -, h⟩ := run_bind_eq_ok h
  obtain ⟨_, _, _, -, h⟩ := run_bind_eq_ok h
  obtain ⟨_, _, _, -, h⟩ := run_bind_eq_ok h
  obtain ⟨_, _, _, -, h⟩ := run_bind_eq_ok h
  obtain ⟨_, r', k', -, h⟩ := run_bind_eq_ok h
  rw [run_expectEnd] at h
  split at h
  · next hend =>
    obtain ⟨rfl, rfl⟩ : r' = r ∧ k' = k := by simpa using h
    exact hend
  · exact absurd h (by simp)

end End

end StructuredText.Xml.Scan
