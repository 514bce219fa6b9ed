/-
# Names and references in two texts

Names and references hold no brackets, so they are read alike where two texts differ in their gaps
only.  A malformed name is told by what was passed, which is the same in both texts too.

* `follows_nameOf`, `follows_qualifiedName` follow names;
* `follows_characterNumber`, `follows_referenceName` follow what stands after an ampersand.
-/
import Mathlib
import StructuredText.Proofs.Xml.Following
import StructuredText.Xml.Reference

namespace StructuredText.Xml.Scan

open Text CodePoint

variable {lost : Text → Prop} {t t' : Text}

/-! ## Names -/

/-- The same was passed in both texts. -/
def Passed (t t' r r' : Text) : Prop := ∃ v : Text, t = v ++ r ∧ t' = v ++ r'

theorem Passed.refl (t t' : Text) : Passed t t' t t' := ⟨[], rfl, rfl⟩

theorem Passed.trans {r r' u u' : Text} (h : Passed t t' r r') (h' : Passed r r' u u') :
    Passed t t' u u' := by
  obtain ⟨v, rfl, rfl⟩ := h
  obtain ⟨w, rfl, rfl⟩ := h'
  exact ⟨v ++ w, (List.append_assoc ..).symm, (List.append_assoc ..).symm⟩

theorem follows_nameOf {start part : CodePoint → Bool} (hpart : part (ofChar '>') = false)
    (h : Regaps false t t') :
    FollowsOr lost (nameOf start part) (nameOf start part) t t' fun a a' r r' =>
      a = a' ∧ Regaps false r r' ∧ Passed t t' r r' := by
  refine follows_peek_bind h ?_ ?_
  · rintro rfl rfl
    exact follows_pure ⟨rfl, h, .refl _ _⟩
  · rintro c r r' rfl rfl -
    refine .ite (fun _ => ?_) (fun _ => follows_pure ⟨rfl, h, .refl _ _⟩)
    refine FollowsOr.bind (follows_takeWhile_passed hpart h) ?_
    rintro a _ u u' ⟨rfl, hu, hpassed, hpassed'⟩
    exact follows_pure ⟨rfl, hu, a, hpassed, hpassed'⟩

theorem follows_plainName (h : Regaps false t t') :
    FollowsOr lost plainName plainName t t' (Both Eq false) :=
  (follows_nameOf (by decide) h).mono fun _ _ _ _ ⟨ha, hr, _⟩ => ⟨ha, hr⟩

/-- A malformed name is what was passed from its start on. -/
theorem follows_malformedName {start start' : Text} (hstart : Passed start start' t t')
    (h : Regaps false t t') :
    FollowsOr lost (malformedName start) (malformedName start') t t' (Both Eq false) := by
  refine FollowsOr.bind (follows_takeWhile_passed (by decide) h) ?_
  rintro a _ r r' ⟨rfl, hr, hpassed, hpassed'⟩
  obtain ⟨v, rfl, rfl⟩ := hstart.trans ⟨a, hpassed, hpassed'⟩
  refine follows_remaining_bind ?_
  have htake : ∀ w : Text, (v ++ w).take ((v ++ w).length - w.length) = v := fun w => by simp
  simp only [htake]
  have hnote : Follows (note (.malformedName v)) (note (.malformedName v)) _ _ (Both Eq false) :=
    follows_note _ _ ⟨rfl, hr⟩
  exact hnote.bind_same fun _ _ _ hr => follows_pure ⟨rfl, hr⟩

theorem follows_qualifiedNameAfter {c : CodePoint} {start start' : Text}
    (hstart : Passed start start' t t') (h : Regaps false t t') :
    FollowsOr lost (qualifiedNameAfter c start) (qualifiedNameAfter c start') t t'
      (Both Eq false) := by
  refine .ite (fun _ => follows_malformedName hstart h) fun _ => ?_
  refine FollowsOr.bind (follows_takeWhile_passed (by decide) h) ?_
  rintro space _ r r' ⟨rfl, hr, hpassed, hpassed'⟩
  have hstart := hstart.trans ⟨space, hpassed, hpassed'⟩
  refine follows_accept_bind false (by decide) hr ?_ (follows_pure ⟨rfl, hr⟩)
  rintro u u' rfl rfl hu
  have hstart := hstart.trans ⟨":", rfl, rfl⟩
  refine FollowsOr.bind (follows_nameOf (by decide) hu) ?_
  rintro base _ w w' ⟨rfl, hw, hpassed⟩
  have hstart := hstart.trans hpassed
  cases base with
  | none => exact follows_malformedName hstart hw
  | some base =>
    refine follows_isNext_bind false (by decide) hw fun next _ => ?_
    exact .ite (fun _ => follows_malformedName hstart hw) fun _ => follows_pure ⟨rfl, hw⟩

theorem ne_closing_of_isColonNameStart {c : CodePoint} (hc : isColonNameStart c) :
    c ≠ ofChar '>' := by
  rintro rfl
  exact absurd hc (by decide)

theorem follows_qualifiedName (h : Regaps false t t') :
    FollowsOr lost qualifiedName qualifiedName t t' (Both Eq false) := by
  refine follows_peek_bind h ?_ ?_
  · rintro rfl rfl
    exact follows_pure ⟨rfl, h⟩
  · rintro c r r' rfl rfl -
    refine .ite (fun hc => ?_) (fun _ => follows_pure ⟨rfl, h⟩)
    have hr := h.tail (ne_closing_of_isColonNameStart hc)
    refine follows_remaining_bind (follows_skip_bind ?_)
    refine FollowsOr.bind_same (follows_qualifiedNameAfter ⟨[c], rfl, rfl⟩ hr) ?_
    exact fun _ _ _ hu => follows_pure ⟨rfl, hu⟩

/-! ## References -/

theorem follows_numberedCharacter (n : ℕ) (h : Regaps false t t') :
    FollowsOr lost (numberedCharacter n) (numberedCharacter n) t t' (Both Eq false) := by
  unfold numberedCharacter
  split
  · exact .ite (fun _ => follows_pure ⟨rfl, h⟩) fun _ => follows_fail _
  · exact follows_fail _

theorem follows_characterNumber (h : Regaps false t t') :
    FollowsOr lost characterNumber characterNumber t t' (Both Eq false) := by
  refine follows_accept_bind false (by decide) h ?_ ?_
  · rintro r r' - - hr
    refine FollowsOr.bind_same (follows_takeWhile (by decide) hr) fun digits u u' hu => ?_
    refine FollowsOr.bind_same (follows_expect false (by decide) _ _ hu) fun _ v v' hv => ?_
    exact follows_numberedCharacter _ hv
  · refine FollowsOr.bind_same (follows_takeWhile (by decide) h) fun digits u u' hu => ?_
    refine FollowsOr.bind_same (follows_expect false (by decide) _ _ hu) fun _ v v' hv => ?_
    exact follows_numberedCharacter _ hv

theorem follows_referenceName (h : Regaps false t t') :
    FollowsOr lost referenceName referenceName t t' (Both Eq false) := by
  refine FollowsOr.bind_same (follows_plainName h) fun name r r' hr => ?_
  cases name with
  | none => exact follows_fail _
  | some name =>
    refine FollowsOr.bind_same (follows_expect false (by decide) _ _ hr) fun _ u u' hu => ?_
    exact follows_pure ⟨rfl, hu⟩

end StructuredText.Xml.Scan
