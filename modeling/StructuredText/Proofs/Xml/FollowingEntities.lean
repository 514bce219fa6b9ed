/-
# Entities in two texts

What an entity stands for may hold gaps, and then it is another text where the document was laid
out.  References lead to related texts, and inside attribute values to the same ones, since a gap
ends in a bracket that no value may hold.

* `EntityBody.Alike` and `Entities.Alike` relate entities;
* `follows_reference`, `follows_entityInValue` follow references to them.
-/
import Mathlib
import StructuredText.Proofs.Xml.FollowingNames

namespace StructuredText.Xml

open Text CodePoint

/-! ## Relations -/

/-- Entities that stand for the same, but for gaps. -/
inductive EntityBody.Alike : EntityBody → EntityBody → Prop
  | internal {x x' : Text} (h : Regaps false x x') : Alike (.internal x) (.internal x')
  | external : Alike .external .external
  | unparsed : Alike .unparsed .unparsed

/-- Entities with the same names that stand for the same, but for gaps. -/
abbrev EntitiesAlike : List (Text × EntityBody) → List (Text × EntityBody) → Prop :=
  List.Forall₂ fun e e' => e.1 = e'.1 ∧ e.2.Alike e'.2

structure Entities.Alike (e e' : Entities) : Prop where
  declared : EntitiesAlike e.declared e'.declared
  parameters : EntitiesAlike e.parameters e'.parameters
  elsewhere : e.elsewhere = e'.elsewhere
  alone : e.alone = e'.alone

/-- References that lead to the same, but for gaps. -/
inductive Referent.Alike : Referent → Referent → Prop
  | plain (x : Text) : Alike (.plain x) (.plain x)
  | entity (name : Text) {body body' : EntityBody} (h : body.Alike body') :
      Alike (.entity name body) (.entity name body')
  | unknown : Alike .unknown .unknown

/-- An entity is found in both lists or in none. -/
theorem EntitiesAlike.find? {l l' : List (Text × EntityBody)} (h : EntitiesAlike l l')
    (name : Text) :
    l.find? (·.1 = name) = none ∧ l'.find? (·.1 = name) = none ∨
      ∃ body body', l.find? (·.1 = name) = some (name, body) ∧
        l'.find? (·.1 = name) = some (name, body') ∧ body.Alike body' := by
  induction h with
  | nil => exact Or.inl ⟨rfl, rfl⟩
  | @cons e e' l l' he _ ih =>
    obtain ⟨other, body⟩ := e
    obtain ⟨other', body'⟩ := e'
    obtain ⟨rfl, hbody⟩ := he
    by_cases hname : other = name
    · subst hname
      exact Or.inr ⟨body, body', by simp, by simp, hbody⟩
    · simpa [hname] using ih

theorem Entities.Alike.referent? {e e' : Entities} (h : e.Alike e') (name : Text) :
    e.referent? name = none ∧ e'.referent? name = none ∨
      ∃ r r', e.referent? name = some r ∧ e'.referent? name = some r' ∧ r.Alike r' := by
  unfold Entities.referent?
  generalize standardEntities.find? (fun e => decide (e.1 = name)) = standard
  rcases standard with _ | ⟨_, x⟩
  · dsimp only
    rcases h.declared.find? name with ⟨hl, hl'⟩ | ⟨body, body', hl, hl', hbody⟩
    · rw [hl, hl', h.elsewhere, h.alone]
      dsimp only
      split
      · exact Or.inr ⟨_, _, rfl, rfl, .unknown⟩
      · exact Or.inl ⟨rfl, rfl⟩
    · rw [hl, hl']
      exact Or.inr ⟨_, _, rfl, rfl, .entity name hbody⟩
  · exact Or.inr ⟨_, _, rfl, rfl, .plain x⟩

namespace Scan

variable {lost : Text → Prop} {t t' : Text} {after : Bool} {entities entities' : Entities}

/-! ## References -/

theorem follows_reference (he : entities.Alike entities') (h : Regaps false t t') :
    FollowsOr lost (reference entities) (reference entities') t t' (Both Referent.Alike false) := by
  refine follows_accept_bind false (by decide) h ?_ ?_
  · rintro r r' - - hr
    refine FollowsOr.bind_same (follows_characterNumber hr) fun x u u' hu => ?_
    exact follows_pure ⟨.plain x, hu⟩
  · refine FollowsOr.bind_same (follows_referenceName h) fun name r r' hr => ?_
    rcases he.referent? name with ⟨hname, hname'⟩ | ⟨referent, referent', hname, hname', halike⟩
    · rw [hname]
      exact follows_fail _
    · rw [hname, hname']
      cases halike with
      | plain x => exact follows_pure ⟨.plain x, hr⟩
      | entity name hbody => exact follows_pure ⟨.entity name hbody, hr⟩
      | unknown =>
        have hwarn : Follows warn warn r r' (Both Eq false) := follows_warn ⟨rfl, hr⟩
        exact hwarn.bind_same fun _ _ _ hr => follows_pure ⟨.unknown, hr⟩

/-- The text of an entity inside an attribute value holds no gap, since it holds no opening
bracket. -/
theorem follows_entityInValue (he : entities.Alike entities') (depth : ℕ) (inside : List Text)
    (name : Text) {body body' : EntityBody} (hbody : body.Alike body') (h : Regaps after t t') :
    FollowsOr lost (entityInValue entities depth inside name body)
      (entityInValue entities' depth inside name body') t t' (Both Eq after) := by
  induction depth generalizing lost inside name body body' t t' after with
  | zero => exact follows_fail _
  | succ depth ih =>
    cases hbody with
    | external => exact follows_fail _
    | unparsed => exact follows_fail _
    | @internal x x' hx =>
      rw [entityInValue, entityInValue]
      refine .when (fun _ => follows_fail _) h fun r r' hr => ?_
      have hcharge : Follows (charge (Utf8.byteCount x + Journal.referenceCost))
          (charge (Utf8.byteCount x' + Journal.referenceCost)) r r' (Both Eq after) :=
        follows_chargeReference _ _ ⟨rfl, hr⟩
      refine hcharge.bind_same fun _ r r' hr => ?_
      suffices hread : Follows (again x _) (again x' _) r r' (Both Eq after) from
        hread.bind_same fun read r r' hr => follows_pure ⟨rfl, hr⟩
      refine follows_readAt ?_
      refine FollowsOr.loop (fun _ read read' => read = read') ?_ rfl hx
      rintro passed read _ u u' rfl hu
      rcases hu.gap_cases with haligned | ⟨rfl, w, w', v, v', hw, -, -, rfl, rfl⟩
      · rcases haligned.aligned_cases with ⟨rfl, rfl⟩ | ⟨c, v, v', rfl, rfl, hv⟩
        · exact .ends ⟨rfl, hr⟩
        · refine .moves (.ite (fun _ => .fails _ _) fun _ => .ite (fun hc => .passes ?_) fun _ =>
            .steps rfl hv)
          subst hc
          refine FollowsOr.bind (follows_reference he (haligned.tail (by decide))) ?_
          rintro _ _ v v' ⟨halike, hv⟩
          cases halike with
          | plain y => exact follows_pure ⟨false, rfl, hv⟩
          | unknown => exact follows_pure ⟨false, rfl, hv⟩
          | entity other hother =>
            refine FollowsOr.bind_same (ih _ _ hother hv) fun y v v' hv => ?_
            exact follows_pure ⟨false, rfl, hv⟩
      · -- A gap ends in an opening bracket.
        refine .strays fun j a r k hrun => absurd hrun (run_loop_ne_ok ?_ ?_ j _)
        · intro read d hd r
          have hvisible : d ≠ ofChar '<' ∧ d ≠ ofChar '&' := by
            constructor <;> rintro rfl <;> exact absurd (isBlank_of_mem hw hd) (by decide)
          exact Or.inr ⟨d :: read, by rw [if_neg hvisible.1, if_neg hvisible.2]⟩
        · exact fun read r => ⟨_, if_pos rfl⟩

end Scan

end StructuredText.Xml
