/-
# Sections in two texts

A gap inside a comment, an instruction or a literal section is passed with the rest of it, if the
blanks in it are characters.  Between sections only blanks of XML are passed, so there a scan is
lost at any other blank.

* `Regaps.behind?` finds the end of a section in both texts;
* `follows_comment`, `follows_instruction`, `follows_literalSection` follow sections;
* `follows_miscellany` follows what stands around the root element.
-/
import Mathlib
import StructuredText.Proofs.Xml.FollowingNames
import StructuredText.Proofs.Xml.SectionEnds

namespace StructuredText.Xml

open Text CodePoint

/-! ## Ends of sections -/

/-- A word that holds no closing bracket but perhaps at its end, and does not begin as a gap
does. -/
def IsMark (after : Bool) (word : Text) : Prop :=
  Scan.IsWord after word ∧ ∀ c ∈ word.head?, ¬ c.isBlank ∧ c ≠ ofChar '<'

instance (after : Bool) (word : Text) : Decidable (IsMark after word) :=
  inferInstanceAs (Decidable (_ ∧ _))

theorem isCharacter_of_isXmlBlank {c : CodePoint} (h : isXmlBlank c) : isCharacter c := by
  simp only [isXmlBlank, Bool.or_eq_true, beq_iff_eq] at h
  rcases h with ((rfl | rfl) | rfl) | rfl <;> decide

theorem IsMark.not_isPrefixOf {after : Bool} {word : Text} (hword : IsMark after word)
    {c : CodePoint} (hc : c.isBlank ∨ c = ofChar '<') (t : Text) :
    ¬ word.isPrefixOf (c :: t) := by
  obtain ⟨⟨hne, -⟩, hhead⟩ := hword
  obtain ⟨d, word, rfl⟩ := List.exists_cons_of_ne_nil hne
  rw [isPrefixOf, List.isPrefixOf_cons_cons, Bool.and_eq_true, beq_iff_eq]
  rintro ⟨rfl, -⟩
  obtain ⟨hblank, hopening⟩ := hhead d rfl
  exact hc.elim hblank hopening

section Behind

variable {after barred : Bool} {bar mark : Text} {c : CodePoint} {r t t' w : Text}

theorem behind?_cons_of_gap (hbar : IsMark barred bar) (hmark : IsMark after mark)
    (hc : c.isBlank ∨ c = ofChar '<') (t : Text) :
    behind? bar mark (c :: t) = if isCharacter c then behind? bar mark t else none := by
  rw [behind?, if_neg (hmark.not_isPrefixOf hc t), if_neg (hbar.not_isPrefixOf hc t)]

/-- A gap is passed if it is made of characters. -/
theorem behind?_gap (hbar : IsMark barred bar) (hmark : IsMark after mark) (hw : w.isBlank)
    (t : Text) :
    behind? bar mark (w ++ ofChar '<' :: t) =
      if w.all isCharacter then behind? bar mark t else none := by
  induction w with
  | nil => rw [List.nil_append, behind?_cons_of_gap hbar hmark (Or.inr rfl), if_pos (by decide)]; rfl
  | cons c w ih =>
    rw [isBlank_cons, Bool.and_eq_true] at hw
    rw [List.cons_append, behind?_cons_of_gap hbar hmark (Or.inl hw.1), ih hw.2, List.all_cons]
    by_cases hc : isCharacter c <;> simp [hc]

/-- Where a section ends in one text, it ends in the other. -/
theorem Regaps.behind? {passed : Bool} (hbar : IsMark barred bar) (hmark : IsMark after mark)
    (h : Regaps passed t t') (hr : behind? bar mark t = some r) :
    ∃ r', behind? bar mark t' = some r' ∧ Regaps after r r' := by
  induction h with
  | nil => exact absurd hr (by simp [Xml.behind?])
  | @cons _ c t t' rest ih =>
    have h : Regaps false (c :: t) (c :: t') := .cons rest
    obtain ⟨hnext, hdrop⟩ := h.isPrefixOf hmark.1.2.1
    rw [Xml.behind?] at hr ⊢
    rw [← hnext, ← (h.isPrefixOf hbar.1.2.1).1]
    split at hr
    · next hm =>
      obtain rfl := Option.some.inj hr
      rw [if_pos hm]
      exact ⟨_, rfl, hmark.1.2.2 ▸ hdrop hmark.1.1 hm⟩
    · next hm =>
      rw [if_neg hm]
      split at hr
      · exact absurd hr (by simp)
      · next hb =>
        rw [if_neg hb]
        split at hr
        · next hc =>
          rw [if_pos hc]
          exact ih hr
        · exact absurd hr (by simp)
  | gap hw hw' _ ih =>
    rw [behind?_gap hbar hmark hw] at hr
    rw [behind?_gap hbar hmark (isBlank_of_all_isXmlBlank hw'), if_pos]
    · split at hr
      · exact ih hr
      · exact absurd hr (by simp)
    · exact List.all_eq_true.mpr fun c hc => isCharacter_of_isXmlBlank (List.all_eq_true.mp hw' c hc)

end Behind

namespace Scan

variable {lost : Text → Prop} {t t' : Text} {after : Bool}

/-! ## Sections -/

theorem follows_upTo {mark : Text} (hmark : IsMark true mark)
    (hcharacter : ∀ c ∈ mark.head?, isCharacter c) (complaint complaint' : Text → Complaint)
    (h : Regaps after t t') :
    FollowsOr lost (do let read ← upTo mark; expect mark (complaint read))
      (do let read ← upTo mark; expect mark (complaint' read)) t t' (Both Eq true) := by
  refine .of_silent fun j a r k hrun => ?_
  obtain ⟨rfl, hr⟩ := (upTo_eq_ok hmark.1.1 hcharacter complaint).mp hrun
  obtain ⟨r', hr', hrest⟩ := h.behind? hmark hmark hr
  exact ⟨rfl, (), r', ⟨rfl, hrest⟩, fun j' =>
    (upTo_eq_ok hmark.1.1 hcharacter complaint').mpr ⟨rfl, hr'⟩⟩

theorem follows_comment (h : Regaps after t t') :
    FollowsOr lost comment comment t t' (Both Eq true) := by
  refine .of_silent fun j a r k hrun => ?_
  obtain ⟨rfl, hr⟩ := comment_eq_ok.mp hrun
  have hbar : IsMark false "--" := by decide
  have hmark : IsMark true "-->" := by decide
  obtain ⟨r', hr', hrest⟩ := h.behind? hbar hmark hr
  exact ⟨rfl, (), r', ⟨rfl, hrest⟩, fun j' => comment_eq_ok.mpr ⟨rfl, hr'⟩⟩

theorem follows_literalSection (h : Regaps after t t') :
    FollowsOr lost literalSection literalSection t t' (Both Eq true) :=
  follows_upTo (by decide) (by decide) _ _ h

theorem follows_target (h : Regaps false t t') :
    FollowsOr lost target target t t' (Both Eq false) := by
  refine FollowsOr.bind_same (follows_plainName h) fun name r r' hr => ?_
  cases name with
  | none => exact follows_fail _
  | some name =>
    refine .when (fun _ => follows_fail _) hr fun r r' hr => ?_
    refine .when (fun _ => follows_fail _) hr fun r r' hr => ?_
    refine .when (fun _ => follows_warn ⟨rfl, hr⟩) hr fun r r' hr => ?_
    refine .when (fun _ => follows_note _ _ ⟨rfl, hr⟩) hr fun r r' hr => ?_
    exact follows_pure ⟨rfl, hr⟩

theorem follows_instruction (h : Regaps false t t') :
    FollowsOr lost instruction instruction t t' (Both Eq true) := by
  refine FollowsOr.bind_same (follows_target h) fun name r r' hr => ?_
  refine follows_accept_bind true (by decide) hr ?_ ?_
  · rintro u u' - - hu
    exact follows_pure ⟨rfl, hu⟩
  · refine FollowsOr.bind_same (follows_blanks hr) fun blank u u' hu => ?_
    cases blank with
    | false => exact follows_fail_bind _ _
    | true => exact follows_upTo (by decide) (by decide) _ _ hu

/-! ## Between sections -/

/-- Where a scan is lost that passes only blanks of XML: at another blank. -/
def Strays (t : Text) : Prop := ∃ c r, t = c :: r ∧ c.isBlank ∧ ¬ isXmlBlank c

theorem follows_miscellany (h : Regaps after t t') :
    FollowsOr Strays miscellany miscellany t t' (Both Eq false) := by
  refine FollowsOr.loop (fun _ _ _ => True) (fun after _ _ t t' _ h => ?_) trivial h
  rcases h.gap_cases with haligned | ⟨rfl, -⟩
  · rcases haligned.aligned_cases with ⟨rfl, rfl⟩ | ⟨c, r, r', rfl, rfl, hr⟩
    · exact .ends ⟨rfl, haligned⟩
    · have hmark : ∀ {word : Text}, IsWord false word →
          (c = ofChar '<' ∧ word.isPrefixOf r ↔ c = ofChar '<' ∧ word.isPrefixOf r') := by
        rintro word hword
        refine and_congr_right ?_
        rintro rfl
        rw [((haligned.tail (by decide)).isPrefixOf hword.2.1).1]
      refine .moves (.ite (fun _ => .steps trivial hr) fun _ => ?_)
      refine .ite_congr (hmark (by decide)) (fun ⟨hc, hquestion⟩ => .passes ?_) fun _ => ?_
      · obtain rfl := hc
        have hr : Regaps false r r' := haligned.tail (by decide)
        obtain ⟨u, rfl⟩ := List.head?_eq_some_iff.mp (isPrefixOf_singleton.mp hquestion)
        cases hr with
        | cons hu =>
          exact (follows_skip_bind (follows_instruction hu)).mono
            fun _ _ _ _ hv => ⟨true, trivial, hv.2⟩
      · refine .ite_congr (hmark (by decide)) (fun ⟨hc, _⟩ => .passes ?_) fun _ => ?_
        · obtain rfl := hc
          have hr : Regaps false r r' := haligned.tail (by decide)
          refine FollowsOr.bind_same (follows_expect false (by decide) _ _ hr) fun _ u u' hu => ?_
          exact (follows_comment hu).mono fun _ _ _ _ hv => ⟨true, trivial, hv.2⟩
        · exact .stops ⟨rfl, haligned⟩
  · refine .gap (by decide) (fun _ => id) (fun c r hc => if_pos hc) (fun c r hc => if_pos hc) trivial h ?_
    intro c r hc hblank j a u k hrun
    have hopening : c ≠ ofChar '<' := by
      rintro rfl
      exact not_isBlank_opening hc
    rw [run_loop_of_none (by rw [if_neg hblank, if_neg fun h => hopening h.1, if_neg fun h => hopening h.1])] at hrun
    obtain ⟨-, rfl, -⟩ : a = () ∧ c :: r = u ∧ j = k := by simpa using hrun
    exact ⟨c, r, rfl, hc, hblank⟩

end Scan

end StructuredText.Xml
