/-
# What compacting does to string literals

Compacting knows nothing of quotes, so it changes blanks inside of string literals as it does
elsewhere.  The literals stay apart all the same, and what is visible in them stays too.

* `literals` are the contents of the literals of a text, where all of them are closed;
* `Loose` tells the contents that compacting can change, those with a line end in them or with a
  blank next to the inside of a parenthesis;
* `literals_compact`: no literal comes or goes, and one that is not loose stays as it is.
-/
import Mathlib
import StructuredText.Proofs.Sql.Comments

namespace StructuredText.Sql

open Text CodePoint

/-! ## Literals -/

/-- Where a reader of literals stands: outside of them, inside of one with the content so far, or
behind a quotation mark that closes it unless another one follows. -/
inductive Quoting
  | outside
  | inside (content : Text)
  | closing (content : Text)

/-- The contents of the literals in the rest of a text, if the last of them is closed.  Two
quotation marks side by side in a literal are one of its content. -/
def literalsFrom : Quoting → Text → Option (List Text)
  | .outside, [] => some []
  | .inside _, [] => none
  | .closing content, [] => some [content]
  | .outside, c :: t => literalsFrom (if c = '\'' then .inside [] else .outside) t
  | .inside content, c :: t =>
    literalsFrom (if c = '\'' then .closing content else .inside (content ++ [c])) t
  | .closing content, c :: t =>
    if c = '\'' then literalsFrom (.inside (content ++ [c])) t
    else (literalsFrom .outside t).map (content :: ·)

/-- The contents of the literals of a text, if all of them are closed. -/
def literals (t : Text) : Option (List Text) := literalsFrom .outside t

example : literals "a 'b' 'c''d'" = some [("b" : Text), ("c'd" : Text)] := by decide

/-- A blank is no quotation mark. -/
theorem ne_mark_of_isBlank {c : CodePoint} (hc : c.isBlank) : c ≠ ofChar '\'' := by
  rintro rfl
  exact absurd hc (by decide)

section Blanks

variable {w : Text} (t : Text)

theorem literalsFrom_outside_blanks (hw : w.isBlank) :
    literalsFrom .outside (w ++ t) = literalsFrom .outside t := by
  induction w with
  | nil => rfl
  | cons c w ih =>
    rw [isBlank_cons, Bool.and_eq_true] at hw
    rw [List.cons_append, literalsFrom, if_neg (ne_mark_of_isBlank hw.1), ih hw.2]

theorem literalsFrom_inside_blanks (hw : w.isBlank) (content : Text) :
    literalsFrom (.inside content) (w ++ t) = literalsFrom (.inside (content ++ w)) t := by
  induction w generalizing content with
  | nil => rw [List.append_nil, List.nil_append]
  | cons c w ih =>
    rw [isBlank_cons, Bool.and_eq_true] at hw
    rw [List.cons_append, literalsFrom, if_neg (ne_mark_of_isBlank hw.1), ih hw.2,
      List.append_assoc, List.singleton_append]

/-- Blanks behind a quotation mark make it the last one of a literal. -/
theorem literalsFrom_closing_blanks (hw : w.isBlank) (hne : w ≠ []) (content : Text) :
    literalsFrom (.closing content) (w ++ t) =
      (literalsFrom .outside t).map (content :: ·) := by
  obtain ⟨c, w, rfl⟩ := List.exists_cons_of_ne_nil hne
  rw [isBlank_cons, Bool.and_eq_true] at hw
  rw [List.cons_append, literalsFrom, if_neg (ne_mark_of_isBlank hw.1),
    literalsFrom_outside_blanks _ hw.2]

/-- Behind a literal anything visible but a quotation mark stands outside. -/
theorem literalsFrom_closing_visible (hw : w.isBlank) {c : CodePoint} (hc : c ≠ ofChar '\'')
    (content : Text) :
    literalsFrom (.closing content) (w ++ c :: t) =
      (literalsFrom .outside t).map (content :: ·) := by
  by_cases hne : w = []
  · rw [hne, List.nil_append, literalsFrom, if_neg hc]
  · rw [literalsFrom_closing_blanks _ hw hne, literalsFrom, if_neg hc]

end Blanks

/-! ## Loose contents -/

/-- A content that can change: a line ends in it, or a blank stands after an opening or before a
closing parenthesis. -/
def Loose (content : Text) : Prop :=
  ofChar '\n' ∈ content ∨ ∃ b : CodePoint, b.isBlank ∧
    ([ofChar '(', b] <:+: content ∨ [b, ofChar ')'] <:+: content)

/-- A content afterwards: the same but for blanks, and the very same unless it is loose. -/
structure Kept (before after : Text) : Prop where
  visible_eq : visible after = visible before
  eq_of_not_loose : ¬ Loose before → after = before

theorem Loose.of_infix {s t : Text} (h : Loose s) (hst : s <:+: t) : Loose t := by
  rcases h with h | ⟨b, hb, h⟩
  · exact Or.inl (hst.subset h)
  · exact Or.inr ⟨b, hb, h.imp (·.trans hst) (·.trans hst)⟩

section Gaps

variable {before : Option CodePoint} {x y w w' : Text} {c : CodePoint}

/-- Blanks inside of a literal stay unless that makes it loose. -/
theorem eq_or_loose (hopening : before = some (ofChar '(') → x.getLast? = some (ofChar '('))
    (hblank : w.isBlank) (hnone : w = [] → w' = [])
    (hsame : w' = w ∨ ofChar '\n' ∈ w ∨ before = some (ofChar '(') ∨ c = ofChar ')') :
    w' = w ∨ Loose (x ++ w) ∨ c = ofChar ')' ∧ w ≠ [] := by
  by_cases hw : w = []
  · exact Or.inl ((hnone hw).trans hw.symm)
  rcases hsame with hsame | hend | hbefore | hclosing
  · exact Or.inl hsame
  · exact Or.inr (Or.inl (Or.inl (List.mem_append_right x hend)))
  · obtain ⟨front, hx⟩ := List.getLast?_eq_some_iff.mp (hopening hbefore)
    obtain ⟨b, w, rfl⟩ := List.exists_cons_of_ne_nil hw
    refine Or.inr (Or.inl (Or.inr ⟨b, ?_, Or.inl ⟨front, w, ?_⟩⟩))
    · exact isBlank_of_mem hblank List.mem_cons_self
    · rw [hx]
      simp
  · exact Or.inr (Or.inr ⟨hclosing, hw⟩)

theorem Kept.append_blanks (h : Kept x y) (hw : w.isBlank) (hw' : w'.isBlank)
    (hgap : w' = w ∨ Loose (x ++ w)) : Kept (x ++ w) (y ++ w') where
  visible_eq := by
    rw [visible_append, visible_append, h.visible_eq, visible_of_isBlank hw, visible_of_isBlank hw']
  eq_of_not_loose hloose := by
    rw [h.eq_of_not_loose fun hx => hloose (hx.of_infix (List.prefix_append x w).isInfix),
      hgap.resolve_right hloose]

theorem Kept.append_visible (h : Kept x y) (hw : w.isBlank) (hw' : w'.isBlank)
    (hgap : w' = w ∨ Loose (x ++ w) ∨ c = ofChar ')' ∧ w ≠ []) :
    Kept (x ++ w ++ [c]) (y ++ w' ++ [c]) where
  visible_eq := by
    simp only [visible_append, h.visible_eq, visible_of_isBlank hw, visible_of_isBlank hw']
  eq_of_not_loose hloose := by
    have hfront : ¬ Loose (x ++ w) := fun hxw =>
      hloose (hxw.of_infix (List.prefix_append (x ++ w) [c]).isInfix)
    have hsame : w' = w := by
      rcases hgap with hsame | hxw | ⟨rfl, hne⟩
      · exact hsame
      · exact absurd hxw hfront
      · -- The last blank stands before the closing parenthesis.
        obtain ⟨u, b, rfl⟩ := (List.eq_nil_or_concat w).resolve_left hne
        rw [List.concat_eq_append] at hw hloose
        refine absurd (Or.inr ⟨b, isBlank_of_mem hw (by simp), Or.inr ⟨x ++ u, [], ?_⟩⟩) hloose
        simp
    rw [h.eq_of_not_loose fun hx => hfront (hx.of_infix (List.prefix_append x w).isInfix), hsame]

theorem Kept.concat (h : Kept x y) (c : CodePoint) : Kept (x ++ [c]) (y ++ [c]) := by
  have hboth := h.append_visible (c := c) rfl rfl (Or.inl (Eq.refl []))
  rwa [List.append_nil, List.append_nil] at hboth

end Gaps

/-! ## Reading side by side -/

/-- The text of visible code points after their blanks. -/
def ungapped (s : List Gapped) : Text := s.flatMap fun (w, c) => w ++ [c]

theorem ungapped_gapped (w t : Text) : ungapped (gapped w t) ++ blanksAtEnd w t = w ++ t := by
  induction t generalizing w with
  | nil => rw [gapped, blanksAtEnd, List.append_nil]; rfl
  | cons c t ih =>
    by_cases hc : c.isBlank
    · rw [gapped, blanksAtEnd, if_pos hc, if_pos hc, ih, List.append_assoc, List.singleton_append]
    · rw [gapped_cons_of_visible w hc, blanksAtEnd, if_neg hc, ungapped, List.flatMap_cons,
        List.append_assoc, ← ungapped, ih, List.append_assoc]
      rfl

/-- Two readers of the same visible code points after other blanks, with the one read last. -/
inductive Together : Option CodePoint → Quoting → Quoting → Prop
  | outside (before : Option CodePoint) : Together before .outside .outside
  | inside {before : Option CodePoint} {x y : Text} (hkept : Kept x y)
      (hopening : before = some (ofChar '(') → x.getLast? = some (ofChar '(')) :
      Together before (.inside x) (.inside y)
  | closing {x y : Text} (hkept : Kept x y) :
      Together (some (ofChar '\'')) (.closing x) (.closing y)

/-- Two readers that come to the end. -/
theorem Together.blanks {before : Option CodePoint} {p p' : Quoting} (h : Together before p p')
    {w w' : Text} (hw : w.isBlank) (hw' : w'.isBlank) :
    Option.Rel (List.Forall₂ Kept) (literalsFrom p w) (literalsFrom p' w') := by
  rw [← List.append_nil w, ← List.append_nil w']
  cases h with
  | outside =>
    rw [literalsFrom_outside_blanks _ hw, literalsFrom_outside_blanks _ hw']
    exact .some .nil
  | inside =>
    rw [literalsFrom_inside_blanks _ hw, literalsFrom_inside_blanks _ hw']
    exact .none
  | @closing x y hkept =>
    have hlast {u : Text} (hu : u.isBlank) (content : Text) :
        literalsFrom (.closing content) (u ++ []) = some [content] := by
      by_cases hne : u = []
      · rw [hne]
        rfl
      · rw [literalsFrom_closing_blanks _ hu hne]
        rfl
    rw [hlast hw, hlast hw']
    exact .some (.cons hkept .nil)

/-- A literal more on both sides. -/
theorem rel_map_cons {x y : Text} (hkept : Kept x y) {found found' : Option (List Text)}
    (h : Option.Rel (List.Forall₂ Kept) found found') :
    Option.Rel (List.Forall₂ Kept) (found.map (x :: ·)) (found'.map (y :: ·)) := by
  cases h with
  | none => exact .none
  | some hrest => exact .some (.cons hkept hrest)

/-- **Literals after a change of blanks.** -/
theorem Regapped.rel_literalsFrom {before : Option CodePoint} {s t : List Gapped}
    (h : Regapped before s t) {p p' : Quoting} (hp : Together before p p') {w w' : Text}
    (hw : w.isBlank) (hw' : w'.isBlank) (hs : ∀ entry ∈ s, entry.1.isBlank)
    (ht : ∀ entry ∈ t, entry.1.isBlank) :
    Option.Rel (List.Forall₂ Kept) (literalsFrom p (ungapped s ++ w))
      (literalsFrom p' (ungapped t ++ w')) := by
  induction h generalizing p p' with
  | nil => exact hp.blanks hw hw'
  | @cons before u u' c s t _ hnone hsome hsame _ ih =>
    rw [List.forall_mem_cons] at hs ht
    have hread (v : Text) (r : List Gapped) (e : Text) :
        ungapped ((v, c) :: r) ++ e = v ++ c :: (ungapped r ++ e) := by
      simp [ungapped]
    rw [hread, hread]
    have hgap {x : Text} (hopening : before = some (ofChar '(') → x.getLast? = some (ofChar '(')) :
        u' = u ∨ Loose (x ++ u) ∨ c = ofChar ')' ∧ u ≠ [] :=
      eq_or_loose hopening hs.1 hnone hsame
    cases hp with
    | outside =>
      rw [literalsFrom_outside_blanks _ hs.1, literalsFrom_outside_blanks _ ht.1, literalsFrom,
        literalsFrom]
      by_cases hc : c = ofChar '\''
      · rw [if_pos hc]
        exact ih (.inside ⟨rfl, fun _ => rfl⟩ (by simp [hc, ofChar])) hs.2 ht.2
      · rw [if_neg hc]
        exact ih (.outside _) hs.2 ht.2
    | @inside _ x y hkept hopening =>
      rw [literalsFrom_inside_blanks _ hs.1, literalsFrom_inside_blanks _ ht.1, literalsFrom,
        literalsFrom]
      by_cases hc : c = ofChar '\''
      · subst hc
        rw [if_pos rfl, if_pos rfl]
        have hmark := (hgap hopening).imp_right (Or.resolve_right · fun h => absurd h.1 (by decide))
        exact ih (.closing (hkept.append_blanks hs.1 ht.1 hmark)) hs.2 ht.2
      · rw [if_neg hc, if_neg hc]
        exact ih (.inside (hkept.append_visible hs.1 ht.1 (hgap hopening)) (by simp)) hs.2 ht.2
    | @closing x y hkept =>
      by_cases hc : c = ofChar '\''
      · subst hc
        by_cases hu : u = []
        · -- Two marks side by side stay so, and are one of the content.
          rw [hu, hnone hu, List.nil_append, List.nil_append, literalsFrom, literalsFrom,
            if_pos rfl, if_pos rfl]
          exact ih (.inside (hkept.concat _) (by simp)) hs.2 ht.2
        · -- Between a literal and the next one a blank stays.
          have hu' : u' ≠ [] := fun h => by
            rcases hsome h with h | h | h
            · exact hu h
            · exact absurd h (by decide)
            · exact absurd h (by decide)
          rw [literalsFrom_closing_blanks _ hs.1 hu, literalsFrom_closing_blanks _ ht.1 hu',
            literalsFrom, literalsFrom, if_pos rfl]
          exact rel_map_cons hkept (ih (.inside ⟨rfl, fun _ => rfl⟩ (by decide)) hs.2 ht.2)
      · rw [literalsFrom_closing_visible _ hs.1 hc, literalsFrom_closing_visible _ ht.1 hc]
        exact rel_map_cons hkept (ih (.outside _) hs.2 ht.2)

/-! ## Compacting -/

theorem eq_of_forall_not_loose {before after : List Text} (h : List.Forall₂ Kept before after)
    (hloose : ∀ content ∈ before, ¬ Loose content) : after = before := by
  induction h with
  | nil => rfl
  | cons hfirst _ ih =>
    rw [List.forall_mem_cons] at hloose
    rw [hfirst.eq_of_not_loose hloose.1, ih hloose.2]

/-- **Compacting keeps the number of literals, what is visible in each, and those that are not
loose.** -/
theorem literals_compact (t : Text) :
    Option.Rel (List.Forall₂ Kept) (literals t) (literals (compact t)) ∧
      ∀ contents, literals t = some contents → (∀ content ∈ contents, ¬ Loose content) →
        literals (compact t) = some contents := by
  have hrel : Option.Rel (List.Forall₂ Kept) (literals t) (literals (compact t)) := by
    have hnil : Text.isBlank [] := rfl
    have h := (regapped_compact t).rel_literalsFrom (.outside none)
      (isBlank_blanksAtEnd hnil t) (isBlank_blanksAtEnd hnil (compact t))
      (isBlank_of_mem_gapped hnil t) (isBlank_of_mem_gapped hnil (compact t))
    rwa [ungapped_gapped, ungapped_gapped] at h
  refine ⟨hrel, fun contents hcontents hloose => ?_⟩
  rw [hcontents] at hrel
  generalize literals (compact t) = found at hrel
  cases hrel with
  | some hkept => rw [eq_of_forall_not_loose hkept hloose]

/-- The blanks inside of parentheses go, in a literal too. -/
theorem literals_compact_padding :
    literals "SELECT '( a )'" = some [("( a )" : Text)] ∧
      compact "SELECT '( a )'" = "SELECT '(a)'" ∧
      literals (compact "SELECT '( a )'") = some [("(a)" : Text)] := by
  decide

end StructuredText.Sql
