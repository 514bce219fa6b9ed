/-
# What compacting does to comments

Two dashes begin a comment that goes on to the end of the line.  Compacting takes line ends away
and looks at the next line only before it does, so what comes after a comment can get into it.
Nothing ever gets out of one.

* `gapped` is a text as its visible code points, each after the blanks before it;
* `comments` tells which of them stand in a comment, `code` are the others;
* `Regapped` is what changes of blanks do, and `regapped_compact` says that compacting is one;
* `code_compact`: the code is kept if and only if the line end after each comment is.
-/
import Mathlib
import StructuredText.Proofs.Sql.Spacing

namespace StructuredText.Sql

open Text CodePoint Relation

/-! ## Visible code points with the blanks between them -/

/-- A visible code point after the blanks before it. -/
abbrev Gapped := Text × CodePoint

/-- The visible code points of a text, where some blanks were read before. -/
def gapped (w : Text) : Text → List Gapped
  | [] => []
  | c :: t => if c.isBlank then gapped (w ++ [c]) t else (w, c) :: gapped [] t

/-- The blanks at the end of a text, where some blanks were read before. -/
def blanksAtEnd (w : Text) : Text → Text
  | [] => w
  | c :: t => if c.isBlank then blanksAtEnd (w ++ [c]) t else blanksAtEnd [] t

theorem gapped_append (w s t : Text) :
    gapped w (s ++ t) = gapped w s ++ gapped (blanksAtEnd w s) t := by
  induction s generalizing w with
  | nil => rfl
  | cons c s ih =>
    rw [List.cons_append, gapped, gapped, blanksAtEnd]
    split
    · exact ih (w ++ [c])
    · rw [ih [], List.cons_append]

theorem gapped_of_isBlank (w : Text) {u : Text} (hu : u.isBlank) :
    gapped w u = [] ∧ blanksAtEnd w u = w ++ u := by
  induction u generalizing w with
  | nil => exact ⟨rfl, (List.append_nil w).symm⟩
  | cons c u ih =>
    rw [isBlank_cons, Bool.and_eq_true] at hu
    rw [gapped, blanksAtEnd, if_pos hu.1, if_pos hu.1, List.append_cons w c u]
    exact ih (w ++ [c]) hu.2

/-- Blanks in front of a text are read first. -/
theorem gapped_blanks_append (w : Text) {u : Text} (hu : u.isBlank) (t : Text) :
    gapped w (u ++ t) = gapped (w ++ u) t := by
  obtain ⟨hnone, hend⟩ := gapped_of_isBlank w hu
  rw [gapped_append, hnone, hend, List.nil_append]

theorem gapped_cons_of_visible (w : Text) {c : CodePoint} (hc : ¬ c.isBlank) (t : Text) :
    gapped w (c :: t) = (w, c) :: gapped [] t := by
  rw [gapped, if_neg hc]

theorem isBlank_of_mem_gapped {w : Text} (hw : w.isBlank) (t : Text) :
    ∀ entry ∈ gapped w t, entry.1.isBlank := by
  induction t generalizing w with
  | nil => simp [gapped]
  | cons c t ih =>
    by_cases hc : c.isBlank
    · rw [gapped, if_pos hc]
      exact ih (by simp [hw, hc])
    · rw [gapped_cons_of_visible w hc, List.forall_mem_cons]
      exact ⟨hw, ih rfl⟩

theorem isBlank_blanksAtEnd {w : Text} (hw : w.isBlank) (t : Text) :
    (blanksAtEnd w t).isBlank := by
  induction t generalizing w with
  | nil => exact hw
  | cons c t ih =>
    by_cases hc : c.isBlank
    · rw [blanksAtEnd, if_pos hc]
      exact ih (by simp [hw, hc])
    · rw [blanksAtEnd, if_neg hc]
      exact ih rfl

theorem map_snd_gapped (w t : Text) : (gapped w t).map Prod.snd = visible t := by
  induction t generalizing w with
  | nil => rfl
  | cons c t ih =>
    by_cases hc : c.isBlank
    · rw [gapped, if_pos hc, ih, visible, visible, List.filter_cons_of_neg (by simpa using hc)]
    · rw [gapped_cons_of_visible w hc, visible_cons_of_visible hc, List.map_cons, ih]

/-! ## Comments -/

/-- Whether a code point and what comes after begin with two dashes side by side. -/
def opensComment (c : CodePoint) (rest : List Gapped) : Bool :=
  c == ofChar '-' && rest.head? == some ([], ofChar '-')

/-- Which code points stand in a comment, if what comes before does or does not: those that no line
end parts from a comment before, and two dashes. -/
def commentsAfter (before : Bool) : List Gapped → List Bool
  | [] => []
  | (w, c) :: rest =>
    let inside := (before && !w.contains (ofChar '\n')) || opensComment c rest
    inside :: commentsAfter inside rest

/-- Which visible code points of a text stand in a comment. -/
def comments (t : Text) : List Bool := commentsAfter false (gapped [] t)

/-- The code points without those that are marked. -/
def unmarked : Text → List Bool → Text
  | c :: t, mark :: marks => if mark then unmarked t marks else c :: unmarked t marks
  | _, _ => []

/-- The visible code points of a text outside of comments. -/
def code (t : Text) : Text := unmarked (visible t) (comments t)

/-- A comment ends before the visible code point of an index, which is code. -/
def CodeAfterComment (t : Text) (i : ℕ) : Prop :=
  (false :: comments t)[i]? = some true ∧ (comments t)[i]? = some false

/-- A line ends between the visible code point of an index and the one before. -/
def LineEndBefore (t : Text) (i : ℕ) : Prop :=
  ∃ entry, (gapped [] t)[i]? = some entry ∧ ofChar '\n' ∈ entry.1

/-! ## Changes of blanks -/

/-- The same visible code points after other blanks: no line end comes up, no blanks come up where
none were, all of them go only after an opening or before a closing parenthesis, and elsewhere only
blanks that a line ends in change. -/
inductive Regapped : Option CodePoint → List Gapped → List Gapped → Prop
  | nil (before : Option CodePoint) : Regapped before [] []
  | cons {before : Option CodePoint} {w w' : Text} {c : CodePoint} {s t : List Gapped}
      (hline : ofChar '\n' ∈ w' → ofChar '\n' ∈ w) (hnone : w = [] → w' = [])
      (hsome : w' = [] → w = [] ∨ before = some (ofChar '(') ∨ c = ofChar ')')
      (hsame : w' = w ∨ ofChar '\n' ∈ w ∨ before = some (ofChar '(') ∨ c = ofChar ')')
      (rest : Regapped (some c) s t) : Regapped before ((w, c) :: s) ((w', c) :: t)

theorem Regapped.refl (before : Option CodePoint) (s : List Gapped) : Regapped before s s := by
  induction s generalizing before with
  | nil => exact .nil before
  | cons entry s ih => exact .cons id id Or.inl (Or.inl rfl) (ih _)

theorem Regapped.trans {before : Option CodePoint} {s t u : List Gapped}
    (hst : Regapped before s t) (htu : Regapped before t u) : Regapped before s u := by
  induction hst generalizing u with
  | nil before => exact htu
  | cons hline hnone hsome hsame _ ih =>
    cases htu with
    | cons hline' hnone' hsome' hsame' hrest' =>
      refine .cons (hline ∘ hline') (hnone' ∘ hnone) (fun hw => ?_) ?_ (ih hrest')
      · rcases hsome' hw with hw | hparenthesis
        · exact hsome hw
        · exact Or.inr hparenthesis
      · rcases hsame' with rfl | hend | hparenthesis
        · exact hsame
        · exact Or.inr (Or.inl (hline hend))
        · exact Or.inr (Or.inr hparenthesis)

/-- Other blanks leave the visible code points as they are. -/
theorem Regapped.map_snd_eq {before : Option CodePoint} {s t : List Gapped}
    (h : Regapped before s t) : t.map Prod.snd = s.map Prod.snd := by
  induction h with
  | nil => rfl
  | cons _ _ _ _ _ ih => rw [List.map_cons, List.map_cons, ih]

/-- The last visible code point, if there is one, or the one before. -/
def lastVisible (before : Option CodePoint) : List Gapped → Option CodePoint
  | [] => before
  | (_, c) :: s => lastVisible (some c) s

theorem Regapped.append_left {before : Option CodePoint} (r : List Gapped) {s t : List Gapped}
    (h : Regapped (lastVisible before r) s t) : Regapped before (r ++ s) (r ++ t) := by
  induction r generalizing before with
  | nil => exact h
  | cons entry r ih => exact .cons id id Or.inl (Or.inl rfl) (ih h)

/-- Other blanks in front of a text change nothing else. -/
theorem regapped_gapped {before : Option CodePoint} {w w' : Text} (q : Text)
    (hline : ofChar '\n' ∈ w' → ofChar '\n' ∈ w) (hnone : w = [] → w' = [])
    (hsome : w' = [] → w = [] ∨ before = some (ofChar '(') ∨ q.head? = some (ofChar ')'))
    (hsame : w' = w ∨ ofChar '\n' ∈ w ∨ before = some (ofChar '(') ∨
      q.head? = some (ofChar ')')) :
    Regapped before (gapped w q) (gapped w' q) := by
  induction q generalizing w w' with
  | nil => exact .nil before
  | cons c q ih =>
    by_cases hc : c.isBlank
    · rw [gapped, gapped, if_pos hc, if_pos hc]
      refine ih (fun h => ?_) (fun h => ?_) (fun h => ?_) ?_
      · rcases List.mem_append.mp h with h | h
        · exact List.mem_append_left _ (hline h)
        · exact List.mem_append_right _ h
      · simp at h
      · simp at h
      · rcases hsame with rfl | hend | hopening | hclosing
        · exact Or.inl rfl
        · exact Or.inr (Or.inl (List.mem_append_left _ hend))
        · exact Or.inr (Or.inr (Or.inl hopening))
        · obtain rfl : c = ofChar ')' := Option.some.inj hclosing
          exact absurd hc (by decide)
    · rw [gapped_cons_of_visible w hc, gapped_cons_of_visible w' hc]
      have hhead : (c :: q).head? = some (ofChar ')') → c = ofChar ')' := Option.some.inj
      refine .cons hline hnone (fun h => ?_) ?_ (.refl _ _)
      · exact (hsome h).imp_right (Or.imp_right hhead)
      · exact hsame.imp_right (Or.imp_right (Or.imp_right hhead))

/-- **One change of blanks.** -/
theorem Regapped.of_step {s t : Text} (h : SpacingStep s t) :
    Regapped none (gapped [] s) (gapped [] t) := by
  cases h with
  | @exchange p w w' q hw hw' hline hne' =>
    simp only [List.append_assoc, gapped_append [] p, gapped_blanks_append _ hw,
      gapped_blanks_append _ hw']
    have hend : ofChar '\n' ∈ blanksAtEnd [] p ++ w := List.mem_append_right _ hline
    refine .append_left _ (regapped_gapped q (fun _ => hend) (fun h => ?_) (fun h => ?_)
      (Or.inr (Or.inl hend)))
    · exact absurd h (List.ne_nil_of_mem hend)
    · exact absurd (List.append_eq_nil_iff.mp h).2 hne'
  | @afterOpening p w q hw =>
    simp only [gapped_append [] p,
      gapped_cons_of_visible _ (show ¬ (ofChar '(').isBlank by decide), gapped_blanks_append [] hw]
    refine .append_left _ (.cons id id Or.inl (Or.inl rfl) ?_)
    exact regapped_gapped q (fun h => absurd h (by simp)) (fun _ => rfl)
      (fun _ => Or.inr (Or.inl rfl)) (Or.inr (Or.inr (Or.inl rfl)))
  | @beforeClosing p w q hw =>
    simp only [List.append_assoc, gapped_append [] p, gapped_blanks_append _ hw]
    refine .append_left _ (regapped_gapped _ (fun h => List.mem_append_left _ h) (fun h => ?_)
      (fun _ => Or.inr (Or.inr rfl)) (Or.inr (Or.inr (Or.inr rfl))))
    exact (List.append_eq_nil_iff.mp h).1

theorem Regapped.of_respaces {s t : Text} (h : Respaces s t) :
    Regapped none (gapped [] s) (gapped [] t) := by
  induction h with
  | refl => exact .refl _ _
  | tail _ hstep ih => exact ih.trans (.of_step hstep)

/-- **Compacting** changes blanks alone, and brings up no line end. -/
theorem regapped_compact (t : Text) : Regapped none (gapped [] t) (gapped [] (compact t)) := by
  obtain ⟨w, hw, hlines⟩ := respaces_mergeLines t
  have hmerged := Regapped.of_respaces hlines
  -- Blanks at the end stand before nothing.
  rw [gapped_append, (gapped_of_isBlank _ hw).1, List.append_nil] at hmerged
  exact hmerged.trans (.of_respaces (respaces_compactParentheses _))

theorem visible_compact (t : Text) : visible (compact t) = visible t := by
  rw [← map_snd_gapped [] t, ← map_snd_gapped [] (compact t), (regapped_compact t).map_snd_eq]

/-! ## Comments after a change of blanks -/

/-- Two dashes stay side by side, and no others get there. -/
theorem Regapped.opensComment_eq {c : CodePoint} {s t : List Gapped}
    (h : Regapped (some c) s t) : opensComment c s = opensComment c t := by
  by_cases hc : c = ofChar '-'
  · subst hc
    cases h with
    | nil => rfl
    | @cons _ w w' d s t _ hnone hsome _ _ =>
      have hempty : d = ofChar '-' → (w = [] ↔ w' = []) := by
        intro hd
        refine ⟨hnone, fun hw' => ?_⟩
        rcases hsome hw' with hw | hopening | hclosing
        · exact hw
        · exact absurd hopening (by decide)
        · exact absurd (hd.symm.trans hclosing) (by decide)
      by_cases hd : d = ofChar '-'
      · simp [opensComment, hd, hempty hd]
      · simp [opensComment, hd]
  · have hother : (c == ofChar '-') = false := beq_eq_false_iff_ne.mpr hc
    rw [opensComment, opensComment, hother, Bool.false_and, Bool.false_and]

/-- What was in a comment is in one afterwards, and so is what comes after if no line ends. -/
theorem Regapped.mark_le {w w' : Text} {c : CodePoint} {s t : List Gapped}
    (hline : ofChar '\n' ∈ w' → ofChar '\n' ∈ w) (h : Regapped (some c) s t)
    {inside inside' : Bool} (hinside : inside ≤ inside') :
    ((inside && !w.contains (ofChar '\n')) || opensComment c s) ≤
      ((inside' && !w'.contains (ofChar '\n')) || opensComment c t) := by
  have hmono : ∀ a a' b b' o : Bool, a ≤ a' → b ≤ b' →
      ((a && b) || o) ≤ ((a' && b') || o) := by decide
  rw [h.opensComment_eq]
  refine hmono _ _ _ _ _ hinside ?_
  by_cases hw' : ofChar '\n' ∈ w'
  · simp [hw', hline hw']
  · simp [hw', Bool.le_true]

/-- **Nothing gets out of a comment.** -/
theorem Regapped.comments_le {before : Option CodePoint} {s t : List Gapped}
    (h : Regapped before s t) {inside inside' : Bool} (hinside : inside ≤ inside') :
    List.Forall₂ (· ≤ ·) (commentsAfter inside s) (commentsAfter inside' t) := by
  induction h generalizing inside inside' with
  | nil => exact .nil
  | cons hline _ _ _ hrest ih =>
    have hmark := hrest.mark_le hline hinside
    exact .cons hmark (ih hmark)

/-- **What gets into a comment.**  The same code points stand in comments if and only if wherever
code comes after a comment, a line still ends before it. -/
theorem Regapped.comments_eq_iff {before : Option CodePoint} {s t : List Gapped}
    (h : Regapped before s t) (inside : Bool) :
    commentsAfter inside t = commentsAfter inside s ↔
      ∀ i : ℕ, (inside :: commentsAfter inside s)[i]? = some true →
        (commentsAfter inside s)[i]? = some false →
          ∃ entry : Gapped, t[i]? = some entry ∧ ofChar '\n' ∈ entry.1 := by
  induction h generalizing inside with
  | nil => simp [commentsAfter]
  | @cons _ w w' c s t hline _ _ _ hrest ih =>
    have hle := hrest.mark_le hline (le_refl inside)
    simp only [commentsAfter]
    generalize hmark : ((inside && !w.contains (ofChar '\n')) || opensComment c s) = mark at hle ⊢
    generalize hmark' :
      ((inside && !w'.contains (ofChar '\n')) || opensComment c t) = mark' at hle ⊢
    constructor
    · intro heq i
      obtain ⟨rfl, hafter⟩ := List.cons.inj heq
      cases i with
      | zero =>
        intro hinside hcode
        obtain rfl : inside = true := Option.some.inj hinside
        obtain rfl : mark' = false := Option.some.inj hcode
        rw [Bool.true_and, Bool.or_eq_false_iff, Bool.not_eq_false'] at hmark'
        exact ⟨(w', c), rfl, List.contains_iff_mem.mp hmark'.1⟩
      | succ i => exact (ih mark').mp hafter i
    · intro hends
      have hsame : mark' = mark := by
        cases mark with
        | true => exact Bool.eq_true_of_true_le hle
        | false =>
          obtain ⟨hwithin, hopens⟩ := Bool.or_eq_false_iff.mp hmark
          rw [hrest.opensComment_eq] at hopens
          cases inside with
          | false => rw [← hmark', hopens, Bool.false_and, Bool.false_or]
          | true =>
            obtain ⟨entry, hentry, hend⟩ := hends 0 rfl rfl
            obtain rfl : (w', c) = entry := Option.some.inj hentry
            rw [← hmark', hopens, List.contains_iff_mem.mpr hend]
            rfl
      rw [hsame, (ih mark).mpr fun i => hends (i + 1)]

/-! ## Code -/

theorem length_commentsAfter (inside : Bool) (s : List Gapped) :
    (commentsAfter inside s).length = s.length := by
  induction s generalizing inside with
  | nil => rfl
  | cons entry s ih => rw [commentsAfter, List.length_cons, List.length_cons, ih]

/-- With more marks, less is without. -/
theorem unmarked_sublist {marks marks' : List Bool} (h : List.Forall₂ (· ≤ ·) marks marks')
    (t : Text) : (unmarked t marks').Sublist (unmarked t marks) := by
  induction h generalizing t with
  | nil => exact .refl _
  | @cons mark mark' _ _ hle _ ih =>
    cases t with
    | nil => exact .refl _
    | cons c t =>
      rw [unmarked, unmarked]
      cases mark <;> cases mark'
      · exact (ih t).cons_cons c
      · exact (ih t).cons c
      · exact absurd hle (by decide)
      · exact ih t

/-- With more marks, the same is without only if the marks are the same. -/
theorem unmarked_eq_iff {marks marks' : List Bool} (h : List.Forall₂ (· ≤ ·) marks marks')
    {t : Text} (hlength : marks.length ≤ t.length) :
    unmarked t marks' = unmarked t marks ↔ marks' = marks := by
  refine ⟨fun heq => ?_, fun heq => heq ▸ rfl⟩
  induction h generalizing t with
  | nil => rfl
  | @cons mark mark' marks marks' hle hrest ih =>
    cases t with
    | nil => simp at hlength
    | cons c t =>
      rw [List.length_cons, List.length_cons] at hlength
      rw [unmarked, unmarked] at heq
      cases mark <;> cases mark'
      · rw [ih (by omega) (List.cons.inj heq).2]
      · -- One code point more got a mark, and none lost one.
        have hshort := (unmarked_sublist hrest t).length_le
        have hlong := congrArg List.length heq
        simp only [↓reduceIte, Bool.false_eq_true, List.length_cons] at hlong
        omega
      · exact absurd hle (by decide)
      · rw [ih (by omega) heq]

/-- **Code gets into comments only, and only where a line end goes.**  What stands in a comment is
in one after compacting, the code is the same but for what got into comments, and it is the same
if and only if wherever code comes after a comment, a line still ends before it. -/
theorem code_compact (t : Text) :
    List.Forall₂ (· ≤ ·) (comments t) (comments (compact t)) ∧
      (code (compact t)).Sublist (code t) ∧
      (code (compact t) = code t ↔
        ∀ i, CodeAfterComment t i → LineEndBefore (compact t) i) := by
  have hregapped := regapped_compact t
  have hle : List.Forall₂ (· ≤ ·) (comments t) (comments (compact t)) :=
    hregapped.comments_le (le_refl false)
  have hlength : (comments t).length ≤ (visible t).length := by
    rw [comments, length_commentsAfter, ← map_snd_gapped [] t, List.length_map]
  have hcode : code (compact t) = unmarked (visible t) (comments (compact t)) := by
    rw [code, visible_compact]
  refine ⟨hle, ?_, ?_⟩
  · rw [hcode]
    exact unmarked_sublist hle _
  · rw [hcode, code, unmarked_eq_iff hle hlength]
    refine (hregapped.comments_eq_iff false).trans (forall_congr' fun i => ?_)
    exact and_imp.symm

/-- A comment that ends in a comma takes in the next line, and the code there is lost. -/
theorem code_compact_comma :
    compact "-- a,\nb" = "-- a, b" ∧ code "-- a,\nb" = "b" ∧ code (compact "-- a,\nb") = [] := by
  decide

end StructuredText.Sql
