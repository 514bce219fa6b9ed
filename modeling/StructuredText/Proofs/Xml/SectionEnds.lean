/-
# Where sections end

Comments, instructions and literal sections are read in ways of their own, but each of them ends
behind the first mark, if only characters stand before it.  In a comment two hyphens bar the way to
any other mark.

* `behind?` tells what is left behind a section;
* `upTo_eq_ok` says so of instructions and literal sections, `comment_eq_ok` of comments, whether
  these are ASCII or not.
-/
import Mathlib
import StructuredText.Proofs.Xml.Runs
import StructuredText.Xml.Section

namespace StructuredText.Xml

open Text CodePoint

/-- What is left behind the first mark in a text, if only characters stand before it and there is
no bar without a mark. -/
def behind? (bar mark : Text) : Text → Option Text
  | [] => none
  | c :: r =>
    if mark.isPrefixOf (c :: r) then some ((c :: r).drop mark.length)
    else if bar.isPrefixOf (c :: r) then none
    else if isCharacter c then behind? bar mark r
    else none

namespace Scan

variable {j k : Journal} {t r : Text}

/-! ## Sections with a mark -/

/-- What `upTo` does at one code point. -/
def upToTurn (mark read : Text) (c : CodePoint) (r : Text) :
    Except Complaint (Option (Scan Text)) :=
  if c.val = 0 then .error .zeroCharacter
  else if mark.isPrefixOf (c :: r) || !isCharacter c then .ok none
  else .ok (some (pure (c :: read)))

theorem isCharacter_ne_zero {c : CodePoint} (hc : isCharacter c) : c.val ≠ 0 := by
  intro h
  rw [isCharacter, between, between, between, h] at hc
  exact absurd hc (by decide)

/-- `upTo` stops where a mark has to be, or fails. -/
theorem run_loop_upToTurn {mark : Text} (hne : mark ≠ [])
    (hmark : ∀ c ∈ mark.head?, isCharacter c) (read : Text) (j : Journal) (t : Text) :
    (∃ fault, run (loop (upToTurn mark) read) j t = .error fault ∧ behind? mark mark t = none) ∨
      ∃ read' u, run (loop (upToTurn mark) read) j t = .ok (read', u, j) ∧
        behind? mark mark t = if mark.isPrefixOf u then some (u.drop mark.length) else none := by
  induction t generalizing read with
  | nil =>
    refine Or.inr ⟨read, [], run_loop_nil _ _, ?_⟩
    rw [if_neg (by simpa using hne), behind?]
  | cons c t ih =>
    by_cases hnext : mark.isPrefixOf (c :: t)
    · have hc : isCharacter c := by
        obtain ⟨d, word, rfl⟩ := List.exists_cons_of_ne_nil hne
        obtain rfl := (List.cons_prefix_cons.mp (List.isPrefixOf_iff_prefix.mp hnext)).1
        exact hmark d rfl
      have hturn : upToTurn mark read c t = .ok none := by
        rw [upToTurn, if_neg (isCharacter_ne_zero hc), hnext]
        rfl
      exact Or.inr ⟨read, c :: t, run_loop_of_none hturn j, by rw [behind?, if_pos hnext, if_pos hnext]⟩
    · by_cases hc : isCharacter c
      · have hturn : upToTurn mark read c t = .ok (some (pure (c :: read))) := by
          rw [upToTurn, if_neg (isCharacter_ne_zero hc), if_neg (by simp [hnext, hc])]
        rw [run_loop_of_pure hturn, behind?, if_neg hnext, if_neg hnext, if_pos hc]
        exact ih _
      · have hnone : behind? mark mark (c :: t) = none := by
          rw [behind?, if_neg hnext, if_neg hnext, if_neg hc]
        by_cases hzero : c.val = 0
        · have hturn : upToTurn mark read c t = .error .zeroCharacter := if_pos hzero
          exact Or.inl ⟨_, run_loop_of_error hturn j, hnone⟩
        · have hturn : upToTurn mark read c t = .ok none := by
            rw [upToTurn, if_neg hzero, if_pos (by simp [hc])]
          exact Or.inr ⟨read, c :: t, run_loop_of_none hturn j, by rw [hnone, if_neg hnext]⟩

/-- A section ends behind its mark. -/
theorem upTo_eq_ok {mark : Text} (hne : mark ≠ []) (hmark : ∀ c ∈ mark.head?, isCharacter c)
    (complaint : Text → Complaint) {a : Unit} :
    run (do let read ← upTo mark; expect mark (complaint read)) j t = .ok (a, r, k) ↔
      k = j ∧ behind? mark mark t = some r := by
  have hupTo : upTo mark =
      (do let read ← loop (upToTurn mark) []; return unifyLineEnds read.reverse) := rfl
  rw [hupTo]
  rcases run_loop_upToTurn hne hmark [] j t with ⟨fault, hrun, hnone⟩ | ⟨read, u, hrun, hbehind⟩
  · rw [run_bind, run_bind, hrun, hnone]
    exact iff_of_false (by simp [bind, Except.bind]) (by simp)
  · rw [run_bind, run_bind, hrun, hbehind]
    simp only [bind, Except.bind, run_pure, run_expect]
    split <;> simp [eq_comm, and_comm]

/-! ## Comments -/

/-- What `plainComment` does at one code point. -/
def plainTurn (start : Text) (_ : Unit) (c : CodePoint) (r : Text) :
    Except Complaint (Option (Scan Unit)) :=
  if Text.isPrefixOf "--" (c :: r) then
    if Text.isPrefixOf "-->" (c :: r) then .ok none
    else .error (.doubleHyphen
      (Text.unifyLineEnds (start.take (start.length - (c :: r).length))))
  else if isPlainInComment c r then .ok (some (pure ()))
  else .ok none

theorem isCharacter_of_isPlainInComment {c : CodePoint} (h : isPlainInComment c r) :
    isCharacter c := by
  simp only [isPlainInComment, Bool.or_eq_true, Bool.and_eq_true, beq_iff_eq] at h
  rcases h with ((h | rfl) | rfl) | ⟨rfl, -⟩
  · simp only [isCharacter, between, Bool.or_eq_true, Bool.and_eq_true, decide_eq_true_eq,
      beq_iff_eq] at h ⊢
    omega
  all_goals decide

/-- The ASCII part of a comment is passed. -/
theorem run_plainComment (start : Text) (j : Journal) (t : Text) :
    (∃ fault, run (plainComment start) j t = .error fault ∧ behind? "--" "-->" t = none) ∨
      ∃ u, run (plainComment start) j t = .ok ((), u, j) ∧
        behind? "--" "-->" u = behind? "--" "-->" t := by
  have hplain : plainComment start = loop (plainTurn start) () := rfl
  rw [hplain]
  induction t with
  | nil => exact Or.inr ⟨[], run_loop_nil _ _, rfl⟩
  | cons c t ih =>
    by_cases hmark : Text.isPrefixOf "-->" (c :: t)
    · have hbar : Text.isPrefixOf "--" (c :: t) := by
        rw [isPrefixOf, List.isPrefixOf_iff_prefix] at hmark ⊢
        exact List.IsPrefix.trans (by decide) hmark
      have hturn : plainTurn start () c t = .ok none := by rw [plainTurn, if_pos hbar, if_pos hmark]
      exact Or.inr ⟨c :: t, run_loop_of_none hturn j, rfl⟩
    · by_cases hbar : Text.isPrefixOf "--" (c :: t)
      · have hnone : behind? "--" "-->" (c :: t) = none := by
          rw [behind?, if_neg hmark, if_pos hbar]
        obtain ⟨complaint, hturn⟩ : ∃ complaint, plainTurn start () c t = .error complaint :=
          ⟨_, by rw [plainTurn, if_pos hbar, if_neg hmark]⟩
        exact Or.inl ⟨_, run_loop_of_error hturn j, hnone⟩
      · by_cases hc : isPlainInComment c t
        · have hturn : plainTurn start () c t = .ok (some (pure ())) := by
            rw [plainTurn, if_neg hbar, if_pos hc]
          rw [run_loop_of_pure hturn, behind?, if_neg hmark, if_neg hbar,
            if_pos (isCharacter_of_isPlainInComment hc)]
          exact ih
        · have hturn : plainTurn start () c t = .ok none := by
            rw [plainTurn, if_neg hbar, if_neg hc]
          exact Or.inr ⟨c :: t, run_loop_of_none hturn j, rfl⟩

/-- What `wideComment` does at one code point. -/
def wideTurn (read : Text) (c : CodePoint) (_ : Text) : Except Complaint (Option (Scan Text)) :=
  if !isCharacter c then .error (characterComplaint .commentCharacter c)
  else if Text.isPrefixOf "--" read then
    if c = '>' then .ok none else .error .doubleHyphenPassed
  else .ok (some (pure (c :: read)))

section Hyphens

variable {c : CodePoint}

theorem isPrefixOf_singleton : Text.isPrefixOf [c] t ↔ t.head? = some c := by
  cases t with
  | nil => exact iff_of_false (by simp) (by simp)
  | cons d t =>
    rw [isPrefixOf, List.isPrefixOf_cons_cons, List.isPrefixOf_nil_left, Bool.and_true, beq_iff_eq,
      List.head?_cons, Option.some.injEq, eq_comm]

theorem isPrefixOf_hyphens :
    Text.isPrefixOf "--" (c :: t) ↔ c = ofChar '-' ∧ t.head? = some (ofChar '-') := by
  have hword : ("--" : Text) = [ofChar '-', ofChar '-'] := rfl
  rw [isPrefixOf, hword, List.isPrefixOf_cons_cons, Bool.and_eq_true, beq_iff_eq, eq_comm,
    isPrefixOf_singleton]

/-- A hyphen and another one make a comment end, or bar it. -/
theorem behind?_hyphens (t : Text) :
    behind? "--" "-->" (ofChar '-' :: ofChar '-' :: t) =
      if t.head? = some (ofChar '>') then some (t.drop 1) else none := by
  have hword : ("-->" : Text) = [ofChar '-', ofChar '-', ofChar '>'] := rfl
  have hmark : Text.isPrefixOf "-->" (ofChar '-' :: ofChar '-' :: t) ↔
      t.head? = some (ofChar '>') := by
    rw [isPrefixOf, hword, List.isPrefixOf_cons_cons_self, List.isPrefixOf_cons_cons_self,
      isPrefixOf_singleton]
  rw [behind?]
  simp only [hmark]
  rw [if_pos (isPrefixOf_hyphens.mpr ⟨rfl, rfl⟩), hword]
  rfl

theorem behind?_of_not_hyphens (hc : ¬ (c = ofChar '-' ∧ t.head? = some (ofChar '-'))) :
    behind? "--" "-->" (c :: t) = if isCharacter c then behind? "--" "-->" t else none := by
  have hbar : ¬ Text.isPrefixOf "--" (c :: t) := fun h => hc (isPrefixOf_hyphens.mp h)
  have hmark : ¬ Text.isPrefixOf "-->" (c :: t) := by
    intro h
    rw [isPrefixOf, List.isPrefixOf_iff_prefix] at h
    exact hbar (List.isPrefixOf_iff_prefix.mpr (List.IsPrefix.trans (by decide) h))
  rw [behind?, if_neg hmark, if_neg hbar]

end Hyphens

section Wide

variable {finish : Text → Scan Unit} {a : Unit}

/-- After two hyphens only the bracket may come. -/
theorem run_wide_of_hyphens
    (hfinish : ∀ read j t a r k, run (finish read) j t = .ok (a, r, k) ↔
      k = j ∧ t = ofChar '>' :: r) {read : Text} (hread : Text.isPrefixOf "--" read) :
    run (loop wideTurn read >>= finish) j t = .ok (a, r, k) ↔ k = j ∧ t = ofChar '>' :: r := by
  rw [run_bind]
  cases t with
  | nil =>
    rw [run_loop_nil]
    exact hfinish _ _ _ _ _ _
  | cons c t =>
    by_cases hc : c = ofChar '>'
    · have hturn : wideTurn read c t = .ok none := by
        rw [wideTurn, hc, if_neg (by decide), if_pos hread, if_pos rfl]
      rw [run_loop_of_none hturn]
      exact hfinish _ _ _ _ _ _
    · obtain ⟨complaint, hturn⟩ : ∃ complaint, wideTurn read c t = .error complaint := by
        rw [wideTurn, if_pos hread, if_neg hc]
        split <;> exact ⟨_, rfl⟩
      rw [run_loop_of_error hturn]
      refine iff_of_false (by simp [bind, Except.bind]) ?_
      rintro ⟨-, h⟩
      exact hc (List.cons.inj h).1

/-- A hyphen that was read last and may be the first of two. -/
def pendingHyphen (read : Text) : Text := if read.head? = some (ofChar '-') then [ofChar '-'] else []

/-- The rest of a comment is passed up to its last bracket, also if one hyphen is pending. -/
theorem run_wide
    (hfinish : ∀ read j t a r k, run (finish read) j t = .ok (a, r, k) ↔
      k = j ∧ t = ofChar '>' :: r) {read : Text} (hread : ¬ Text.isPrefixOf "--" read) :
    run (loop wideTurn read >>= finish) j t = .ok (a, r, k) ↔
      k = j ∧ behind? "--" "-->" (pendingHyphen read ++ t) = some r := by
  induction t generalizing read with
  | nil =>
    rw [run_bind, run_loop_nil]
    refine iff_of_false (fun h => ?_) ?_
    · exact absurd ((hfinish _ _ _ _ _ _).mp h).2 (by simp)
    · have hnone : behind? "--" "-->" (pendingHyphen read ++ []) = none := by
        unfold pendingHyphen
        split <;> decide
      rw [hnone]
      simp
  | cons c t ih =>
    -- A pending hyphen counts only if a second one comes next.
    have hpending : ¬ (c = ofChar '-' ∧ read.head? = some (ofChar '-')) →
        behind? "--" "-->" (pendingHyphen read ++ c :: t) = behind? "--" "-->" (c :: t) := by
      intro hboth
      unfold pendingHyphen
      split
      · next hhead =>
        have hc : ¬ (ofChar '-' = ofChar '-' ∧ (c :: t).head? = some (ofChar '-')) :=
          fun h => hboth ⟨Option.some.inj h.2, hhead⟩
        rw [List.singleton_append, behind?_of_not_hyphens hc, if_pos (by decide)]
      · rfl
    by_cases hc : isCharacter c
    · have hturn : wideTurn read c t = .ok (some (pure (c :: read))) := by
        rw [wideTurn, if_neg (by simp [hc]), if_neg hread]
      rw [run_bind, run_loop_of_pure hturn, ← run_bind]
      by_cases hboth : c = ofChar '-' ∧ read.head? = some (ofChar '-')
      · obtain ⟨rfl, hhead⟩ := hboth
        rw [run_wide_of_hyphens hfinish (isPrefixOf_hyphens.mpr ⟨rfl, hhead⟩), pendingHyphen,
          if_pos hhead, List.singleton_append, behind?_hyphens]
        cases t with
        | nil => simp
        | cons d t => simp
      · rw [ih fun h => hboth (isPrefixOf_hyphens.mp h), hpending hboth, pendingHyphen]
        by_cases hhyphen : c = ofChar '-'
        · rw [if_pos (by rw [hhyphen]; rfl), List.singleton_append, hhyphen]
        · rw [if_neg (by simpa using hhyphen), List.nil_append,
            behind?_of_not_hyphens fun h => hhyphen h.1, if_pos hc]
    · obtain ⟨complaint, hturn⟩ : ∃ complaint, wideTurn read c t = .error complaint :=
        ⟨_, by rw [wideTurn, if_pos (by simp [hc])]⟩
      have hhyphen : c ≠ ofChar '-' := by
        rintro rfl
        exact hc (by decide)
      rw [run_bind, run_loop_of_error hturn, hpending fun h => hhyphen h.1,
        behind?_of_not_hyphens fun h => hhyphen h.1, if_neg hc]
      exact iff_of_false (by simp [bind, Except.bind]) (by simp)

end Wide

/-- What `comment` does behind its last part, of which it was told the beginnings. -/
def commentEnd (start rest read : Text) : Scan Unit := do
  let wide := unifyLineEnds read.reverse
  unless ← accept ">" do
    if wide.length ≤ 2 then fail .commentNotClosed
    let before := unifyLineEnds (start.take (start.length - rest.length))
    fail (.commentCutShort (before ++ wide.take (wide.length - 2)))

theorem run_commentEnd (start rest read : Text) (j : Journal) (t : Text) (a : Unit) (r : Text)
    (k : Journal) :
    run (commentEnd start rest read) j t = .ok (a, r, k) ↔ k = j ∧ t = ofChar '>' :: r := by
  have hword : (">" : Text) = [ofChar '>'] := rfl
  unfold commentEnd
  rw [run_bind, run_accept, hword]
  by_cases hnext : Text.isPrefixOf [ofChar '>'] t
  · obtain ⟨u, rfl⟩ := List.head?_eq_some_iff.mp (isPrefixOf_singleton.mp hnext)
    rw [if_pos hnext, ok_bind]
    simp [eq_comm, and_comm]
  · rw [if_neg hnext, ok_bind]
    refine iff_of_false ?_ ?_
    · simp only [Bool.false_eq_true, if_false]
      split
      · rw [run_bind, run_fail, error_bind]
        simp
      · simp
    · rintro ⟨-, rfl⟩
      exact hnext (isPrefixOf_singleton.mpr rfl)

/-- **A comment ends behind its mark**, whichever part of it is ASCII. -/
theorem comment_eq_ok {a : Unit} :
    run comment j t = .ok (a, r, k) ↔ k = j ∧ behind? "--" "-->" t = some r := by
  unfold comment
  rw [run_bind, run_remaining, ok_bind, run_bind]
  rcases run_plainComment t j t with ⟨fault, hrun, hnone⟩ | ⟨u, hrun, hu⟩
  · rw [hrun, hnone, error_bind]
    exact iff_of_false (by simp) (by simp)
  · rw [hrun, ok_bind, ← hu, run_bind, run_accept]
    by_cases hmark : Text.isPrefixOf "-->" u
    · have hbehind : behind? "--" "-->" u = some (u.drop 3) := by
        cases u with
        | nil => exact absurd hmark (by decide)
        | cons c u =>
          rw [behind?, if_pos hmark]
          rfl
      rw [if_pos hmark, ok_bind, hbehind]
      show Except.ok ((), u.drop 3, j) = _ ↔ _
      simp [eq_comm, and_comm]
    · have hwide : wideComment = (do let read ← loop wideTurn []; return read.reverse) := rfl
      have hread : ¬ Text.isPrefixOf "--" [] := by decide
      rw [if_neg hmark, ok_bind]
      refine Iff.trans (Eq.congr_left ?_) (run_wide (run_commentEnd t u) hread)
      rw [if_neg (by simp), run_bind, run_remaining, ok_bind, run_bind, hwide, run_bind, run_bind]
      rcases run (loop wideTurn []) j u with fault | ⟨read, v, k'⟩ <;> rfl

end Scan

end StructuredText.Xml
