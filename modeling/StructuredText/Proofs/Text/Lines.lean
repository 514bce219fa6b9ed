/-
# Cutting and joining

Cutting a text at a separator and joining the pieces again undo each other.

* `join_splitOn` and `unlines_lines` put a cut text together again, `splitOn_join` cuts a joined one;
* `head?_unlines` and `getLast?_unlines` tell the two ends of joined lines;
* `unifyLineEnds_of_not_mem` says that one spelling of line ends is left alone.
-/
import Mathlib
import StructuredText.Text.Lines

namespace StructuredText.Text

/-! ## Beginnings -/

theorem beginsWith_iff {start t : Text} : beginsWith start t ↔ start <+: t := by
  unfold beginsWith
  induction start generalizing t with
  | nil => simp [afterStart?]
  | cons p start ih =>
    cases t with
    | nil => simp [afterStart?]
    | cons c t =>
      rw [afterStart?, List.cons_prefix_cons, ← ih]
      by_cases hc : c = p
      · simp [hc]
      · simp [hc, Ne.symm hc]

/-! ## Joining -/

@[simp] theorem join_singleton (separator t : Text) : join separator [t] = t := by
  simp [join]

@[simp] theorem join_cons_cons (separator s t : Text) (rest : List Text) :
    join separator (s :: t :: rest) = s ++ separator ++ join separator (t :: rest) := by
  simp [join]

@[simp] theorem unlines_singleton (t : Text) : unlines [t] = t := join_singleton _ t

@[simp] theorem unlines_cons_cons (s t : Text) (rest : List Text) :
    unlines (s :: t :: rest) = s ++ CodePoint.ofChar '\n' :: unlines (t :: rest) := by
  simp [unlines]

/-- Lines with a line end in front of each but the first. -/
theorem unlines_cons (line : Text) (lines : List Text) :
    unlines (line :: lines) = line ++ (lines.map (CodePoint.ofChar '\n' :: ·)).flatten := by
  induction lines generalizing line with
  | nil => simp
  | cons next lines ih =>
    rw [unlines_cons_cons, ih next, List.map_cons, List.flatten_cons]
    rfl

/-- Joining in two parts. -/
theorem join_append {separator : Text} {ss ts : List Text} (hs : ss ≠ []) (ht : ts ≠ []) :
    join separator (ss ++ ts) = join separator ss ++ separator ++ join separator ts := by
  obtain ⟨t, ts, rfl⟩ := List.exists_cons_of_ne_nil ht
  induction ss with
  | nil => exact absurd rfl hs
  | cons s ss ih =>
    cases ss with
    | nil => simp
    | cons s' ss =>
      rw [List.cons_append, List.cons_append, join_cons_cons, join_cons_cons, ← List.cons_append,
        ih (by simp)]
      simp only [List.append_assoc]

/-- What pieces hold is in the text they are joined to. -/
theorem mem_join {separator piece : Text} {pieces : List Text} {c : CodePoint}
    (hpiece : piece ∈ pieces) (hc : c ∈ piece) : c ∈ join separator pieces := by
  induction pieces with
  | nil => exact absurd hpiece List.not_mem_nil
  | cons first pieces ih =>
    cases pieces with
    | nil => rwa [join_singleton, ← List.mem_singleton.mp hpiece]
    | cons next pieces =>
      rw [join_cons_cons, List.mem_append, List.mem_append]
      rcases List.mem_cons.mp hpiece with rfl | hpiece
      · exact Or.inl (Or.inl hc)
      · exact Or.inr (ih hpiece)

/-- Joined pieces hold nothing but what is in the pieces and in the separator. -/
theorem mem_of_mem_join {separator : Text} {pieces : List Text} {c : CodePoint}
    (h : c ∈ join separator pieces) : c ∈ separator ∨ ∃ piece ∈ pieces, c ∈ piece := by
  induction pieces with
  | nil => exact absurd h (by simp [join])
  | cons first pieces ih =>
    cases pieces with
    | nil => exact Or.inr ⟨first, List.mem_cons_self, by rwa [join_singleton] at h⟩
    | cons next pieces =>
      rw [join_cons_cons, List.mem_append, List.mem_append] at h
      rcases h with (hfirst | hseparator) | hrest
      · exact Or.inr ⟨first, List.mem_cons_self, hfirst⟩
      · exact Or.inl hseparator
      · rcases ih hrest with hseparator | ⟨piece, hpiece, hc⟩
        · exact Or.inl hseparator
        · exact Or.inr ⟨piece, List.mem_cons_of_mem _ hpiece, hc⟩

theorem mem_unlines {c : CodePoint} {ls : List Text} (h : c ∈ unlines ls) :
    c = CodePoint.ofChar '\n' ∨ ∃ l ∈ ls, c ∈ l :=
  (mem_of_mem_join h).imp_left List.mem_singleton.mp

/-- Lines begin as the first of them does. -/
theorem head?_unlines (c : CodePoint) (t : Text) (ls : List Text) :
    (unlines ((c :: t) :: ls)).head? = some c := by
  cases ls with
  | nil => simp
  | cons l ls => simp

/-- Lines end as the last of them does. -/
theorem getLast?_unlines (ls : List Text) (t : Text) (c : CodePoint) :
    (unlines (ls ++ [t ++ [c]])).getLast? = some c := by
  by_cases hls : ls = []
  · simp [hls]
  · rw [unlines, join_append hls (by simp), join_singleton, ← List.append_assoc,
      List.getLast?_concat]

/-! ## Cutting -/

@[simp] theorem splitOn_nil (separator : CodePoint) : splitOn separator [] = [[]] := rfl

theorem splitOn_cons_self (separator : CodePoint) (t : Text) :
    splitOn separator (separator :: t) = [] :: splitOn separator t := by
  simp [splitOn]

theorem splitOn_ne_nil (separator : CodePoint) (t : Text) : splitOn separator t ≠ [] := by
  cases t with
  | nil => simp
  | cons c t =>
    unfold splitOn
    rw [List.foldr_cons]
    split
    · simp
    · split <;> simp

theorem splitOn_cons_of_ne {separator c : CodePoint} (hc : c ≠ separator) {t piece : Text}
    {rest : List Text} (h : splitOn separator t = piece :: rest) :
    splitOn separator (c :: t) = (c :: piece) :: rest := by
  unfold splitOn at h ⊢
  rw [List.foldr_cons, h, if_neg hc]

/-- A cut text joined again. -/
theorem join_splitOn (separator : CodePoint) (t : Text) :
    join [separator] (splitOn separator t) = t := by
  induction t with
  | nil => simp
  | cons c t ih =>
    obtain ⟨piece, rest, h⟩ := List.exists_cons_of_ne_nil (splitOn_ne_nil separator t)
    rw [h] at ih
    by_cases hc : c = separator
    · rw [hc, splitOn_cons_self, h, join_cons_cons, ih]
      rfl
    · rw [splitOn_cons_of_ne hc h, ← ih]
      cases rest with
      | nil => simp
      | cons next rest => simp

/-- No piece holds the separator. -/
theorem not_mem_of_mem_splitOn {separator : CodePoint} {t piece : Text}
    (h : piece ∈ splitOn separator t) : separator ∉ piece := by
  induction t generalizing piece with
  | nil =>
    rw [List.mem_singleton.mp h]
    exact List.not_mem_nil
  | cons c t ih =>
    obtain ⟨first, rest, hpieces⟩ := List.exists_cons_of_ne_nil (splitOn_ne_nil separator t)
    rw [hpieces] at ih
    by_cases hc : c = separator
    · rw [hc, splitOn_cons_self, hpieces] at h
      rcases List.mem_cons.mp h with rfl | hmem
      · exact List.not_mem_nil
      · exact ih hmem
    · rw [splitOn_cons_of_ne hc hpieces] at h
      rcases List.mem_cons.mp h with rfl | hmem
      · exact List.not_mem_cons_of_ne_of_not_mem (Ne.symm hc) (ih List.mem_cons_self)
      · exact ih (List.mem_cons_of_mem _ hmem)

/-- What a piece holds is in the text. -/
theorem mem_of_mem_splitOn {separator c : CodePoint} {t piece : Text}
    (hpiece : piece ∈ splitOn separator t) (hc : c ∈ piece) : c ∈ t := by
  rw [← join_splitOn separator t]
  exact mem_join hpiece hc

/-- A cut falls at the first separator. -/
theorem splitOn_append_cons {separator : CodePoint} {s : Text} (hs : separator ∉ s) (t : Text) :
    splitOn separator (s ++ separator :: t) = s :: splitOn separator t := by
  induction s with
  | nil => exact splitOn_cons_self separator t
  | cons c s ih =>
    rw [List.mem_cons, not_or] at hs
    exact splitOn_cons_of_ne (Ne.symm hs.1) (ih hs.2)

section FirstSeparator

variable {separator : CodePoint} {s : Text} (hs : separator ∉ s)
include hs

theorem bne_of_mem : ∀ c ∈ s, (c != separator) = true := fun _ hc =>
  bne_iff_ne.mpr (ne_of_mem_of_not_mem hc hs)

/-- What stands in front of the first separator. -/
theorem takeWhile_ne_append (t : Text) :
    (s ++ separator :: t).takeWhile (fun c => c != separator) = s := by
  rw [List.takeWhile_append_of_pos (bne_of_mem hs), List.takeWhile_cons_of_neg (by simp),
    List.append_nil]

theorem dropWhile_ne_append (t : Text) :
    (s ++ separator :: t).dropWhile (fun c => c != separator) = separator :: t := by
  rw [List.dropWhile_append_of_pos (bne_of_mem hs), List.dropWhile_cons_of_neg (by simp)]

theorem takeWhile_ne_eq_self : s.takeWhile (fun c => c != separator) = s :=
  List.takeWhile_eq_self_iff.mpr (bne_of_mem hs)

theorem dropWhile_ne_eq_nil : s.dropWhile (fun c => c != separator) = [] :=
  List.dropWhile_eq_nil_iff.mpr (bne_of_mem hs)

end FirstSeparator

/-- Without a separator there is only one piece. -/
theorem splitOn_of_not_mem {separator : CodePoint} {t : Text} (ht : separator ∉ t) :
    splitOn separator t = [t] := by
  induction t with
  | nil => rfl
  | cons c t ih =>
    rw [List.mem_cons, not_or] at ht
    exact splitOn_cons_of_ne (Ne.symm ht.1) (ih ht.2)

/-- Joined pieces cut again. -/
theorem splitOn_join {separator : CodePoint} {pieces : List Text} (hne : pieces ≠ [])
    (h : ∀ piece ∈ pieces, separator ∉ piece) :
    splitOn separator (join [separator] pieces) = pieces := by
  induction pieces with
  | nil => exact absurd rfl hne
  | cons piece pieces ih =>
    rw [List.forall_mem_cons] at h
    cases pieces with
    | nil => rw [join_singleton, splitOn_of_not_mem h.1]
    | cons next pieces =>
      rw [join_cons_cons, List.append_assoc, List.singleton_append, splitOn_append_cons h.1,
        ih (List.cons_ne_nil _ _) h.2]

/-- Induction on a text from cut to cut: what holds of a text without a separator, and of one with
a separator behind its first piece if it holds of the rest, holds of every text. -/
theorem cut_induction (separator : CodePoint) {P : Text → Prop}
    (last : ∀ t, separator ∉ t → P t)
    (cut : ∀ s t, separator ∉ s → P t → P (s ++ separator :: t)) (t : Text) : P t := by
  have hshort (n : ℕ) : ∀ t : Text, t.length ≤ n → P t := by
    induction n with
    | zero =>
      intro t ht
      rw [List.eq_nil_of_length_eq_zero (Nat.le_zero.mp ht)]
      exact last [] List.not_mem_nil
    | succ n ih =>
      intro t ht
      by_cases h : separator ∈ t
      · obtain ⟨s, t, rfl, hs⟩ := List.eq_append_cons_of_mem h
        rw [List.length_append, List.length_cons] at ht
        exact cut s t hs (ih t (by omega))
      · exact last t h
  exact hshort t.length t le_rfl

/-- The lines of a text put together again. -/
theorem unlines_lines (t : Text) : unlines (lines t) = t := join_splitOn _ t

/-! ## Line ends -/

private theorem filterMap_unify (before : CodePoint) (t : Text)
    (hbefore : before ≠ CodePoint.ofChar '\r') (ht : CodePoint.ofChar '\r' ∉ t) :
    ((before :: t).zip t).filterMap (fun (before, c) =>
      if before = CodePoint.ofChar '\r' ∧ c = CodePoint.ofChar '\n' then none
      else some (if c = CodePoint.ofChar '\r' then CodePoint.ofChar '\n' else c)) = t := by
  induction t generalizing before with
  | nil => rfl
  | cons c t ih =>
    rw [List.mem_cons, not_or] at ht
    rw [List.zip_cons_cons, List.filterMap_cons_some (b := c), ih c (Ne.symm ht.1) ht.2]
    dsimp only
    rw [if_neg fun h => hbefore h.1, if_neg (Ne.symm ht.1)]

/-- A text without carriage returns has its line ends in one spelling. -/
theorem unifyLineEnds_of_not_mem {t : Text} (h : CodePoint.ofChar '\r' ∉ t) :
    unifyLineEnds t = t :=
  filterMap_unify _ t (by decide) h

/-- Line ends in one spelling hold no carriage return. -/
theorem not_mem_unifyLineEnds (t : Text) : CodePoint.ofChar '\r' ∉ unifyLineEnds t := by
  intro h
  obtain ⟨⟨before, c⟩, -, hc⟩ := List.mem_filterMap.mp h
  dsimp only at hc
  split at hc
  · exact absurd hc (by simp)
  · rw [Option.some.injEq] at hc
    split at hc
    · exact absurd hc (by decide)
    · next hne => exact hne hc

private theorem filter_filterMap_unify {p : CodePoint → Bool}
    (hreturn : p (CodePoint.ofChar '\r') = false) (hfeed : p (CodePoint.ofChar '\n') = false)
    (before : CodePoint) (t : Text) :
    (((before :: t).zip t).filterMap fun (before, c) =>
      if before = CodePoint.ofChar '\r' ∧ c = CodePoint.ofChar '\n' then none
      else some (if c = CodePoint.ofChar '\r' then CodePoint.ofChar '\n' else c)).filter p =
      t.filter p := by
  induction t generalizing before with
  | nil => rfl
  | cons c t ih =>
    rw [List.zip_cons_cons, List.filterMap_cons]
    -- A code point that changes or goes is a line end, which the class does not hold.
    by_cases hpair : before = CodePoint.ofChar '\r' ∧ c = CodePoint.ofChar '\n'
    · obtain ⟨rfl, rfl⟩ := hpair
      rw [List.filter_cons_of_neg (by simp [hfeed])]
      simpa using ih (CodePoint.ofChar '\n')
    · dsimp only
      rw [if_neg hpair]
      by_cases hc : c = CodePoint.ofChar '\r'
      · subst hc
        rw [if_pos rfl, List.filter_cons_of_neg (by simp [hfeed]),
          List.filter_cons_of_neg (by simp [hreturn]), ih]
      · rw [if_neg hc, List.filter_cons, List.filter_cons, ih]

/-- One spelling of line ends changes nothing but line ends. -/
theorem filter_unifyLineEnds {p : CodePoint → Bool} (hreturn : p (CodePoint.ofChar '\r') = false)
    (hfeed : p (CodePoint.ofChar '\n') = false) (t : Text) :
    (unifyLineEnds t).filter p = t.filter p :=
  filter_filterMap_unify hreturn hfeed _ t

end StructuredText.Text
