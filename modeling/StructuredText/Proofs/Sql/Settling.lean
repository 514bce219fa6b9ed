/-
# Compacting over and over

Compacting once may bring up something more to compact: a group on one line can be taken in by the
line above it.  Still it comes to an end.  No pass makes a text longer or gives it more line ends,
and where a pass changes a text, one of the two gets less: whatever goes, goes for good, and a
space comes only in place of a line end.

* `Settles` says this of two texts, with `Settles.append` to go through a text part by part;
* each pass settles its text, the blocks of merged lines and the groups one by one;
* `compact_settles` puts the passes together and counts the runs that are left.
-/
import Mathlib
import StructuredText.Proofs.Sql.Groups
import StructuredText.Proofs.Sql.Merging

namespace StructuredText.Sql

open Text CodePoint

/-! ## Texts that get less -/

/-- How many lines end in a text. -/
def lineEnds (t : Text) : ℕ := t.count (ofChar '\n')

/-- A text is left alone, or gets shorter or fewer line ends, and more of neither. -/
structure Settles (s t : Text) : Prop where
  length_le : t.length ≤ s.length
  lineEnds_le : lineEnds t ≤ lineEnds s
  eq_or_lt : t = s ∨ t.length + lineEnds t < s.length + lineEnds s

theorem lineEnds_append (s t : Text) : lineEnds (s ++ t) = lineEnds s + lineEnds t :=
  List.count_append

namespace Settles

variable {s t u : Text}

theorem refl (t : Text) : Settles t t := ⟨le_rfl, le_rfl, Or.inl rfl⟩

theorem trans (hst : Settles s t) (htu : Settles t u) : Settles s u where
  length_le := htu.length_le.trans hst.length_le
  lineEnds_le := htu.lineEnds_le.trans hst.lineEnds_le
  eq_or_lt := by
    have hlength := htu.length_le
    have hends := htu.lineEnds_le
    rcases hst.eq_or_lt with rfl | hlt
    · exact htu.eq_or_lt
    · exact Or.inr (by omega)

theorem append {s' t' : Text} (h : Settles s t) (h' : Settles s' t') :
    Settles (s ++ s') (t ++ t') := by
  have hlength := h.length_le
  have hends := h.lineEnds_le
  have hlength' := h'.length_le
  have hends' := h'.lineEnds_le
  refine ⟨?_, ?_, ?_⟩
  · rw [List.length_append, List.length_append]
    omega
  · rw [lineEnds_append, lineEnds_append]
    omega
  · rw [lineEnds_append, lineEnds_append, List.length_append, List.length_append]
    rcases h.eq_or_lt with rfl | hlt
    · rcases h'.eq_or_lt with rfl | hlt'
      · exact Or.inl rfl
      · exact Or.inr (by omega)
    · exact Or.inr (by omega)

theorem cons (c : CodePoint) (h : Settles s t) : Settles (c :: s) (c :: t) :=
  (refl [c]).append h

/-- What only loses code points settles. -/
theorem of_sublist (h : t.Sublist s) : Settles s t where
  length_le := h.length_le
  lineEnds_le := h.count_le _
  eq_or_lt := by
    have hends : lineEnds t ≤ lineEnds s := h.count_le _
    rcases h.length_le.eq_or_lt with heq | hlt
    · exact Or.inl (h.eq_of_length heq)
    · exact Or.inr (by omega)

/-- A space in place of a line end is no shorter, but the line end is gone. -/
theorem space {w : Text} (hfeed : ofChar '\n' ∈ w) : Settles w [ofChar ' '] := by
  have hlength : 0 < w.length := List.length_pos_of_mem hfeed
  have hends : 0 < lineEnds w := List.count_pos_iff.mpr hfeed
  have hspace : lineEnds [ofChar ' '] = 0 := by decide
  refine ⟨hlength, by omega, Or.inr ?_⟩
  rw [List.length_singleton, hspace]
  omega

/-- **Whatever settles comes to an end** when it is repeated. -/
theorem exists_iterate {f : Text → Text} (hf : ∀ t, Settles t (f t)) (t : Text) :
    ∃ n ≤ t.length + lineEnds t, f (f^[n] t) = f^[n] t := by
  obtain ⟨size, hsize⟩ : ∃ size, t.length + lineEnds t = size := ⟨_, rfl⟩
  induction size using Nat.strong_induction_on generalizing t with
  | _ size ih =>
    rcases (hf t).eq_or_lt with heq | hlt
    · exact ⟨0, Nat.zero_le _, heq⟩
    · obtain ⟨n, hn, hdone⟩ := ih _ (hsize ▸ hlt) (f t) rfl
      exact ⟨n + 1, by omega, by rwa [Function.iterate_succ_apply]⟩

end Settles

theorem trim_sublist (t : Text) : t.trim.Sublist t := by
  obtain ⟨w, w', -, -, h⟩ := exists_trim t
  conv_rhs => rw [h]
  exact (List.infix_append w t.trim w').sublist

theorem trimEnd_sublist (t : Text) : t.trimEnd.Sublist t := by
  obtain ⟨w, -, h⟩ := exists_trimEnd t
  conv_rhs => rw [h]
  exact List.sublist_append_left _ _

/-! ## Parentheses -/

theorem settles_joinAfterOpening (t : Text) : Settles t (joinAfterOpening t) :=
  .of_sublist (dropBreaksAfter_sublist _ t)

theorem settles_joinBeforeClosing (t : Text) : Settles t (joinBeforeClosing t) := by
  refine .of_sublist ?_
  rw [joinBeforeClosing_eq, ← List.reverse_sublist, List.reverse_reverse]
  exact dropBreaksAfter_sublist _ t.reverse

theorem settles_squeezed (w : Text) : Settles w (squeezed w) := by
  unfold squeezed
  split
  · next hfeed => exact .space hfeed
  · exact .refl w

theorem settles_joinBreaks (t : Text) : Settles t (joinBreaks t) := by
  induction t using blanks_induction with
  | blank w hw =>
    rw [joinBreaks_of_isBlank hw]
    exact settles_squeezed w
  | visible w c t hw hc ih =>
    rw [joinBreaks_blanks_append hw hc]
    exact (settles_squeezed w).append (ih.cons c)

theorem innerText_sublist (inside : Text) : (innerText inside).Sublist inside := by
  unfold innerText
  split
  · exact List.drop_sublist _ _
  · exact trim_sublist inside

theorem settles_onOneLine (inside : Text) : Settles inside (onOneLine inside) := by
  unfold onOneLine
  split
  · exact .refl inside
  · exact (Settles.of_sublist (innerText_sublist inside)).trans (settles_joinBreaks _)

theorem settles_joinGroup (p : Text) : Settles p (joinGroup p) := by
  by_cases hp : ofChar '(' ∈ p
  · obtain ⟨before, inside, rfl, hbefore⟩ := List.eq_append_cons_of_mem hp
    rw [joinGroup_append hbefore]
    exact (Settles.refl before).append ((settles_onOneLine inside).cons _)
  · rw [joinGroup_of_not_mem hp]
    exact .refl p

theorem settles_joinGroups (t : Text) : Settles t (joinGroups t) := by
  induction t using cut_induction (ofChar ')') with
  | last t ht =>
    rw [joinGroups_of_not_mem ht]
    exact .refl t
  | cut p rest hp ih =>
    rw [joinGroups_append hp]
    exact (settles_joinGroup p).append (ih.cons _)

theorem settles_compactParentheses (t : Text) : Settles t (compactParentheses t) :=
  ((settles_joinAfterOpening t).trans (settles_joinBeforeClosing _)).trans (settles_joinGroups _)

/-! ## Lines -/

/-- A line that takes in the next one has a space for the line end between them. -/
theorem settles_mergedLine (line next : Text) :
    Settles (line ++ ofChar '\n' :: next) (mergedLine line next.trim) := by
  have hend : Settles [ofChar '\n'] (" " : Text) := .space (by decide)
  have hmerged := ((Settles.refl line).append hend).append (.of_sublist (trim_sublist next))
  rwa [List.append_assoc, List.singleton_append] at hmerged

theorem Block.settles_merged (b : Block) : Settles (unlines b.lines) b.merged := by
  obtain ⟨first, further⟩ := b
  -- What was read so far settles into the line that takes in more.
  have hread (read line : Text) (h : Settles read line) :
      Settles (read ++ (further.map (ofChar '\n' :: ·)).flatten)
        (further.foldl (fun line next => mergedLine line next.trim) line) := by
    induction further generalizing read line with
    | nil => simpa using h
    | cons next further ih =>
      have hmore := ih (read ++ ofChar '\n' :: next) (mergedLine line next.trim)
        ((h.append (.refl _)).trans (settles_mergedLine line next))
      simpa using hmore
  rw [Block.lines, unlines_cons]
  exact hread first first.trimEnd (.of_sublist (trimEnd_sublist first))

theorem settles_unlines_merged (blocks : List Block) :
    Settles (unlines (blocks.flatMap Block.lines)) (unlines (blocks.map Block.merged)) := by
  induction blocks with
  | nil => exact .refl _
  | cons b blocks ih =>
    cases blocks with
    | nil => simpa using b.settles_merged
    | cons b' blocks =>
      have hsplit : unlines ((b :: b' :: blocks).flatMap Block.lines) =
          unlines b.lines ++ [ofChar '\n'] ++ unlines ((b' :: blocks).flatMap Block.lines) :=
        join_append (by simp [Block.lines]) (by simp [Block.lines])
      rw [hsplit, List.map_cons, List.map_cons, unlines_cons_cons, List.append_assoc]
      exact b.settles_merged.append (ih.cons _)

theorem settles_mergedText (t : Text) : Settles t (mergedText t) := by
  obtain ⟨first, rest, hflat, hmerged⟩ := exists_mergeLines t
  have h := settles_unlines_merged (blocksFrom ⟨first, []⟩ rest)
  rwa [hflat, unlines_lines, ← hmerged] at h

/-! ## Compacting -/

theorem settles_compact (t : Text) : Settles t (compact t) :=
  (settles_mergedText t).trans (settles_compactParentheses _)

/-- **Compacting settles.**  It leaves a text alone, or the length and the number of line ends
together get smaller, and neither of them ever gets larger.  So compacting over and over reaches a
text that it leaves alone, after as many runs at most. -/
theorem compact_settles (t : Text) :
    (compact t = t ∨ (compact t).length + lineEnds (compact t) < t.length + lineEnds t) ∧
      (compact t).length ≤ t.length ∧ lineEnds (compact t) ≤ lineEnds t ∧
      ∃ n ≤ t.length + lineEnds t, compact (compact^[n] t) = compact^[n] t := by
  have h := settles_compact t
  exact ⟨h.eq_or_lt, h.length_le, h.lineEnds_le, Settles.exists_iterate settles_compact t⟩

example : compact "f(\nJOIN\n)\nON x" = ("f(JOIN)\nON x" : Text) ∧
    compact "f(JOIN)\nON x" = ("f(JOIN) ON x" : Text) := by
  decide

end StructuredText.Sql
