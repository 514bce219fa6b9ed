/-
# Merged lines

Merging cuts the lines of a text into blocks and makes one line of each.  It is greedy, with one
line of lookahead, and still nothing is left to merge: what refuses a line refuses it as well once
that line has taken in others.

* `Continues` is what the rules allow, and `Block.Grows` says of a block that they allow all of it;
* `blocksFrom` are the blocks of some lines, `mergeLines_cons` says that merging makes these;
* `merge?_mergedLine` is about a line that has grown;
* `mergeLines_blocks` puts it together, and says that merging again changes nothing.
-/
import Mathlib
import StructuredText.Proofs.Text.Lines
import StructuredText.Proofs.Text.Trimming
import StructuredText.Sql.Lines

namespace StructuredText

open CodePoint

/-! ## Upper case -/

theorem CodePoint.toUpper_of_isBlank {c : CodePoint} (hc : c.isBlank) : c.toUpper = [c] := by
  unfold CodePoint.toUpper
  have hletter : c.between 0x61 0x7A = false := by
    simp only [isBlank, between, Bool.or_eq_true, Bool.and_eq_true, decide_eq_true_eq,
      beq_iff_eq] at hc
    simp only [between, Bool.and_eq_false_iff, decide_eq_false_iff_not]
    omega
  rw [hletter, if_neg Bool.false_ne_true]
  split
  case h_18 => rfl
  all_goals
    next hval =>
      simp only [isBlank, between, hval] at hc
      exact absurd hc (by decide)

namespace Text

@[simp] theorem toUpper_append (s t : Text) : toUpper (s ++ t) = toUpper s ++ toUpper t :=
  List.flatMap_append

/-- Blanks have no other upper case. -/
theorem toUpper_of_isBlank {w : Text} (hw : w.isBlank) : toUpper w = w := by
  induction w with
  | nil => rfl
  | cons c w ih =>
    rw [isBlank_cons, Bool.and_eq_true] at hw
    rw [toUpper, List.flatMap_cons, CodePoint.toUpper_of_isBlank hw.1]
    exact congrArg (c :: ·) (ih hw.2)

end Text

namespace Sql

open Text

/-! ## Rules -/

/-- One of the rules allows a line to take in the next one. -/
def Continues (line next : Text) : Prop :=
  continuesList line next ∨ continuesKeyword line next ∨ continuesCondition line next

/-- A line with the next one taken in is short enough. -/
def Fits (line next : Text) : Prop := (mergedLine line next).trim.length < maxLine

section Rules

variable {line next merged : Text}

theorem merge?_eq_some_iff :
    merge? line next = some merged ↔
      Continues line next ∧ Fits line next ∧ merged = mergedLine line next := by
  have hrules : ((continuesList line next || continuesKeyword line next ||
      continuesCondition line next) && decide ((mergedLine line next).trim.length < maxLine)) =
        true ↔ Continues line next ∧ Fits line next := by
    rw [Bool.and_eq_true, Bool.or_eq_true, Bool.or_eq_true, decide_eq_true_eq, or_assoc]
    rfl
  rw [merge?, ← and_assoc, ← hrules]
  split
  · next h => rw [Option.some.injEq, eq_comm, and_iff_right h]
  · next h => exact ⟨fun hnone => absurd hnone (by simp), fun hsome => absurd hsome.1 h⟩

theorem merge?_eq_none_iff :
    merge? line next = none ↔ (Continues line next → ¬ Fits line next) := by
  rw [Option.eq_none_iff_forall_not_mem]
  simp only [Option.mem_def, merge?_eq_some_iff]
  constructor
  · exact fun h hrule hfits => h _ ⟨hrule, hfits, rfl⟩
  · exact fun h _ hsome => h hsome.1 hsome.2.1

/-- The beginnings that make a line go on with a condition. -/
theorem continuesCondition_iff :
    continuesCondition line next ↔
      (holds "JOIN" line.toUpper ∨ ("AND " : Text) <+: line.toUpper ∨
        ("ON " : Text) <+: line.toUpper) ∧
      (("ON " : Text) <+: next.toUpper ∨ ("AND " : Text) <+: next.toUpper) := by
  simp only [continuesCondition, Bool.and_eq_true, Bool.or_eq_true, List.isPrefixOf_iff_prefix,
    or_assoc]

/-- No rule takes in an empty line. -/
theorem Continues.next_ne_nil (h : Continues line next) : next ≠ [] := by
  rintro rfl
  rcases h with h | h | h
  · simp [continuesList] at h
  · simp [continuesKeyword] at h
  · exact absurd (continuesCondition_iff.mp h).2 (by decide)

end Rules

/-! ## A line that has grown -/

/-- A word with a space behind it at the beginning of a text that goes on with a space is the
whole beginning or stands in it. -/
theorem prefix_space_cases (word : Text) {s t : Text} (hword : ofChar ' ' ∉ word)
    (h : word ++ [ofChar ' '] <+: s ++ ofChar ' ' :: t) :
    s = word ∨ word ++ [ofChar ' '] <+: s := by
  induction word generalizing s with
  | nil =>
    cases s with
    | nil => exact Or.inl rfl
    | cons c s =>
      rw [List.nil_append, List.cons_append, List.cons_prefix_cons] at h
      exact Or.inr (by simp [h.1])
  | cons x word ih =>
    rw [List.mem_cons, not_or] at hword
    cases s with
    | nil =>
      rw [List.cons_append, List.nil_append, List.cons_prefix_cons] at h
      exact absurd h.1.symm hword.1
    | cons c s =>
      rw [List.cons_append, List.cons_append, List.cons_prefix_cons] at h
      rcases ih hword.2 h.2 with rfl | hprefix
      · exact Or.inl (by rw [h.1])
      · exact Or.inr (List.cons_prefix_cons.mpr ⟨h.1, hprefix⟩)

/-- A text that is held somewhere brings its code points. -/
theorem mem_of_holds {c : CodePoint} {part t : Text} (h : holds part t) (hc : c ∈ part) :
    c ∈ t := by
  induction t with
  | nil =>
    rw [holds, List.isEmpty_iff] at h
    exact absurd hc (by simp [h])
  | cons d t ih =>
    rw [holds, Bool.or_eq_true, List.isPrefixOf_iff_prefix] at h
    rcases h with hprefix | hrest
    · exact hprefix.subset hc
    · exact List.mem_cons_of_mem d (ih hrest)

section Growing

variable {upper line next merged : Text}

/-- A line that is just one of the words before a condition takes in nothing: no comma ends it, it
is no clause keyword, and the space behind the word is missing. -/
theorem not_continues_of_word (hend : line.trimEnd = line)
    (hword : line.trim.toUpper = ("ON" : Text) ∨ line.trim.toUpper = ("AND" : Text)) :
    ¬ Continues line next := by
  obtain ⟨w, hw, hline⟩ := exists_trimStart line
  rw [← trim_of_trimEnd hend] at hline
  have hupper : line.toUpper = w ++ line.trim.toUpper := by
    conv_lhs => rw [hline, toUpper_append, toUpper_of_isBlank hw]
  rintro (h | h | h)
  · -- The comma at the end would be in the word.
    simp only [continuesList, Bool.and_eq_true, beq_iff_eq] at h
    have hcomma : ofChar ',' ∈ w ++ line.trim := hline ▸ List.mem_of_getLast? h.1.1
    rcases List.mem_append.mp hcomma with hcomma | hcomma
    · exact absurd (isBlank_of_mem hw hcomma) (by decide)
    · have hmem : ofChar ',' ∈ line.trim.toUpper :=
        List.mem_flatMap.mpr ⟨_, hcomma, by decide⟩
      rcases hword with hword | hword <;> exact absurd (hword ▸ hmem) (by decide)
  · simp only [continuesKeyword, Bool.and_eq_true] at h
    rcases hword with hword | hword <;> exact absurd (hword ▸ h.1.2) (by decide)
  · -- Neither `JOIN` nor a word with a space behind it is found in blanks and the word.
    rw [continuesCondition_iff, hupper] at h
    rcases h.1 with hjoin | hprefix
    · rcases List.mem_append.mp (mem_of_holds hjoin (c := ofChar 'J') (by decide)) with hj | hj
      · exact absurd (isBlank_of_mem hw hj) (by decide)
      · rcases hword with hword | hword <;> exact absurd (hword ▸ hj) (by decide)
    · cases w with
      | nil =>
        rcases hword with hword | hword <;>
          exact absurd (hword ▸ hprefix) (by decide)
      | cons c w =>
        rw [isBlank_cons, Bool.and_eq_true] at hw
        have hhead : c = ofChar 'A' ∨ c = ofChar 'O' := by
          rcases hprefix with hprefix | hprefix
          · exact Or.inl (List.cons_prefix_cons.mp hprefix).1.symm
          · exact Or.inr (List.cons_prefix_cons.mp hprefix).1.symm
        rcases hhead with rfl | rfl <;> exact absurd hw.1 (by decide)

/-- A line that takes in another one is not blank. -/
theorem Continues.not_isBlank (h : Continues line next) : ¬ line.isBlank := by
  intro hblank
  rcases h with h | h | h
  · simp only [continuesList, Bool.and_eq_true, beq_iff_eq] at h
    exact absurd (isBlank_of_mem hblank (List.mem_of_getLast? h.1.1)) (by decide)
  · simp only [continuesKeyword, Bool.and_eq_true] at h
    rw [trim, trimStart_of_isBlank hblank] at h
    exact absurd h.1.2 (by decide)
  · rw [continuesCondition_iff, toUpper_of_isBlank hblank] at h
    have hvisible : ofChar 'J' ∈ line ∨ ofChar 'A' ∈ line ∨ ofChar 'O' ∈ line :=
      h.1.imp (mem_of_holds · (by decide))
        (Or.imp (·.subset (by decide)) (·.subset (by decide)))
    rcases hvisible with hc | hc | hc <;> exact absurd (isBlank_of_mem hblank hc) (by decide)

/-- A line with another one taken in has no blank at its end. -/
theorem trimEnd_mergedLine (line : Text) (hnext : next.trim = next) (hne : next ≠ []) :
    (mergedLine line next).trimEnd = mergedLine line next := by
  have hend : next.trimEnd = next := trimEnd_eq_self_iff.mpr (trim_eq_self_iff.mp hnext).2
  rw [mergedLine, trimEnd_append _ (by rwa [hend]), hend]

/-- A line with another one taken in, trimmed. -/
theorem trim_mergedLine (hline : ¬ line.isBlank) (hend : line.trimEnd = line)
    (hnext : next.trim = next) (hne : next ≠ []) :
    (mergedLine line next).trim = mergedLine line.trim next := by
  have hstart : trimStart line ≠ [] := by
    intro hnil
    obtain ⟨w, hw, h⟩ := exists_trimStart line
    rw [hnil, List.append_nil] at h
    exact hline (h ▸ hw)
  rw [trim_of_trimEnd (trimEnd_mergedLine line hnext hne), trim_of_trimEnd hend, mergedLine,
    List.append_assoc, trimStart_append hstart, mergedLine, List.append_assoc]

theorem toUpper_mergedLine (line next : Text) :
    (mergedLine line next).toUpper = line.toUpper ++ ofChar ' ' :: next.toUpper := by
  rw [mergedLine, List.append_assoc, toUpper_append, toUpper_append]
  rfl

theorem Continues.trim_ne_nil (h : Continues line next) : line.trim ≠ [] := by
  intro hnil
  obtain ⟨w, w', hw, hw', heq⟩ := exists_trim line
  rw [hnil, List.append_nil] at heq
  exact h.not_isBlank (by rw [heq, isBlank_append, hw, hw', Bool.and_self])

/-- What takes in a line that has grown would have taken it in before. -/
theorem Continues.of_mergedLine (hend : line.trimEnd = line) (hline : Continues line next)
    (h : Continues upper (mergedLine line.trim next)) : Continues upper line.trim := by
  have hprefix : line.trim <+: mergedLine line.trim next := by
    rw [mergedLine, List.append_assoc]
    exact List.prefix_append _ _
  have hnotEmpty : line.trim.isEmpty = false := by
    rw [List.isEmpty_eq_false_iff]
    exact hline.trim_ne_nil
  -- What it begins with now, a comment or a clause, is what it began with or goes beyond it.
  have hnoComment (hc : isComment (mergedLine line.trim next) = false) :
      isComment line.trim = false := by
    rw [← Bool.not_eq_true, isComment, List.isPrefixOf_iff_prefix] at hc ⊢
    exact fun hcomment => hc (hcomment.trans hprefix)
  rcases h with h | h | h
  · simp only [continuesList, Bool.and_eq_true, Bool.not_eq_true'] at h
    refine Or.inl ?_
    simp only [continuesList, h.1.1, hnotEmpty, hnoComment h.2, Bool.not_false, Bool.and_self]
  · simp only [continuesKeyword, Bool.and_eq_true, Bool.not_eq_true'] at h
    have hnoClause : (clauseKeywords.any fun keyword => keyword.isPrefixOf line.trim.toUpper) =
        false := by
      rw [List.any_eq_false] at h ⊢
      intro keyword hkeyword hclause
      refine h.2 keyword hkeyword ?_
      rw [List.isPrefixOf_iff_prefix] at hclause ⊢
      rw [toUpper_mergedLine]
      exact hclause.trans (List.prefix_append _ _)
    refine Or.inr (Or.inl ?_)
    simp only [continuesKeyword, h.1.2, hnotEmpty, hnoComment h.1.1.2, hnoClause, Bool.not_false,
      Bool.and_self]
  · -- A condition that only begins where the next line was taken in was just its first word.
    rw [continuesCondition_iff, toUpper_mergedLine] at h
    refine Or.inr (Or.inr (continuesCondition_iff.mpr ⟨h.1, ?_⟩))
    refine h.2.imp (fun hon => ?_) (fun hand => ?_)
    · refine (prefix_space_cases "ON" (by decide) hon).resolve_left ?_
      exact fun hword => not_continues_of_word hend (Or.inl hword) hline
    · refine (prefix_space_cases "AND" (by decide) hand).resolve_left ?_
      exact fun hword => not_continues_of_word hend (Or.inr hword) hline

/-- **A line that has grown.**  What refuses a line refuses it as well once that line has taken in
another one: it begins as before, and it is longer. -/
theorem merge?_mergedLine (hend : line.trimEnd = line) (hnext : next.trim = next)
    (hmerged : merge? line next = some merged) (hnone : merge? upper line.trim = none) :
    merge? upper merged.trim = none := by
  obtain ⟨hline, -, rfl⟩ := merge?_eq_some_iff.mp hmerged
  rw [trim_mergedLine hline.not_isBlank hend hnext hline.next_ne_nil]
  rw [merge?_eq_none_iff] at hnone ⊢
  intro hupper hfits
  refine hnone (hline.of_mergedLine hend hupper) (lt_of_le_of_lt ?_ hfits)
  have hlonger : mergedLine upper (mergedLine line.trim next) =
      mergedLine upper line.trim ++ ((" " : Text) ++ next) := by
    simp only [mergedLine, List.append_assoc]
  rw [hlonger]
  exact length_trim_le_append _ _

end Growing

/-! ## Blocks -/

/-- Some lines that follow each other. -/
structure Block where
  first : Text
  further : List Text

namespace Block

/-- The lines of a block. -/
def lines (b : Block) : List Text := b.first :: b.further

/-- The line that comes of a block: the first line without the blanks at its end, and each further
one, trimmed, after a space. -/
def merged (b : Block) : Text :=
  b.further.foldl (fun line next => mergedLine line next.trim) b.first.trimEnd

/-- A block with one more line. -/
def grow (b : Block) (line : Text) : Block := ⟨b.first, b.further ++ [line]⟩

/-- The rules allow each line of a block but the first to be taken in by what comes of the lines
before it. -/
def Licensed (b : Block) : Prop :=
  ∀ taken next after, b.further = taken ++ next :: after →
    Continues (merged ⟨b.first, taken⟩) next.trim

/-- A block as it grows line by line: each line is allowed and leaves the outcome short. -/
inductive Grows : Block → Prop
  | single (first : Text) : Grows ⟨first, []⟩
  | grow {b : Block} {line : Text} (h : Grows b) (hrule : Continues b.merged line.trim)
      (hfits : Fits b.merged line.trim) : Grows (b.grow line)

theorem merged_grow (b : Block) (line : Text) :
    (b.grow line).merged = mergedLine b.merged line.trim := by
  rw [merged, grow, List.foldl_append]
  rfl

/-- What comes of a block has no blank at its end. -/
theorem Grows.trimEnd_merged {b : Block} (h : b.Grows) : b.merged.trimEnd = b.merged := by
  cases h with
  | single first => exact trimEnd_trimEnd first
  | @grow b line _ hrule _ =>
    rw [merged_grow]
    exact trimEnd_mergedLine _ (trim_trim line) hrule.next_ne_nil

theorem Grows.licensed {b : Block} (h : b.Grows) : b.Licensed := by
  induction h with
  | single first =>
    intro taken next after hfurther
    exact absurd hfurther (by simp)
  | @grow b line _ hrule _ ih =>
    intro taken next after hfurther
    rw [Block.grow] at hfurther
    -- The line is the last one of the block, or one of those before.
    rcases List.eq_nil_or_concat after with rfl | ⟨before, last, rfl⟩
    · obtain ⟨hbefore, hlast⟩ := List.append_inj' hfurther rfl
      obtain rfl := List.singleton_inj.mp hlast
      rw [← hbefore]
      exact hrule
    · refine ih taken next before ?_
      rw [List.concat_eq_append, ← List.cons_append, ← List.append_assoc] at hfurther
      exact (List.append_inj' hfurther rfl).1

/-- A block of several lines comes out short. -/
theorem Grows.length_merged {b : Block} (h : b.Grows) (hfurther : b.further ≠ []) :
    b.merged.trim.length < maxLine := by
  cases h with
  | single first => exact absurd rfl hfurther
  | @grow b line _ _ hfits =>
    rw [merged_grow]
    exact hfits

/-- What refuses the first line of a block refuses all that comes of the block. -/
theorem Grows.merge?_eq_none {b : Block} (h : b.Grows) {upper : Text}
    (hnone : merge? upper b.first.trim = none) : merge? upper b.merged.trim = none := by
  induction h with
  | single first => rwa [merged, List.foldl_nil, trim_trimEnd]
  | @grow b line hb hrule hfits ih =>
    exact merge?_mergedLine hb.trimEnd_merged (trim_trim line)
      (merge?_eq_some_iff.mpr ⟨hrule, hfits, merged_grow b line⟩) (ih hnone)

end Block

/-- The blocks of some lines, the first of which is begun. -/
def blocksFrom (b : Block) : List Text → List Block
  | [] => [b]
  | line :: rest =>
    if (merge? b.merged line.trim).isSome then blocksFrom (b.grow line) rest
    else b :: blocksFrom ⟨line, []⟩ rest

section Blocks

variable (b : Block) (rest : List Text)

/-- No line is lost, and none changes its place. -/
theorem flatMap_lines_blocksFrom : (blocksFrom b rest).flatMap Block.lines = b.lines ++ rest := by
  fun_induction blocksFrom b rest with
  | case1 b => simp
  | case2 b line rest _ ih => rw [ih, Block.lines, Block.lines, Block.grow]; simp
  | case3 b line rest _ ih => rw [List.flatMap_cons, ih, Block.lines, Block.lines]; simp

/-- The first block begins with the lines that it had. -/
theorem exists_blocksFrom : ∃ (more : List Text) (others : List Block),
    blocksFrom b rest = ⟨b.first, b.further ++ more⟩ :: others := by
  fun_induction blocksFrom b rest with
  | case1 b => exact ⟨[], [], by simp⟩
  | case2 b line rest _ ih =>
    obtain ⟨more, others, h⟩ := ih
    exact ⟨line :: more, others, by rw [h]; simp [Block.grow]⟩
  | case3 b line rest _ ih => exact ⟨[], blocksFrom ⟨line, []⟩ rest, by simp⟩

variable {b}

theorem grows_of_mem_blocksFrom (hb : b.Grows) : ∀ b' ∈ blocksFrom b rest, b'.Grows := by
  fun_induction blocksFrom b rest with
  | case1 b => simpa using hb
  | case2 b line rest hsome ih =>
    obtain ⟨merged, hmerged⟩ := Option.isSome_iff_exists.mp hsome
    obtain ⟨hrule, hfits, -⟩ := merge?_eq_some_iff.mp hmerged
    exact ih (hb.grow hrule hfits)
  | case3 b line rest _ ih =>
    rw [List.forall_mem_cons]
    exact ⟨hb, ih (.single line)⟩

/-- No block could take in what comes of the next one. -/
theorem isChain_blocksFrom (hb : b.Grows) :
    (blocksFrom b rest).IsChain fun upper lower =>
      merge? upper.merged lower.merged.trim = none := by
  fun_induction blocksFrom b rest with
  | case1 b => exact List.isChain_singleton _
  | case2 b line rest hsome ih =>
    obtain ⟨merged, hmerged⟩ := Option.isSome_iff_exists.mp hsome
    obtain ⟨hrule, hfits, -⟩ := merge?_eq_some_iff.mp hmerged
    exact ih (hb.grow hrule hfits)
  | case3 b line rest hnone ih =>
    have hchain := ih (.single line)
    have hgrows := grows_of_mem_blocksFrom rest (.single line)
    obtain ⟨more, others, h⟩ := exists_blocksFrom ⟨line, []⟩ rest
    rw [h] at hchain hgrows ⊢
    refine List.isChain_cons_cons.mpr ⟨?_, hchain⟩
    exact (hgrows _ List.mem_cons_self).merge?_eq_none (Option.not_isSome_iff_eq_none.mp hnone)

end Blocks

/-! ## Merging -/

/-- **Merging makes one line of each block.** -/
theorem mergeLines_cons (first : Text) (rest : List Text) :
    mergeLines (first :: rest) = (blocksFrom ⟨first, []⟩ rest).map Block.merged := by
  have hfold (finished : List Text) (b : Block) :
      ((rest.foldl MergeState.next ⟨finished, b.merged⟩).current ::
        (rest.foldl MergeState.next ⟨finished, b.merged⟩).finished).reverse =
          finished.reverse ++ (blocksFrom b rest).map Block.merged := by
    induction rest generalizing finished b with
    | nil => simp [blocksFrom]
    | cons line rest ih =>
      rw [List.foldl_cons, MergeState.next, blocksFrom]
      cases hmerge : merge? b.merged line.trim with
      | none =>
        refine (ih (b.merged :: finished) ⟨line, []⟩).trans ?_
        rw [List.reverse_cons, List.append_assoc]
        rfl
      | some merged =>
        obtain ⟨-, -, rfl⟩ := merge?_eq_some_iff.mp hmerge
        rw [← Block.merged_grow]
        exact ih finished (b.grow line)
  exact hfold [] ⟨first, []⟩

/-- Where no line takes in the next one, merging leaves the lines as they are. -/
theorem mergeLines_eq_self {ls : List Text} (hend : ∀ line ∈ ls, line.trimEnd = line)
    (hchain : ls.IsChain fun upper lower => merge? upper lower.trim = none) :
    mergeLines ls = ls := by
  cases ls with
  | nil => rfl
  | cons first rest =>
    rw [mergeLines_cons]
    induction rest generalizing first with
    | nil => simpa [blocksFrom, Block.merged] using hend
    | cons line rest ih =>
      rw [List.forall_mem_cons] at hend
      rw [List.isChain_cons_cons] at hchain
      have hfirst : Block.merged ⟨first, []⟩ = first := hend.1
      rw [blocksFrom, hfirst, hchain.1, Option.isSome_none, if_neg Bool.false_ne_true,
        List.map_cons, hfirst, ih line hend.2 hchain.2]

/-- A line takes in lines without line ends. -/
theorem Block.Grows.feed_not_mem {b : Block} (h : b.Grows)
    (hlines : ∀ line ∈ b.lines, ofChar '\n' ∉ line) : ofChar '\n' ∉ b.merged := by
  induction h with
  | single first =>
    obtain ⟨w, -, hfirst⟩ := exists_trimEnd first
    intro hfeed
    refine hlines first List.mem_cons_self ?_
    rw [hfirst]
    exact List.mem_append_left w hfeed
  | @grow b line _ _ _ ih =>
    have hgrown : (b.grow line).lines = b.lines ++ [line] := rfl
    rw [hgrown, List.forall_mem_append, List.forall_mem_singleton] at hlines
    rw [merged_grow, mergedLine, List.mem_append, List.mem_append, not_or, not_or]
    exact ⟨⟨ih hlines.1, by decide⟩, fun hfeed => hlines.2 (mem_of_mem_trim hfeed)⟩

/-- The text of the merged lines. -/
def mergedText (t : Text) : Text := unlines (mergeLines t.lines)

section Whole

variable (t : Text)

/-- The merged lines of a text are those of the blocks that its lines are cut into. -/
theorem exists_mergeLines : ∃ first rest,
    (blocksFrom ⟨first, []⟩ rest).flatMap Block.lines = t.lines ∧
      mergeLines t.lines = (blocksFrom ⟨first, []⟩ rest).map Block.merged := by
  obtain ⟨first, rest, hlines⟩ := List.exists_cons_of_ne_nil (splitOn_ne_nil (ofChar '\n') t)
  have htext : t.lines = first :: rest := hlines
  refine ⟨first, rest, ?_, ?_⟩
  · rw [flatMap_lines_blocksFrom, htext]
    rfl
  · rw [htext, mergeLines_cons]

/-- No merged line has a blank at its end. -/
theorem trimEnd_of_mem_mergeLines : ∀ line ∈ mergeLines t.lines, line.trimEnd = line := by
  obtain ⟨first, rest, -, hmerged⟩ := exists_mergeLines t
  rw [hmerged, List.forall_mem_map]
  exact fun b hb => (grows_of_mem_blocksFrom rest (.single first) b hb).trimEnd_merged

/-- No merged line takes in the next one. -/
theorem isChain_mergeLines :
    (mergeLines t.lines).IsChain fun upper lower => merge? upper lower.trim = none := by
  obtain ⟨first, rest, -, hmerged⟩ := exists_mergeLines t
  rw [hmerged, List.isChain_map]
  exact isChain_blocksFrom rest (.single first)

/-- The lines of that text are the merged ones, since no line end gets into a line. -/
theorem lines_mergedText : (mergedText t).lines = mergeLines t.lines := by
  obtain ⟨first, rest, hflat, hmerged⟩ := exists_mergeLines t
  have hne : mergeLines t.lines ≠ [] := by
    obtain ⟨more, others, hblocks⟩ := exists_blocksFrom ⟨first, []⟩ rest
    rw [hmerged, hblocks]
    simp
  refine splitOn_join hne ?_
  rw [hmerged, List.forall_mem_map]
  intro b hb
  refine (grows_of_mem_blocksFrom rest (.single first) b hb).feed_not_mem fun line hline => ?_
  have hmem : line ∈ t.lines := hflat ▸ List.mem_flatMap.mpr ⟨b, hb, hline⟩
  exact not_mem_of_mem_splitOn hmem

end Whole

/-- **Merging groups lines, and as many as it can.**  The lines are cut into blocks, in their order,
and each merged line is the first line of a block without the blanks at its end, with the further
lines, trimmed, behind it, a space before each.  The rules allow every step of this, and what comes
of several lines is short.  Of two neighbours among the merged lines no rule lets the first take in
the second with a short outcome, so merging again changes nothing. -/
theorem mergeLines_blocks (t : Text) :
    ∃ blocks : List Block,
      blocks.flatMap Block.lines = t.lines ∧
      mergeLines t.lines = blocks.map Block.merged ∧
      (∀ b ∈ blocks, b.Licensed) ∧
      (∀ b ∈ blocks, 2 ≤ b.lines.length → b.merged.trim.length < maxLine) ∧
      (mergeLines t.lines).IsChain (fun upper lower =>
        ¬ (Continues upper.trimEnd lower.trim ∧ Fits upper.trimEnd lower.trim)) ∧
      mergedText (mergedText t) = mergedText t := by
  obtain ⟨first, rest, hflat, hmerged⟩ := exists_mergeLines t
  have hgrows := grows_of_mem_blocksFrom rest (.single first)
  refine ⟨blocksFrom ⟨first, []⟩ rest, hflat, hmerged, fun b hb => (hgrows b hb).licensed,
    fun b hb hlength => (hgrows b hb).length_merged ?_, ?_, ?_⟩
  · rintro hnone
    rw [Block.lines, hnone] at hlength
    exact absurd hlength (by simp)
  · refine (isChain_mergeLines t).imp_of_mem_imp fun upper lower hupper _ hnone => ?_
    rw [trimEnd_of_mem_mergeLines t upper hupper]
    exact fun h => merge?_eq_none_iff.mp hnone h.1 h.2
  · have hagain : mergeLines (mergeLines t.lines) = mergeLines t.lines :=
      mergeLines_eq_self (trimEnd_of_mem_mergeLines t) (isChain_mergeLines t)
    rw [mergedText, lines_mergedText, hagain, mergedText]

example : mergeLines ["SELECT", "  id,", "  name", "FROM t"] =
    [("SELECT id, name" : Text), ("FROM t" : Text)] := by
  decide

end Sql

end StructuredText
