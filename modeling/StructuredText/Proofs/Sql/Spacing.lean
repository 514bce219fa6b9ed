/-
# What compacting does to the spacing

Compacting a query changes nothing but blanks.  The visible code points stay the same, and two
neighbours are separated afterwards just if they were before, except that a separation after an
opening or before a closing parenthesis may go.

* `Respaced` says this of two texts;
* `SpacingStep` is one change of blanks, `Respaced.of_step` says that it respaces;
* every pass is a sequence of steps, and `respaced_compact` puts the passes together.
-/
import Mathlib
import StructuredText.Proofs.Sql.Passes
import StructuredText.Sql.Format

namespace StructuredText.Sql

open Text CodePoint Relation

/-! ## Spacing -/

/-- The code points of a text that are no blanks. -/
def visible (t : Text) : Text := t.filter fun c => !c.isBlank

/-- Somewhere in the text a blank stands after exactly so many visible code points. -/
def BlankAfter (t : Text) (n : ℕ) : Prop :=
  ∃ (before : Text) (c : CodePoint) (after : Text),
    t = before ++ c :: after ∧ c.isBlank ∧ (visible before).length = n

/-- Blanks separate the visible code point of an index from the next one. -/
def SeparatedAt (t : Text) (i : ℕ) : Prop := BlankAfter t (i + 1)

/-- Two texts have the same visible code points, and two neighbours are separated in both or in
none, except that a separation after an opening or before a closing parenthesis may be lost. -/
structure Respaced (s t : Text) : Prop where
  visible_eq : visible t = visible s
  separated_of_separated : ∀ (i : ℕ) (y : CodePoint), (visible s)[i + 1]? = some y →
    SeparatedAt t i → SeparatedAt s i
  kept_or_parenthesis : ∀ (i : ℕ) (x y : CodePoint), (visible s)[i]? = some x →
    (visible s)[i + 1]? = some y → SeparatedAt s i →
      SeparatedAt t i ∨ x = ofChar '(' ∨ y = ofChar ')'

theorem Respaced.trans {s t u : Text} (hst : Respaced s t) (htu : Respaced t u) :
    Respaced s u where
  visible_eq := htu.visible_eq.trans hst.visible_eq
  separated_of_separated i y hy hu :=
    hst.separated_of_separated i y hy
      (htu.separated_of_separated i y (by rw [hst.visible_eq]; exact hy) hu)
  kept_or_parenthesis i x y hx hy hs := by
    rcases hst.kept_or_parenthesis i x y hx hy hs with ht | hp
    · exact htu.kept_or_parenthesis i x y (by rw [hst.visible_eq]; exact hx)
        (by rw [hst.visible_eq]; exact hy) ht
    · exact Or.inr hp

theorem Respaced.refl (s : Text) : Respaced s s :=
  ⟨rfl, fun _ _ _ h => h, fun _ _ _ _ _ h => Or.inl h⟩

@[simp] theorem visible_nil : visible [] = [] := rfl

@[simp] theorem visible_append (s t : Text) : visible (s ++ t) = visible s ++ visible t :=
  List.filter_append ..

theorem visible_of_isBlank {w : Text} (hw : w.isBlank) : visible w = [] :=
  List.filter_eq_nil_iff.mpr fun c hc => by simp [isBlank_of_mem hw hc]

theorem visible_cons_of_visible {c : CodePoint} (hc : ¬ c.isBlank) (t : Text) :
    visible (c :: t) = c :: visible t :=
  List.filter_cons_of_pos (by simpa using hc)

/-- Somewhere in the text a code point of a kind stands after exactly so many visible ones. -/
def StandsAfter (p : CodePoint → Prop) (t : Text) (n : ℕ) : Prop :=
  ∃ (before : Text) (c : CodePoint) (after : Text),
    t = before ++ c :: after ∧ p c ∧ (visible before).length = n

section Standing

variable {p : CodePoint → Prop}

/-- Where it stands in two texts one after the other. -/
theorem standsAfter_append (s t : Text) (n : ℕ) :
    StandsAfter p (s ++ t) n ↔
      StandsAfter p s n ∨ ∃ m, n = (visible s).length + m ∧ StandsAfter p t m := by
  constructor
  · rintro ⟨before, c, after, h, hc, hn⟩
    rcases List.append_eq_append_iff.mp h with ⟨more, rfl, ht⟩ | ⟨more, rfl, hmore⟩
    · refine Or.inr ⟨(visible more).length, ?_, more, c, after, ht, hc, rfl⟩
      rw [← hn, visible_append, List.length_append]
    · cases more with
      | nil => exact Or.inr ⟨0, by simpa using hn.symm, [], c, after, hmore.symm, hc, rfl⟩
      | cons d more =>
        obtain ⟨rfl, -⟩ := List.cons.inj hmore
        exact Or.inl ⟨before, c, more, rfl, hc, hn⟩
  · rintro (⟨before, c, after, rfl, hc, hn⟩ | ⟨m, rfl, before, c, after, rfl, hc, rfl⟩)
    · exact ⟨before, c, after ++ t, by simp, hc, hn⟩
    · exact ⟨s ++ before, c, after, by simp, hc, by simp⟩

/-- Among blanks, it stands at the front only. -/
theorem standsAfter_of_isBlank {w : Text} (hw : w.isBlank) (n : ℕ) :
    StandsAfter p w n ↔ (∃ c ∈ w, p c) ∧ n = 0 := by
  constructor
  · rintro ⟨before, c, after, rfl, hc, rfl⟩
    rw [isBlank_append, Bool.and_eq_true] at hw
    exact ⟨⟨c, by simp, hc⟩, by rw [visible_of_isBlank hw.1]; rfl⟩
  · rintro ⟨⟨c, hmem, hc⟩, rfl⟩
    obtain ⟨before, after, rfl⟩ := List.append_of_mem hmem
    rw [isBlank_append, Bool.and_eq_true] at hw
    exact ⟨before, c, after, rfl, hc, by rw [visible_of_isBlank hw.1]; rfl⟩

/-- Blanks put into a text take nothing away. -/
theorem StandsAfter.insert_blanks {s t w : Text} {n : ℕ} (hw : w.isBlank)
    (h : StandsAfter p (s ++ t) n) : StandsAfter p (s ++ w ++ t) n := by
  rw [List.append_assoc, standsAfter_append]
  rcases (standsAfter_append s t n).mp h with hs | ⟨m, rfl, ht⟩
  · exact Or.inl hs
  · refine Or.inr ⟨m, rfl, (standsAfter_append w t m).mpr (Or.inr ⟨m, ?_, ht⟩)⟩
    rw [visible_of_isBlank hw, List.length_nil, Nat.zero_add]

end Standing

/-- Where a blank stands in two texts one after the other. -/
theorem blankAfter_append (s t : Text) (n : ℕ) :
    BlankAfter (s ++ t) n ↔
      BlankAfter s n ∨ ∃ m, n = (visible s).length + m ∧ BlankAfter t m :=
  standsAfter_append s t n

/-- Among blanks, a blank stands at the front only. -/
theorem blankAfter_of_isBlank {w : Text} (hw : w.isBlank) (n : ℕ) :
    BlankAfter w n ↔ w ≠ [] ∧ n = 0 := by
  refine (standsAfter_of_isBlank hw n).trans (and_congr_left' ?_)
  constructor
  · rintro ⟨c, hc, -⟩
    exact List.ne_nil_of_mem hc
  · intro hne
    obtain ⟨c, hc⟩ := List.exists_mem_of_ne_nil w hne
    exact ⟨c, hc, isBlank_of_mem hw hc⟩

/-- Blanks in front of a text add a blank at its front. -/
theorem blankAfter_blanks_append {w : Text} (hw : w.isBlank) (t : Text) (n : ℕ) :
    BlankAfter (w ++ t) n ↔ w ≠ [] ∧ n = 0 ∨ BlankAfter t n := by
  rw [blankAfter_append, blankAfter_of_isBlank hw, visible_of_isBlank hw]
  simp

/-- Blanks at the end of a text separate nothing. -/
theorem respaced_append_blanks (t : Text) {w : Text} (hw : w.isBlank) : Respaced (t ++ w) t := by
  have hvisible : visible (t ++ w) = visible t := by
    rw [visible_append, visible_of_isBlank hw, List.append_nil]
  refine ⟨hvisible.symm, fun i y _ h => (blankAfter_append t w _).mpr (Or.inl h), ?_⟩
  intro i x y _ hy h
  rcases (blankAfter_append t w _).mp h with h | ⟨m, hm, _⟩
  · exact Or.inl h
  · rw [hvisible] at hy
    obtain ⟨hlt, -⟩ := List.getElem?_eq_some_iff.mp hy
    omega

/-! ## One change of blanks -/

/-- One change of blanks: some blanks for those that a line ends in, or none for those next to the
inside of a parenthesis. -/
inductive SpacingStep : Text → Text → Prop
  | exchange (p : Text) {w w' : Text} (q : Text) (hw : w.isBlank) (hw' : w'.isBlank)
      (hline : ofChar '\n' ∈ w) (hne' : w' ≠ []) : SpacingStep (p ++ w ++ q) (p ++ w' ++ q)
  | afterOpening (p : Text) {w : Text} (q : Text) (hw : w.isBlank) :
      SpacingStep (p ++ ofChar '(' :: (w ++ q)) (p ++ ofChar '(' :: q)
  | beforeClosing (p : Text) {w : Text} (q : Text) (hw : w.isBlank) :
      SpacingStep (p ++ w ++ ofChar ')' :: q) (p ++ ofChar ')' :: q)

theorem SpacingStep.append_left (r : Text) {s t : Text} (h : SpacingStep s t) :
    SpacingStep (r ++ s) (r ++ t) := by
  cases h with
  | exchange p q hw hw' hline hne' =>
    simpa only [List.append_assoc] using exchange (r ++ p) q hw hw' hline hne'
  | afterOpening p q hw => simpa only [List.append_assoc] using afterOpening (r ++ p) q hw
  | beforeClosing p q hw => simpa only [List.append_assoc] using beforeClosing (r ++ p) q hw

theorem SpacingStep.append_right (r : Text) {s t : Text} (h : SpacingStep s t) :
    SpacingStep (s ++ r) (t ++ r) := by
  cases h with
  | exchange p q hw hw' hline hne' =>
    simpa only [List.append_assoc] using exchange p (q ++ r) hw hw' hline hne'
  | afterOpening p q hw =>
    simpa only [List.append_assoc, List.cons_append] using afterOpening p (q ++ r) hw
  | beforeClosing p q hw =>
    simpa only [List.append_assoc, List.cons_append] using beforeClosing p (q ++ r) hw

/-- Blanks taken out of a text: what is visible stays, blanks elsewhere stay, and a blank that is
gone stood at their place. -/
theorem blankAfter_of_dropped {p w q : Text} (hw : w.isBlank) :
    visible (p ++ w ++ q) = visible (p ++ q) ∧
      (∀ n, BlankAfter (p ++ q) n → BlankAfter (p ++ w ++ q) n) ∧
      ∀ n, BlankAfter (p ++ w ++ q) n → BlankAfter (p ++ q) n ∨ n = (visible p).length := by
  refine ⟨by simp [visible_of_isBlank hw], ?_, ?_⟩
  · exact fun n h => StandsAfter.insert_blanks hw h
  · intro n h
    rw [List.append_assoc, blankAfter_append] at h
    rw [blankAfter_append]
    rcases h with h | ⟨m, rfl, h⟩
    · exact Or.inl (Or.inl h)
    · rcases (blankAfter_blanks_append hw q m).mp h with ⟨-, rfl⟩ | h
      · exact Or.inr rfl
      · exact Or.inl (Or.inr ⟨m, rfl, h⟩)

/-- Some blanks or others are the same spacing. -/
theorem blankAfter_exchange {p w w' q : Text} (hw : w.isBlank) (hw' : w'.isBlank) (hne : w ≠ [])
    (hne' : w' ≠ []) (n : ℕ) : BlankAfter (p ++ w ++ q) n ↔ BlankAfter (p ++ w' ++ q) n := by
  rw [List.append_assoc, List.append_assoc, blankAfter_append, blankAfter_append p]
  refine or_congr_right (exists_congr fun m => and_congr_right fun _ => ?_)
  rw [blankAfter_blanks_append hw, blankAfter_blanks_append hw']
  simp only [hne, hne', ne_eq, not_false_eq_true]

/-- **A change of blanks respaces.** -/
theorem Respaced.of_step {s t : Text} (h : SpacingStep s t) : Respaced s t := by
  -- No step adds a separation, so what is left is which of them are lost.
  cases h with
  | @exchange p w w' q hw hw' hline hne' =>
    have hiff := blankAfter_exchange (p := p) (q := q) hw hw' (List.ne_nil_of_mem hline) hne'
    refine ⟨by simp [visible_of_isBlank hw, visible_of_isBlank hw'],
      fun i _ _ h => (hiff _).mpr h, fun i _ _ _ _ h => Or.inl ((hiff _).mp h)⟩
  | @afterOpening p w q hw =>
    obtain ⟨hvisible, hmore, hless⟩ :=
      blankAfter_of_dropped (p := p ++ [ofChar '(']) (q := q) hw
    simp only [List.append_assoc, List.singleton_append] at hvisible hmore hless
    refine ⟨hvisible.symm, fun i _ _ h => hmore _ h, fun i x y hx _ h => ?_⟩
    rcases hless _ h with h | h
    · exact Or.inl h
    · -- The lost separation stood right after the parenthesis.
      refine Or.inr (Or.inl ?_)
      rw [visible_append, visible_cons_of_visible (by decide), List.length_append,
        visible_nil, List.length_singleton] at h
      have hi : i = (visible p).length := by omega
      rw [visible_append, visible_cons_of_visible (by decide), hi,
        List.getElem?_append_right (Nat.le_refl _)] at hx
      simpa using hx.symm
  | @beforeClosing p w q hw =>
    obtain ⟨hvisible, hmore, hless⟩ :=
      blankAfter_of_dropped (p := p) (q := ofChar ')' :: q) hw
    refine ⟨hvisible.symm, fun i _ _ h => hmore _ h, fun i x y _ hy h => ?_⟩
    rcases hless _ h with h | h
    · exact Or.inl h
    · -- The lost separation stood right before the parenthesis.
      refine Or.inr (Or.inr ?_)
      rw [hvisible, visible_append, visible_cons_of_visible (by decide), h,
        List.getElem?_append_right (Nat.le_refl _)] at hy
      simpa using hy.symm

/-- Any number of changes of blanks. -/
abbrev Respaces : Text → Text → Prop := ReflTransGen SpacingStep

theorem Respaces.append_left (r : Text) {s t : Text} (h : Respaces s t) :
    Respaces (r ++ s) (r ++ t) :=
  h.lift (r ++ ·) fun _ _ => SpacingStep.append_left r

theorem Respaces.append_right (r : Text) {s t : Text} (h : Respaces s t) :
    Respaces (s ++ r) (t ++ r) :=
  h.lift (· ++ r) fun _ _ => SpacingStep.append_right r

theorem Respaces.cons (c : CodePoint) {s t : Text} (h : Respaces s t) :
    Respaces (c :: s) (c :: t) :=
  h.append_left [c]

theorem Respaces.respaced {s t : Text} (h : Respaces s t) : Respaced s t := by
  induction h with
  | refl => exact .refl s
  | tail _ hstep ih => exact ih.trans (.of_step hstep)

/-! ## Parentheses -/

theorem respaces_joinAfterOpening (t : Text) : Respaces t (joinAfterOpening t) := by
  rw [joinAfterOpening_eq]
  induction t with
  | nil => exact .refl
  | cons c t ih =>
    rw [dropBreaksAfter_cons]
    split
    · next hc =>
      obtain ⟨w, hw, h⟩ := exists_dropBreak (dropBreaksAfter (ofChar '(') t)
      rw [hc]
      refine (ih.cons (ofChar '(')).tail ?_
      conv_lhs => rw [h]
      exact .afterOpening [] _ hw
    · exact ih.cons c

theorem respaces_joinBeforeClosing (t : Text) : Respaces t (joinBeforeClosing t) := by
  induction t using List.reverseRecOn with
  | nil => exact .refl
  | append_singleton t c ih =>
    rw [joinBeforeClosing_concat]
    split
    · next hc =>
      obtain ⟨w, hw, h⟩ := exists_dropBreak (joinBeforeClosing t).reverse
      refine (ih.append_right [c]).tail ?_
      rw [List.reverse_eq_iff, List.reverse_append] at h
      conv_lhs => rw [h]
      rw [hc]
      exact .beforeClosing _ [] (by rwa [isBlank_reverse])
    · exact ih.append_right [c]

theorem respaces_squeezed {w : Text} (hw : w.isBlank) : Respaces w (squeezed w) := by
  unfold squeezed
  split
  · next hfeed =>
    have hstep : SpacingStep ([] ++ w ++ []) ([] ++ [ofChar ' '] ++ []) :=
      .exchange [] [] hw (by decide) hfeed (by simp)
    rw [List.nil_append, List.append_nil] at hstep
    exact .single hstep
  · exact .refl

theorem respaces_joinBreaks (t : Text) : Respaces t (joinBreaks t) := by
  induction t using blanks_induction with
  | blank w hw =>
    rw [joinBreaks_of_isBlank hw]
    exact respaces_squeezed hw
  | visible w c t hw hc ih =>
    rw [joinBreaks_blanks_append hw hc]
    exact ((respaces_squeezed hw).append_right _).trans ((ih.cons c).append_left _)

/-- Between parentheses, the blanks around the inside go. -/
theorem respaces_innerText (p inside q : Text) :
    Respaces (p ++ ofChar '(' :: (inside ++ ofChar ')' :: q))
      (p ++ ofChar '(' :: (innerText inside ++ ofChar ')' :: q)) := by
  unfold innerText
  split
  · next hblank =>
    -- Of nothing but blanks all but the last go.
    have hfront : isBlank (inside.take (inside.length - 1)) :=
      List.all_eq_true.mpr fun c hc => isBlank_of_mem hblank (List.mem_of_mem_take hc)
    have hstep := SpacingStep.afterOpening p
      (inside.drop (inside.length - 1) ++ ofChar ')' :: q) hfront
    rw [← List.append_assoc, List.take_append_drop] at hstep
    exact .single hstep
  · obtain ⟨w, w', hw, hw', h⟩ := exists_trim inside
    have hfront := SpacingStep.afterOpening p (trim inside ++ w' ++ ofChar ')' :: q) hw
    have hback := SpacingStep.beforeClosing (p ++ ofChar '(' :: trim inside) q hw'
    simp only [List.append_assoc, List.cons_append] at hfront hback
    refine .head ?_ (.single hback)
    conv_lhs => rw [h]
    simpa only [List.append_assoc] using hfront

theorem respaces_onOneLine (p inside q : Text) :
    Respaces (p ++ ofChar '(' :: (inside ++ ofChar ')' :: q))
      (p ++ ofChar '(' :: (onOneLine inside ++ ofChar ')' :: q)) := by
  unfold onOneLine
  split
  · exact .refl
  · exact (respaces_innerText p inside q).trans
      ((((respaces_joinBreaks _).append_right _).cons _).append_left p)

theorem respaces_joinGroup (t q : Text) :
    Respaces (t ++ ofChar ')' :: q) (joinGroup t ++ ofChar ')' :: q) := by
  by_cases ht : ofChar '(' ∈ t
  · obtain ⟨before, inside, rfl, hbefore⟩ := List.eq_append_cons_of_mem ht
    rw [joinGroup_append hbefore]
    simpa using respaces_onOneLine before inside q
  · rw [joinGroup_of_not_mem ht]

theorem respaces_joinGroups (t : Text) : Respaces t (joinGroups t) := by
  induction t using cut_induction (ofChar ')') with
  | last t ht => rw [joinGroups_of_not_mem ht]
  | cut p rest hp ih =>
    rw [joinGroups_append hp]
    exact (respaces_joinGroup p rest).trans ((ih.cons _).append_left _)

theorem respaces_compactParentheses (t : Text) : Respaces t (compactParentheses t) :=
  ((respaces_joinAfterOpening t).trans (respaces_joinBeforeClosing _)).trans
    (respaces_joinGroups _)

/-! ## Lines -/

/-- The text of the lines that a state stands for. -/
def MergeState.text (s : MergeState) : Text := unlines (s.finished.reverse ++ [s.current])

/-- The last line of a state put apart. -/
theorem MergeState.exists_text (finished : List Text) :
    ∃ front : Text, ∀ current : Text, (MergeState.mk finished current).text = front ++ current := by
  by_cases h : finished.reverse = []
  · refine ⟨[], fun current => ?_⟩
    rw [MergeState.text, h]
    simp
  · refine ⟨unlines finished.reverse ++ [ofChar '\n'], fun current => ?_⟩
    exact (join_append h (by simp)).trans (by rw [join_singleton]; rfl)

theorem MergeState.text_finish (finished : List Text) (current line : Text) :
    (MergeState.mk (current :: finished) line).text =
      (MergeState.mk finished current).text ++ ofChar '\n' :: line := by
  unfold MergeState.text
  rw [List.reverse_cons]
  exact (join_append (by simp) (by simp)).trans (by rw [join_singleton, List.append_assoc]; rfl)

/-- **Reading one more line** respaces what was read, blanks at the end apart. -/
theorem MergeState.respaces_next (s : MergeState) {w : Text} (hw : w.isBlank) (line : Text) :
    ∃ w' : Text, w'.isBlank ∧
      Respaces (s.text ++ w ++ ofChar '\n' :: line) ((s.next line).text ++ w') := by
  obtain ⟨finished, current⟩ := s
  have hfeed : isBlank (w ++ [ofChar '\n']) := by
    rw [isBlank_append, hw]
    decide
  unfold MergeState.next
  split
  -- Either the line is joined to the current one by a space, and the break goes with the blanks
  -- around it, or it begins a line of its own, and only the blanks before the break go.
  · next merged hmerged =>
    have hline : merged = current ++ ofChar ' ' :: trim line := by
      unfold merge? at hmerged
      split at hmerged
      · rw [← Option.some.inj hmerged]
        simp [mergedLine, ofString, ofChars]
      · exact absurd hmerged (by simp)
    obtain ⟨front, hfront⟩ := exists_text finished
    obtain ⟨u, u', hu, hu', h⟩ := exists_trim line
    refine ⟨u', hu', .single ?_⟩
    have hdropped : isBlank (w ++ [ofChar '\n'] ++ u) := by
      rw [isBlank_append, hfeed, hu]
      rfl
    have hstep := SpacingStep.exchange (front ++ current) (trim line ++ u') hdropped
      (show isBlank [ofChar ' '] by decide) (by simp) (by simp)
    rw [hfront, hfront, hline]
    conv_lhs => rw [h]
    simpa only [List.append_assoc, List.cons_append, List.nil_append] using hstep
  · obtain ⟨u, hu, h⟩ := exists_trimEnd line
    refine ⟨u, hu, .single ?_⟩
    rw [text_finish]
    have hstep := SpacingStep.exchange ((MergeState.mk finished current).text) (trimEnd line ++ u)
      hfeed (show isBlank [ofChar '\n'] by decide) (by simp) (by simp)
    conv_lhs => rw [h]
    simpa only [List.append_assoc, List.cons_append, List.nil_append] using hstep

/-- Reading any number of lines. -/
theorem MergeState.respaces_foldl_next (lines : List Text) (s : MergeState) {w : Text}
    (hw : w.isBlank) :
    ∃ w' : Text, w'.isBlank ∧
      Respaces (s.text ++ w ++ (lines.map (ofChar '\n' :: ·)).flatten)
        ((lines.foldl MergeState.next s).text ++ w') := by
  -- The blanks cut off one line are handed on and go with the next break.
  induction lines generalizing s w with
  | nil => exact ⟨w, hw, by simpa using .refl⟩
  | cons line lines ih =>
    obtain ⟨w₁, hw₁, hnext⟩ := s.respaces_next hw line
    obtain ⟨w₂, hw₂, hrest⟩ := ih (s.next line) hw₁
    refine ⟨w₂, hw₂, .trans ?_ hrest⟩
    rw [List.map_cons, List.flatten_cons, ← List.append_assoc]
    exact hnext.append_right _

/-- Merging lines respaces a text, blanks at the end apart. -/
theorem respaces_mergeLines (t : Text) :
    ∃ w : Text, w.isBlank ∧ Respaces t (unlines (mergeLines (lines t)) ++ w) := by
  obtain ⟨line, lines, h⟩ := List.exists_cons_of_ne_nil (splitOn_ne_nil (ofChar '\n') t)
  have hlines : Text.lines t = line :: lines := h
  obtain ⟨u, hu, hline⟩ := exists_trimEnd line
  obtain ⟨w, hw, hread⟩ := MergeState.respaces_foldl_next lines ⟨[], trimEnd line⟩ hu
  refine ⟨w, hw, ?_⟩
  have htext : unlines (mergeLines (line :: lines)) =
      (lines.foldl MergeState.next ⟨[], trimEnd line⟩).text := by
    simp [mergeLines, MergeState.text]
  have hstart : (MergeState.mk [] (trimEnd line)).text = trimEnd line := by
    simp [MergeState.text]
  rw [hstart, ← hline, ← unlines_cons, ← hlines, unlines_lines] at hread
  rwa [hlines, htext]

/-! ## Compacting -/

/-- **Compacting changes nothing but blanks**, and separates and joins no two visible code points,
next to the inside of a parenthesis apart. -/
theorem respaced_compact (t : Text) : Respaced t (compact t) := by
  obtain ⟨w, hw, hlines⟩ := respaces_mergeLines t
  have htrimmed := hlines.respaced.trans (respaced_append_blanks _ hw)
  exact htrimmed.trans (respaces_compactParentheses _).respaced

end StructuredText.Sql
