/-
# Passages of written values

A written value, piece by piece: which brackets are open in front of a piece and behind it, and that
each new line of it is indented by the brackets that are open around what stands there.  Brackets
inside strings do not count.

* `Place.squeeze` takes out the blanks between tokens;
* `openFrom` counts the open brackets;
* `Fits` says how the lines of a piece of text stand, with the steps `Fits.append` and `Fits.feed`;
* `Passage` is a piece of a written value next to the same piece minified, with the steps
  `Passage.append`, `Passage.gap` and `Passage.feed`.
-/
import Mathlib
import StructuredText.Proofs.Json.Constants
import StructuredText.Proofs.Json.WrittenStrings
import StructuredText.Proofs.Text.Trimming

namespace StructuredText.Json

open CodePoint (ofChar)

/-! ## Blanks between tokens -/

/-- A text without the spaces and line feeds that stand outside of strings. -/
def Place.squeeze : Place → Text → Text
  | _, [] => []
  | p, c :: t =>
    (if p = outside ∧ (c = ofChar ' ' ∨ c = ofChar '\n') then [] else [c]) ++ squeeze (p.after c) t

theorem Place.squeeze_append (p : Place) (s t : Text) :
    p.squeeze (s ++ t) = p.squeeze s ++ (p.run s).squeeze t := by
  induction s generalizing p with
  | nil => rfl
  | cons c s ih => simp [squeeze, run, ih]

/-- Nothing is squeezed out of a text that shows no blanks outside of strings. -/
theorem Place.squeeze_eq_self {p : Place} {t : Text} (h : ∀ c ∈ p.bare t, ¬ c.isBlank) :
    p.squeeze t = t := by
  induction t generalizing p with
  | nil => rfl
  | cons c t ih =>
    rw [bare, List.forall_mem_append] at h
    rw [squeeze, ih h.2, if_neg, List.singleton_append]
    rintro ⟨rfl, hc⟩
    rw [if_pos rfl, List.forall_mem_singleton] at h
    rcases hc with rfl | rfl <;> exact h.1 (by decide)

/-! ## Brackets -/

/-- A bracket or brace that opens a container. -/
def opensContainer (c : CodePoint) : Bool := c == '[' || c == '\x7b'

/-- A bracket or brace that closes a container. -/
def closesContainer (c : CodePoint) : Bool := c == ']' || c == '\x7d'

theorem opensContainer_iff {c : CodePoint} :
    opensContainer c ↔ c = ofChar '[' ∨ c = ofChar '\x7b' := by
  rw [opensContainer, Bool.or_eq_true, beq_iff_eq, beq_iff_eq]

theorem closesContainer_iff {c : CodePoint} :
    closesContainer c ↔ c = ofChar ']' ∨ c = ofChar '\x7d' := by
  rw [closesContainer, Bool.or_eq_true, beq_iff_eq, beq_iff_eq]

/-- How many brackets are open after a code point. -/
def openAfter (n : ℕ) (c : CodePoint) : ℕ :=
  if opensContainer c then n + 1 else if closesContainer c then n - 1 else n

/-- How many brackets are open after a text, if some are open in front of it.  Those inside strings
do not count. -/
def openFrom (n : ℕ) (t : Text) : ℕ := (Place.outside.bare t).foldl openAfter n

theorem openFrom_append {s : Text} (hs : Place.outside.run s = .outside) (n : ℕ) (t : Text) :
    openFrom n (s ++ t) = openFrom (openFrom n s) t := by
  rw [openFrom, Place.bare_append, hs, List.foldl_append]
  rfl

theorem openFrom_singleton (n : ℕ) (c : CodePoint) : openFrom n [c] = openAfter n c := rfl

/-- How many brackets are open around what follows a text and begins with a code point: if this
closes one, it stands outside of it. -/
def openAround (n : ℕ) (before : Text) (c : CodePoint) : ℕ :=
  if closesContainer c then openFrom n (before ++ [c]) else openFrom n before

/-! ## Pieces of a text -/

/-- A text ends in something visible. -/
def EndsVisibly (t : Text) : Prop := ∃ r c, t = r ++ [c] ∧ ¬ c.isBlank

theorem EndsVisibly.append (s : Text) {t : Text} (ht : EndsVisibly t) : EndsVisibly (s ++ t) := by
  obtain ⟨r, c, rfl, hc⟩ := ht
  exact ⟨s ++ r, c, by rw [List.append_assoc], hc⟩

/-- What holds at each line feed of a piece of text, in front of which some brackets are open: it
stands outside of strings and behind something visible, and in front of a line that is indented by
the brackets open around it. -/
def Fits (columns n : ℕ) (t : Text) : Prop :=
  ∀ before after, t = before ++ ofChar '\n' :: after →
    Place.outside.run before = .outside ∧ EndsVisibly before ∧
      ∃ c rest, after = Text.spaces (columns * openAround n before c) ++ c :: rest ∧ ¬ c.isBlank

section Fits

variable {columns n : ℕ} {s t : Text}

theorem fits_of_noFeed (h : ofChar '\n' ∉ t) : Fits columns n t := by
  intro before after heq
  exact absurd (heq ▸ List.mem_append_right _ List.mem_cons_self) h

/-- A cut at a line feed falls into the first of two pieces or into the second. -/
theorem cut_append {c : CodePoint} {before after : Text} (h : s ++ t = before ++ c :: after) :
    (∃ r, s = before ++ c :: r ∧ after = r ++ t) ∨ ∃ r, before = s ++ r ∧ t = r ++ c :: after := by
  rcases List.append_eq_append_iff.mp h with ⟨r, hbefore, ht⟩ | ⟨r, hs, hafter⟩
  · exact Or.inr ⟨r, hbefore, ht⟩
  · cases r with
    | nil => exact Or.inr ⟨[], by simpa using hs.symm, by simpa using hafter.symm⟩
    | cons d r =>
      obtain ⟨rfl, rfl⟩ := List.cons.inj hafter
      exact Or.inl ⟨r, hs, rfl⟩

theorem openAround_append (hs : Place.outside.run s = .outside) (n : ℕ) (t : Text) (c : CodePoint) :
    openAround n (s ++ t) c = openAround (openFrom n s) t c := by
  unfold openAround
  rw [List.append_assoc, openFrom_append hs, openFrom_append hs]

theorem Fits.append (hs : Fits columns n s) (hclosed : Place.outside.run s = .outside)
    (ht : Fits columns (openFrom n s) t) : Fits columns n (s ++ t) := by
  intro before after heq
  rcases cut_append heq with ⟨r, hcut, rfl⟩ | ⟨r, rfl, hcut⟩
  · obtain ⟨hrun, hends, c, rest, rfl, hc⟩ := hs before r hcut
    exact ⟨hrun, hends, c, rest ++ t, by simp, hc⟩
  · obtain ⟨hrun, hends, c, rest, hafter, hc⟩ := ht r after hcut
    refine ⟨by rw [Place.run_append, hclosed, hrun], hends.append s, c, rest, ?_, hc⟩
    rw [openAround_append hclosed]
    exact hafter

/-- The line feed and the margin of a new line. -/
def newLine (columns : ℕ) : Text := ofChar '\n' :: Text.spaces columns

theorem feed_not_mem_spaces (k : ℕ) : ofChar '\n' ∉ Text.spaces k := by
  intro h
  exact absurd (List.eq_of_mem_replicate h) (by decide)

/-- Blanks are outside of strings and no brackets. -/
theorem run_spaces (k : ℕ) : Place.outside.run (Text.spaces k) = .outside ∧
    ∀ n, openFrom n (Text.spaces k) = n := by
  induction k with
  | zero => exact ⟨rfl, fun _ => rfl⟩
  | succ k ih =>
    have hspaces : Text.spaces (k + 1) = [ofChar ' '] ++ Text.spaces k := rfl
    have hone : Place.outside.run [ofChar ' '] = .outside := by decide
    constructor
    · rw [hspaces, Place.run_append, hone, ih.1]
    · intro n
      rw [hspaces, openFrom_append hone, ih.2]
      rfl

theorem squeeze_newLine (k : ℕ) : Place.outside.squeeze (newLine k) = [] := by
  have hspaces : Place.outside.squeeze (Text.spaces k) = [] := by
    induction k with
    | zero => rfl
    | succ k ih => exact ih
  exact hspaces

theorem run_newLine (k : ℕ) : Place.outside.run (newLine k) = .outside ∧
    ∀ n, openFrom n (newLine k) = n := by
  have hone : Place.outside.run [ofChar '\n'] = .outside := by decide
  have hline : newLine k = [ofChar '\n'] ++ Text.spaces k := rfl
  constructor
  · rw [hline, Place.run_append, hone, (run_spaces k).1]
  · intro n
    rw [hline, openFrom_append hone, (run_spaces k).2]
    rfl

/-- A new line behind something visible, in front of something that is indented as it should be. -/
theorem Fits.feed {c : CodePoint} {r : Text} (hs : Fits columns n s)
    (hclosed : Place.outside.run s = .outside) (hends : EndsVisibly s) (hc : ¬ c.isBlank)
    (ht : Fits columns (openFrom n s) (c :: r)) :
    Fits columns n (s ++ newLine (columns * openAround n s c) ++ c :: r) := by
  intro before after heq
  obtain ⟨hline, hopen⟩ := run_newLine (columns * openAround n s c)
  rw [List.append_assoc] at heq
  rcases cut_append heq with ⟨u, hcut, rfl⟩ | ⟨u, rfl, hcut⟩
  · obtain ⟨hrun, hends, d, rest, rfl, hd⟩ := hs before u hcut
    exact ⟨hrun, hends, d, _, by rw [List.append_assoc, List.cons_append], hd⟩
  · rcases cut_append hcut with ⟨v, hfeed, rfl⟩ | ⟨v, rfl, htail⟩
    · -- The cut is at the new line itself, as there is no other feed in front of the margin.
      cases u with
      | nil =>
        obtain ⟨-, rfl⟩ := List.cons.inj hfeed
        rw [List.append_nil]
        exact ⟨hclosed, hends, c, r, rfl, hc⟩
      | cons d u =>
        have hspaces : Text.spaces (columns * openAround n s c) = u ++ ofChar '\n' :: v :=
          (List.cons.inj hfeed).2
        exact absurd (hspaces ▸ List.mem_append_right _ List.mem_cons_self)
          (feed_not_mem_spaces _)
    · obtain ⟨hrun, hv, d, rest, hafter, hd⟩ := ht v after htail
      refine ⟨?_, (hv.append _).append s, d, rest, ?_, hd⟩
      · rw [Place.run_append, hclosed, Place.run_append, hline, hrun]
      · rw [openAround_append hclosed, openAround_append hline, hopen]
        exact hafter

/-- Around what closes no bracket as many are open as in front of it. -/
theorem openAround_eq {c : CodePoint} (hc : closesContainer c = false) :
    openAround n s c = openFrom n s := by
  rw [openAround, hc]
  rfl

/-- Around what closes a bracket one less is open. -/
theorem openAround_eq_sub {c : CodePoint} (hclosed : Place.outside.run s = .outside)
    (hc : closesContainer c) (ho : opensContainer c = false) :
    openAround n s c = openFrom n s - 1 := by
  rw [openAround, if_pos hc, openFrom_append hclosed, openFrom_singleton, openAfter, ho, if_pos hc]
  rfl

end Fits

/-! ## Passages -/

/-- A piece of a written value that stands on its lines as it should, next to the same piece
minified: how many brackets are open in front of it and behind it, and that it begins and ends
visibly. -/
structure Passage (columns n n' : ℕ) (t minified : Text) : Prop where
  closed : Place.outside.run t = .outside
  level : openFrom n t = n'
  fits : Fits columns n t
  opens : ∃ c r, t = c :: r ∧ ¬ c.isBlank
  ends : EndsVisibly t
  squeezed : Place.outside.squeeze t = minified
  closed_minified : Place.outside.run minified = .outside
  visible : ∀ c ∈ Place.outside.bare minified, ¬ c.isBlank

section Passage

variable {columns n n' n'' : ℕ} {s t m m' : Text}

/-- What both halves of a minified text hold. -/
theorem visible_append (hm : Place.outside.run m = .outside)
    (h : ∀ c ∈ Place.outside.bare m, ¬ c.isBlank) (h' : ∀ c ∈ Place.outside.bare m', ¬ c.isBlank) :
    ∀ c ∈ Place.outside.bare (m ++ m'), ¬ c.isBlank := by
  rw [Place.bare_append, hm, List.forall_mem_append]
  exact ⟨h, h'⟩

/-- One passage behind another on the same line. -/
theorem Passage.append (hs : Passage columns n n' s m) (ht : Passage columns n' n'' t m') :
    Passage columns n n'' (s ++ t) (m ++ m') := by
  constructor
  · rw [Place.run_append, hs.closed, ht.closed]
  · rw [openFrom_append hs.closed, hs.level, ht.level]
  · exact hs.fits.append hs.closed (hs.level.symm ▸ ht.fits)
  · obtain ⟨c, r, rfl, hc⟩ := hs.opens
    exact ⟨c, r ++ t, rfl, hc⟩
  · exact ht.ends.append s
  · rw [Place.squeeze_append, hs.closed, hs.squeezed, ht.squeezed]
  · rw [Place.run_append, hs.closed_minified, ht.closed_minified]
  · exact visible_append hs.closed_minified hs.visible ht.visible

/-- One passage behind another with a blank between them, which goes when minified. -/
theorem Passage.gap (hs : Passage columns n n' s m) (ht : Passage columns n' n'' t m') :
    Passage columns n n'' (s ++ ofChar ' ' :: t) (m ++ m') := by
  have hblank : Place.outside.run [ofChar ' '] = .outside := by decide
  have hrun : Place.outside.run (ofChar ' ' :: t) = .outside := by
    show Place.outside.run ([ofChar ' '] ++ t) = _
    rw [Place.run_append, hblank, ht.closed]
  have hopen : ∀ k, openFrom k (ofChar ' ' :: t) = openFrom k t := by
    intro k
    show openFrom k ([ofChar ' '] ++ t) = _
    rw [openFrom_append hblank]
    rfl
  have hfits : Fits columns n' (ofChar ' ' :: t) := by
    show Fits columns n' ([ofChar ' '] ++ t)
    exact (fits_of_noFeed (by decide)).append hblank ht.fits
  constructor
  · rw [Place.run_append, hs.closed, hrun]
  · rw [openFrom_append hs.closed, hs.level, hopen, ht.level]
  · exact hs.fits.append hs.closed (hs.level.symm ▸ hfits)
  · obtain ⟨c, r, rfl, hc⟩ := hs.opens
    exact ⟨c, r ++ ofChar ' ' :: t, rfl, hc⟩
  · rw [← List.singleton_append, ← List.append_assoc]
    exact ht.ends.append _
  · rw [Place.squeeze_append, hs.closed, hs.squeezed]
    show m ++ Place.outside.squeeze t = _
    rw [ht.squeezed]
  · rw [Place.run_append, hs.closed_minified, ht.closed_minified]
  · exact visible_append hs.closed_minified hs.visible ht.visible

/-- One passage on the line behind another. -/
theorem Passage.feed {c : CodePoint} {r : Text} {depth : ℕ} (hs : Passage columns n n' s m)
    (ht : Passage columns n' n'' (c :: r) m') (hdepth : openAround n s c = depth) :
    Passage columns n n'' (s ++ newLine (columns * depth) ++ c :: r) (m ++ m') := by
  subst hdepth
  obtain ⟨hline, hopen⟩ := run_newLine (columns * openAround n s c)
  have hrun : Place.outside.run (s ++ newLine (columns * openAround n s c)) = .outside := by
    rw [Place.run_append, hs.closed, hline]
  obtain ⟨d, u, hd, hvisible⟩ := ht.opens
  obtain ⟨rfl, rfl⟩ := List.cons.inj hd
  constructor
  · rw [Place.run_append, hrun, ht.closed]
  · rw [openFrom_append hrun, openFrom_append hs.closed, hopen, hs.level, ht.level]
  · exact hs.fits.feed hs.closed hs.ends hvisible (hs.level.symm ▸ ht.fits)
  · obtain ⟨e, v, rfl, he⟩ := hs.opens
    exact ⟨e, _, rfl, he⟩
  · exact ht.ends.append _
  · rw [Place.squeeze_append, hrun, Place.squeeze_append, hs.closed, hs.squeezed, ht.squeezed,
      squeeze_newLine, List.append_nil]
  · rw [Place.run_append, hs.closed_minified, ht.closed_minified]
  · exact visible_append hs.closed_minified hs.visible ht.visible

/-- A token without line feeds looks the same minified. -/
theorem passage_of_noFeed (hclosed : Place.outside.run t = .outside) (hlevel : openFrom n t = n')
    (hfeed : ofChar '\n' ∉ t) (hopens : ∃ c r, t = c :: r ∧ ¬ c.isBlank) (hends : EndsVisibly t)
    (hvisible : ∀ c ∈ Place.outside.bare t, ¬ c.isBlank) : Passage columns n n' t t :=
  ⟨hclosed, hlevel, fits_of_noFeed hfeed, hopens, hends, Place.squeeze_eq_self hvisible, hclosed,
    hvisible⟩

/-- A code point that is visible and begins no string. -/
theorem passage_singleton {c : CodePoint} (hc : ¬ c.isBlank) (hquote : c ≠ ofChar '"')
    (hlevel : openAfter n c = n') : Passage columns n n' [c] [c] := by
  refine passage_of_noFeed ?_ hlevel ?_ ⟨c, [], rfl, hc⟩ ⟨[], c, rfl, hc⟩ ?_
  · simp [Place.run, Place.after, hquote]
  · intro hfeed
    obtain rfl := List.mem_singleton.mp hfeed
    exact hc (by decide)
  · simpa [Place.bare] using hc

/-! ## Tokens -/

/-- What scalars other than strings are made of. -/
def Plain (c : CodePoint) : Prop :=
  ¬ c.isBlank ∧ c ≠ ofChar '"' ∧ opensContainer c = false ∧ closesContainer c = false

instance (c : CodePoint) : Decidable (Plain c) := inferInstanceAs (Decidable (_ ∧ _))

theorem passage_plain (hne : t ≠ []) (h : ∀ c ∈ t, Plain c) : Passage columns n n t t := by
  induction t with
  | nil => exact absurd rfl hne
  | cons c t ih =>
    obtain ⟨⟨hc, hquote, hopens, hcloses⟩, ht⟩ := List.forall_mem_cons.mp h
    have hone : Passage columns n n [c] [c] :=
      passage_singleton hc hquote (by simp [openAfter, hopens, hcloses])
    by_cases hlast : t = []
    · subst hlast
      exact hone
    · exact hone.append (ih hlast ht)

/-- The code points of a written string are no control codes. -/
theorem PartsText.forall_le {t : Text} {parts : List StringPart} (h : PartsText t parts) :
    ∀ c ∈ t, 0x20 ≤ c.val := by
  have hbackslash : 0x20 ≤ (ofChar '\\').val := by decide
  induction h with
  | nil => simp
  | plain hc _ ih => exact List.forall_mem_cons.mpr ⟨hc.1, ih⟩
  | @short e c t parts he _ ih =>
    have hletter : ∀ p ∈ shortEscapes, 0x20 ≤ p.1.val := by decide
    exact List.forall_mem_cons.mpr ⟨hbackslash, List.forall_mem_cons.mpr ⟨hletter _ he, ih⟩⟩
  | @unit a b c d n t parts hex _ ih =>
    have hdigits : ∀ x ∈ [a, b, c, d], 0x20 ≤ x.val := by
      intro x hx
      obtain ⟨k, hk⟩ := hexValue?_of_hex4 hex x hx
      simp only [CodePoint.hexValue?, CodePoint.between, Bool.and_eq_true, decide_eq_true_eq] at hk
      split_ifs at hk <;> omega
    have hu : 0x20 ≤ (ofChar 'u').val := by decide
    have hall : ∀ x ∈ [ofChar '\\', ofChar 'u'] ++ [a, b, c, d] ++ t, 0x20 ≤ x.val := by
      simp only [List.forall_mem_append]
      exact ⟨⟨by simp [hbackslash, hu], hdigits⟩, ih⟩
    exact hall

theorem passage_quote (s : Text) : Passage columns n n (quote s) (quote s) := by
  obtain ⟨t, parts, htext, hparts, -⟩ := exists_parts_quote false s
  replace htext : quote s = ofChar '"' :: (t ++ [ofChar '"']) := htext
  have hopen : Place.outside.after (ofChar '"') = .inside := by decide
  have hbare : Place.outside.bare (quote s) = [ofChar '"'] := by
    rw [htext, Place.bare, hopen, Place.bare_append, hparts.inside.1, hparts.inside.2]
    rfl
  refine passage_of_noFeed ?_ ?_ ?_ ?_ ?_ ?_
  · rw [htext]
    exact hparts.ordinary.closed
  · rw [openFrom, hbare]
    rfl
  · intro hfeed
    rw [htext, List.mem_cons, List.mem_append, List.mem_singleton] at hfeed
    rcases hfeed with hfeed | hfeed | hfeed
    · exact absurd hfeed (by decide)
    · exact absurd (hparts.forall_le _ hfeed) (by decide)
    · exact absurd hfeed (by decide)
  · exact ⟨_, _, htext, by decide⟩
  · exact ⟨_, _, by rw [htext, ← List.cons_append], by decide⟩
  · rw [hbare, List.forall_mem_singleton]
    decide

theorem passage_opening {c : CodePoint} (hc : opensContainer c) :
    Passage columns n (n + 1) [c] [c] := by
  have hcode : ¬ c.isBlank ∧ c ≠ ofChar '"' := by
    rcases opensContainer_iff.mp hc with rfl | rfl <;> decide
  refine passage_singleton hcode.1 hcode.2 ?_
  rw [openAfter, if_pos hc]

theorem passage_closing {c : CodePoint} (hc : closesContainer c) :
    Passage columns (n + 1) n [c] [c] := by
  have hcode : ¬ c.isBlank ∧ c ≠ ofChar '"' ∧ opensContainer c = false := by
    rcases closesContainer_iff.mp hc with rfl | rfl <;> decide
  refine passage_singleton hcode.1 hcode.2.1 ?_
  rw [openAfter, hcode.2.2, if_pos hc]
  rfl

end Passage

end StructuredText.Json
