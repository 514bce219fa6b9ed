/-
# Blanks around a text

What trimming takes off, and what it leaves alone.

* `exists_trimStart`, `exists_trimEnd`, `exists_trim` cut a text into blanks and the rest;
* `trim_append_blanks` says that blanks around a text never matter to its trimmed form;
* `trim_eq_self_iff` tells trimmed texts by their two ends.
-/
import Mathlib
import StructuredText.Text.Blank

namespace StructuredText.Text

/-! ## Blank texts -/

@[simp] theorem isBlank_nil : isBlank [] = true := rfl

@[simp] theorem isBlank_cons (c : CodePoint) (t : Text) :
    isBlank (c :: t) = (c.isBlank && isBlank t) := rfl

@[simp] theorem isBlank_append (s t : Text) : isBlank (s ++ t) = (isBlank s && isBlank t) :=
  List.all_append

theorem isBlank_reverse (t : Text) : isBlank t.reverse = isBlank t := List.all_reverse

theorem isBlank_of_mem {c : CodePoint} {t : Text} (ht : t.isBlank) (hc : c ∈ t) : c.isBlank :=
  List.all_eq_true.mp ht c hc

/-- A blank text said over and over is blank. -/
theorem isBlank_times {t : Text} (ht : t.isBlank) (n : ℕ) : (times n t).isBlank := by
  unfold times
  split
  · rfl
  · refine List.all_eq_true.mpr fun c hc => ?_
    obtain ⟨s, hs, hcs⟩ := List.mem_flatten.mp hc
    rw [List.eq_of_mem_replicate hs] at hcs
    exact isBlank_of_mem ht hcs

/-- Induction on a text by its visible code points and the blanks in front of each. -/
theorem blanks_induction {P : Text → Prop} (blank : ∀ w, isBlank w → P w)
    (visible : ∀ w c t, isBlank w → ¬ c.isBlank → P t → P (w ++ c :: t)) (t : Text) : P t := by
  -- Blanks are kept until something visible comes.
  have hread (w : Text) (hw : isBlank w) : P (w ++ t) := by
    induction t generalizing w with
    | nil => simpa using blank w hw
    | cons c t ih =>
      by_cases hc : c.isBlank
      · simpa using ih (w ++ [c]) (by simp [hw, hc])
      · exact visible w c t hw hc (ih [] rfl)
  exact hread [] rfl

/-! ## At the front -/

@[simp] theorem trimStart_nil : trimStart [] = [] := rfl

theorem trimStart_cons_visible {c : CodePoint} (hc : ¬ c.isBlank) (t : Text) :
    trimStart (c :: t) = c :: t :=
  List.dropWhile_cons_of_neg hc

/-- Blanks at the front do not count. -/
theorem trimStart_append_of_isBlank {w : Text} (hw : w.isBlank) (t : Text) :
    trimStart (w ++ t) = trimStart t :=
  List.dropWhile_append_of_pos fun _ => isBlank_of_mem hw

theorem trimStart_of_isBlank {w : Text} (hw : w.isBlank) : trimStart w = [] :=
  List.dropWhile_eq_nil_iff.mpr fun _ => isBlank_of_mem hw

/-- A text is blanks and its trimmed form. -/
theorem exists_trimStart (t : Text) : ∃ w : Text, w.isBlank ∧ t = w ++ trimStart t :=
  ⟨t.takeWhile CodePoint.isBlank, List.all_takeWhile, List.takeWhile_append_dropWhile.symm⟩

/-- A trimmed text does not begin with a blank. -/
theorem not_isBlank_of_trimStart {c : CodePoint} {s t : Text} (h : trimStart t = c :: s) :
    ¬ c.isBlank := by
  have := List.head?_dropWhile_not CodePoint.isBlank t
  unfold trimStart at h
  rw [h] at this
  simpa using this

/-- Blanks further back do not change what a text begins with. -/
theorem trimStart_append {t : Text} (ht : trimStart t ≠ []) (s : Text) :
    trimStart (t ++ s) = trimStart t ++ s := by
  unfold trimStart at ht ⊢
  rw [List.dropWhile_append, if_neg (by simpa using ht)]

/-! ## At the end -/

theorem trimEnd_append_of_isBlank (t : Text) {w : Text} (hw : w.isBlank) :
    trimEnd (t ++ w) = trimEnd t := by
  unfold trimEnd
  rw [List.reverse_append]
  exact congrArg List.reverse (trimStart_append_of_isBlank (by rwa [isBlank_reverse]) t.reverse)

theorem exists_trimEnd (t : Text) : ∃ w : Text, w.isBlank ∧ t = trimEnd t ++ w := by
  obtain ⟨w, hw, h⟩ := exists_trimStart t.reverse
  refine ⟨w.reverse, by rwa [isBlank_reverse], ?_⟩
  have := congrArg List.reverse h
  rwa [List.reverse_reverse, List.reverse_append] at this

/-- Trimming the end a second time takes nothing off. -/
@[simp] theorem trimEnd_trimEnd (t : Text) : trimEnd (trimEnd t) = trimEnd t := by
  obtain ⟨w, hw, h⟩ := exists_trimEnd t
  conv_rhs => rw [h, trimEnd_append_of_isBlank _ hw]

/-- Blanks further forward do not change what a text ends in. -/
theorem trimEnd_append (s : Text) {t : Text} (ht : trimEnd t ≠ []) :
    trimEnd (s ++ t) = s ++ trimEnd t := by
  have hstart : trimStart t.reverse ≠ [] := fun h => ht (congrArg List.reverse h)
  unfold trimEnd
  rw [List.reverse_append]
  change (trimStart (t.reverse ++ s.reverse)).reverse = s ++ (trimStart t.reverse).reverse
  rw [trimStart_append hstart, List.reverse_append, List.reverse_reverse]

theorem length_trimEnd_le (t : Text) : (trimEnd t).length ≤ t.length := by
  obtain ⟨w, -, h⟩ := exists_trimEnd t
  have hlength := congrArg List.length h
  rw [List.length_append] at hlength
  omega

/-! ## On both sides -/

/-- Blanks on either side do not count. -/
theorem trim_append_blanks {w w' : Text} (hw : w.isBlank) (t : Text) (hw' : w'.isBlank) :
    trim (w ++ t ++ w') = trim t := by
  unfold trim
  rw [List.append_assoc, trimStart_append_of_isBlank hw]
  by_cases ht : trimStart t = []
  · obtain ⟨u, hu, h⟩ := exists_trimStart t
    rw [ht, List.append_nil] at h
    rw [ht, trimStart_of_isBlank (by rw [isBlank_append, h, hu, hw', Bool.and_true])]
  · rw [trimStart_append ht, trimEnd_append_of_isBlank _ hw']

/-- A text is its trimmed form with blanks on either side. -/
theorem exists_trim (t : Text) :
    ∃ w w' : Text, w.isBlank ∧ w'.isBlank ∧ t = w ++ trim t ++ w' := by
  obtain ⟨w, hw, h⟩ := exists_trimStart t
  obtain ⟨w', hw', h'⟩ := exists_trimEnd (trimStart t)
  refine ⟨w, w', hw, hw', ?_⟩
  rw [List.append_assoc, trim, ← h', ← h]

/-- Blanks that were taken off the end do not count. -/
@[simp] theorem trim_trimEnd (t : Text) : trim (trimEnd t) = trim t := by
  obtain ⟨w, hw, h⟩ := exists_trimEnd t
  conv_rhs => rw [h, ← List.nil_append (trimEnd t), trim_append_blanks isBlank_nil _ hw]

theorem mem_of_mem_trim {c : CodePoint} {t : Text} (h : c ∈ t.trim) : c ∈ t := by
  obtain ⟨w, w', -, -, ht⟩ := exists_trim t
  rw [ht]
  simp [h]

/-- Trimming takes off blanks only. -/
theorem mem_trim_of_visible {c : CodePoint} {t : Text} (hc : ¬ c.isBlank) (h : c ∈ t) :
    c ∈ t.trim := by
  obtain ⟨w, w', hw, hw', ht⟩ := exists_trim t
  rw [ht, List.mem_append, List.mem_append] at h
  rcases h with (h | h) | h
  · exact absurd (isBlank_of_mem hw h) hc
  · exact h
  · exact absurd (isBlank_of_mem hw' h) hc

/-- A longer text has no shorter trimmed form. -/
theorem length_trim_le_append (s t : Text) : (trim s).length ≤ (trim (s ++ t)).length := by
  by_cases hs : trimStart s = []
  · rw [trim, hs]
    exact Nat.zero_le _
  · rw [trim, trim, trimStart_append hs]
    by_cases ht : trimEnd t = []
    · obtain ⟨w, hw, h⟩ := exists_trimEnd t
      rw [ht, List.nil_append] at h
      rw [trimEnd_append_of_isBlank _ (h ▸ hw)]
    · rw [trimEnd_append _ ht, List.length_append]
      exact (length_trimEnd_le _).trans (Nat.le_add_right _ _)

/-! ## Trimmed texts -/

theorem trimStart_eq_self_iff {t : Text} :
    trimStart t = t ↔ ∀ c, t.head? = some c → ¬ c.isBlank := by
  cases t with
  | nil => simp
  | cons c t =>
    constructor
    · rintro h _ ⟨⟩
      exact not_isBlank_of_trimStart h
    · intro h
      exact trimStart_cons_visible (h c rfl) t

theorem trimEnd_eq_self_iff {t : Text} :
    trimEnd t = t ↔ ∀ c, t.getLast? = some c → ¬ c.isBlank := by
  rw [← List.head?_reverse, ← trimStart_eq_self_iff, trimEnd, List.reverse_eq_iff]
  rfl

/-- Of a text with no blank at its end only the front is trimmed. -/
theorem trim_of_trimEnd {t : Text} (ht : trimEnd t = t) : trim t = trimStart t := by
  obtain ⟨w, -, h⟩ := exists_trimStart t
  refine trimEnd_eq_self_iff.mpr fun c hc => trimEnd_eq_self_iff.mp ht c ?_
  rw [h, List.getLast?_append, hc]
  rfl

/-- A text is its own trimmed form just if it begins and ends in no blank. -/
theorem trim_eq_self_iff {t : Text} :
    trim t = t ↔ (∀ c, t.head? = some c → ¬ c.isBlank) ∧
      ∀ c, t.getLast? = some c → ¬ c.isBlank := by
  rw [← trimStart_eq_self_iff, ← trimEnd_eq_self_iff]
  constructor
  · intro h
    -- Nothing grows in trimming, so at neither end anything was taken off.
    have hstart : trimStart t = t := by
      refine (List.dropWhile_suffix CodePoint.isBlank).eq_of_length_le ?_
      obtain ⟨w, -, hw⟩ := exists_trimEnd (trimStart t)
      have hlength := congrArg List.length hw
      rw [List.length_append, ← trim, h] at hlength
      change t.length ≤ (trimStart t).length
      omega
    rw [trim, hstart] at h
    exact ⟨hstart, h⟩
  · rintro ⟨hstart, hend⟩
    rw [trim, hstart, hend]

/-- Around a trimmed text only what stands on the far sides of it is trimmed. -/
theorem trim_append_append {t : Text} (ht : trim t = t) (hne : t ≠ []) (s u : Text) :
    trim (s ++ t ++ u) = trimStart s ++ t ++ trimEnd u := by
  rw [trim_eq_self_iff, ← trimStart_eq_self_iff, ← trimEnd_eq_self_iff] at ht
  have hstart : trimStart (s ++ t ++ u) = trimStart s ++ t ++ u := by
    rw [List.append_assoc, List.append_assoc]
    by_cases hs : trimStart s = []
    · obtain ⟨w, hw, h⟩ := exists_trimStart s
      rw [hs, List.append_nil] at h
      rw [hs, h, trimStart_append_of_isBlank hw, trimStart_append (by rwa [ht.1]), ht.1,
        List.nil_append]
    · rw [trimStart_append hs]
  rw [trim, hstart]
  by_cases hu : trimEnd u = []
  · obtain ⟨w, hw, h⟩ := exists_trimEnd u
    rw [hu, List.nil_append] at h
    rw [hu, h, trimEnd_append_of_isBlank _ hw, trimEnd_append _ (by rwa [ht.2]), ht.2,
      List.append_nil]
  · rw [trimEnd_append _ hu]

/-- Trimming a second time takes nothing off. -/
@[simp] theorem trim_trim (t : Text) : trim (trim t) = trim t := by
  obtain ⟨w, w', hw, hw', h⟩ := exists_trim t
  conv_rhs => rw [h, trim_append_blanks hw _ hw']

end StructuredText.Text
