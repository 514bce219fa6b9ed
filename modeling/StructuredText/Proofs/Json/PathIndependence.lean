/-
# Writing anew twice

Writing a text anew under some options and the outcome under others comes to the same as writing
the text anew under the latter at once, unless the former sort keys and the latter do not.  In
particular writing anew under the same options a second time changes nothing.

* `parseWithin_renderWith`: a value without halves of a pair side by side is read back from its
  text, escaped or not;
* `arrange_arrange`: keys sorted before do not matter to sorting;
* `reformatWithin_reformatWithin` puts both together.
-/
import Mathlib
import StructuredText.Json.Reformat
import StructuredText.Proofs.Json.ReadValues
import StructuredText.Proofs.Json.RoundTrip
import StructuredText.Proofs.Json.Sorting
import StructuredText.Proofs.Text.Trimming

namespace StructuredText.Json

open CodePoint (ofChar)

/-! ## Reading what was written -/

/-- A well-formed value without halves of a surrogate pair side by side is read back, under any
options. -/
theorem parseWithin_renderWith (o : FormatOptions) {v : Value} (hv : v.WellFormed) {levels : ℕ}
    (hlevels : v.levels ≤ levels) (hpair : ∀ s ∈ v.strings, ¬ HoldsPair s) :
    parseWithin levels (renderWith o v) = .ok v :=
  (parseWithin_renderWith_iff o hv hlevels).mpr fun _ => hpair

/-- A text that is read is not blank. -/
theorem isBlank_of_parseWithin {levels : ℕ} {text : Text} {v : Value}
    (h : parseWithin levels text = .ok v) : text.isBlank = false := by
  obtain ⟨tree, htext, -⟩ := parseWithin_sound h
  cases htext with
  | @mk w t w' _ hw ht hw' =>
    -- No value begins with a blank.
    obtain ⟨c, r, rfl, hc⟩ := ht.exists_cons
    have hvisible : c.isBlank = false := by
      rcases hc with hdigit | hmem
      · simp only [CodePoint.isDigit, CodePoint.between, Bool.and_eq_true,
          decide_eq_true_eq] at hdigit
        simp only [CodePoint.isBlank, CodePoint.between, Bool.or_eq_false_iff,
          Bool.and_eq_false_iff, decide_eq_false_iff_not, beq_eq_false_iff_ne]
        omega
      · exact (show ∀ d ∈ ("-\"[\x7bntf" : Text), d.isBlank = false by decide) c hmem
    simp [hvisible]

/-! ## Sorting what was sorted -/

section Arrange

variable {limits : NestingLimits} {o o₁ o₂ : FormatOptions} {v shaped : Value}

/-- What arranging keeps of a value. -/
theorem arrange_keeps (h : arrange limits o v = .ok shaped) (hv : v.WellFormed) :
    shaped.WellFormed ∧ shaped.levels = v.levels ∧
      ∀ s, s ∈ shaped.strings ↔ s ∈ v.strings := by
  unfold arrange at h
  split at h
  · split at h
    · exact absurd h (by simp)
    · rw [← Except.ok.inj h]
      exact ⟨hv.sortKeys, v.levels_sortKeys, fun s => Value.mem_strings_sortKeys⟩
  · rw [← Except.ok.inj h]
    exact ⟨hv, rfl, fun s => Iff.rfl⟩

/-- A value that was arranged before is arranged like the value itself, unless its order is lost
in between. -/
theorem arrange_arrange (h : arrange limits o₁ v = .ok shaped)
    (hsorting : o₁.sorting = false ∨ o₂.sorting = true) :
    arrange limits o₂ shaped = arrange limits o₂ v := by
  unfold arrange at h
  split at h
  · next hfirst =>
    split at h
    · exact absurd h (by simp)
    · obtain rfl := Except.ok.inj h
      have hsecond : o₂.sorting = true := by
        rcases hsorting with hfalse | htrue
        · rw [hfirst] at hfalse
          exact absurd hfalse (by simp)
        · exact htrue
      rw [arrange, arrange, if_pos hsecond, if_pos hsecond, Value.levels_sortKeys,
        Value.sortKeys_sortKeys]
  · rw [Except.ok.inj h]

/-- Without a limit of its own, sorting never fails. -/
theorem exists_arrange (h : v.levels ≤ limits.sorting) (o : FormatOptions) :
    ∃ shaped, arrange limits o v = .ok shaped := by
  unfold arrange
  split
  · rw [if_neg (not_lt.mpr h)]
    exact ⟨_, rfl⟩
  · exact ⟨v, rfl⟩

end Arrange

/-! ## Writing anew -/

section Reformat

variable {limits : NestingLimits} {o : FormatOptions} {text : Text}

/-- A blank text comes out empty. -/
theorem reformatWithin_of_isBlank (h : text.isBlank) :
    reformatWithin limits o text = .ok ⟨[], none⟩ := by
  rw [reformatWithin, if_pos h]
  rfl

/-- A text that is read is written as its value, arranged as asked for. -/
theorem reformatWithin_of_parseWithin {v : Value} (h : parseWithin limits.reading text = .ok v) :
    reformatWithin limits o text =
      (arrange limits o v).mapError .unreadable >>= fun shaped =>
        .ok ⟨renderWith o shaped, some shaped⟩ := by
  have hblank := isBlank_of_parseWithin h
  obtain ⟨hv, -, -⟩ := wellFormed_of_parseWithin h
  have hsteps : reformatWithin limits o text =
      (arrange limits o v).mapError .unreadable >>= fun shaped =>
        (serialize o shaped).mapError (.unwritable o.layout) >>= fun written =>
          .ok ⟨written, some shaped⟩ := by
    rw [reformatWithin, hblank, h]
    rfl
  rw [hsteps]
  cases harrange : arrange limits o v with
  | error fault => rfl
  | ok shaped =>
    obtain ⟨hshaped, -, -⟩ := arrange_keeps harrange hv
    have hwritten : serialize o shaped = .ok (renderWith o shaped) := by
      rw [serialize, unwritable?_of_wellFormed hshaped]
    show (serialize o shaped).mapError (Refusal.unwritable o.layout) >>= _ = _
    rw [hwritten]
    rfl

/-- What is written anew was blank or was read. -/
theorem exists_of_reformatWithin {first : Reformatted}
    (h : reformatWithin limits o text = .ok first) :
    (text.isBlank ∧ first = ⟨[], none⟩) ∨
      ∃ v shaped, parseWithin limits.reading text = .ok v ∧ arrange limits o v = .ok shaped ∧
        first = ⟨renderWith o shaped, some shaped⟩ := by
  by_cases hblank : text.isBlank
  · rw [reformatWithin_of_isBlank hblank] at h
    exact Or.inl ⟨hblank, (Except.ok.inj h).symm⟩
  · cases hread : parseWithin limits.reading text with
    | error fault =>
      rw [reformatWithin, if_neg hblank, hread] at h
      exact absurd h (by simp [Except.mapError, bind, Except.bind])
    | ok v =>
      rw [reformatWithin_of_parseWithin hread] at h
      cases harrange : arrange limits o v with
      | error fault =>
        rw [harrange] at h
        exact absurd h (by simp [Except.mapError, bind, Except.bind])
      | ok shaped =>
        rw [harrange] at h
        exact Or.inr ⟨v, shaped, rfl, harrange, (Except.ok.inj h).symm⟩

end Reformat

/-- **Writing anew does not depend on the way.**  A text without surrogates that can be written anew
under some options comes out under others as if it had not been written before, unless only the
former sort keys.  If whatever is read may be sorted, the second writing succeeds. -/
theorem reformatWithin_reformatWithin {limits : NestingLimits} {o₁ o₂ : FormatOptions} {text : Text}
    {first : Reformatted} (hscalar : Scalar text) (h : reformatWithin limits o₁ text = .ok first)
    (hsorting : o₁.sorting = false ∨ o₂.sorting = true) :
    reformatWithin limits o₂ first.text = reformatWithin limits o₂ text ∧
      (limits.reading ≤ limits.sorting →
        ∃ second, reformatWithin limits o₂ first.text = .ok second ∧
          reformatWithin limits o₂ text = .ok second) := by
  rcases exists_of_reformatWithin h with ⟨hblank, rfl⟩ | ⟨v, shaped, hread, harrange, rfl⟩
  · have hsecond : reformatWithin limits o₂ text = .ok ⟨[], none⟩ := reformatWithin_of_isBlank hblank
    have hempty : reformatWithin limits o₂ [] = .ok ⟨[], none⟩ :=
      reformatWithin_of_isBlank Text.isBlank_nil
    exact ⟨hempty.trans hsecond.symm, fun _ => ⟨_, hempty, hsecond⟩⟩
  · obtain ⟨hv, hlevels, hpair⟩ := wellFormed_of_parseWithin hread
    obtain ⟨hshaped, hlevels', hstrings⟩ := arrange_keeps harrange hv
    have hback : parseWithin limits.reading (renderWith o₁ shaped) = .ok shaped :=
      parseWithin_renderWith o₁ hshaped (hlevels'.trans_le hlevels)
        fun s hs => hpair hscalar s ((hstrings s).mp hs)
    have heq : reformatWithin limits o₂ (renderWith o₁ shaped) =
        reformatWithin limits o₂ text := by
      rw [reformatWithin_of_parseWithin hback, reformatWithin_of_parseWithin hread,
        arrange_arrange harrange hsorting]
    refine ⟨heq, fun hlimits => ?_⟩
    obtain ⟨shaped', harrange'⟩ := exists_arrange (hlevels.trans hlimits) o₂
    have hsecond := reformatWithin_of_parseWithin (o := o₂) hread
    rw [harrange'] at hsecond
    exact ⟨_, heq.trans hsecond, hsecond⟩

/-- An object written sorted and escaped, then written sorted and minified. -/
theorem reformatWithin_reformatWithin_escaped :
    Scalar " \x7b\"b\":[],\"a\":\"é\"\x7d" ∧
      ∃ first : Reformatted, first.text = "\x7b\n  \"a\": \"\\u00e9\",\n  \"b\": []\n\x7d" ∧
        reformatWithin ⟨3, 3⟩ { style := .sorted, escapeNonAscii := true }
          " \x7b\"b\":[],\"a\":\"é\"\x7d" = .ok first ∧
        ∃ second, reformatWithin ⟨3, 3⟩ { style := .minified, sortKeys := true } first.text =
          .ok second := by
  have hscalar : Scalar " \x7b\"b\":[],\"a\":\"é\"\x7d" := by
    unfold Scalar
    decide
  have hfirst : reformatWithin ⟨3, 3⟩ { style := .sorted, escapeNonAscii := true }
      " \x7b\"b\":[],\"a\":\"é\"\x7d" = .ok ⟨"\x7b\n  \"a\": \"\\u00e9\",\n  \"b\": []\n\x7d",
        some (.object [("a", .string "é"), ("b", .array [])])⟩ := by cbv
  have hsorting : FormatOptions.sorting { style := .minified, sortKeys := true } = true := rfl
  obtain ⟨-, hsecond⟩ := reformatWithin_reformatWithin hscalar hfirst (Or.inr hsorting)
  obtain ⟨second, hsecond, -⟩ := hsecond (le_refl 3)
  exact ⟨hscalar, _, rfl, hfirst, second, hsecond⟩

end StructuredText.Json
