/-
# One judgement for every entry point

A text is written anew, minified or checked by the same reading.  Whatever is read can be written
under any options, so all of them accept the same texts, and tell the same fault of any other.

* `serialize_eq_error_iff` says which values cannot be written;
* `expressible_of_parseWithin`: no such value is ever read;
* `entryPoints_agree` says what follows for texts.
-/
import Mathlib
import StructuredText.Json.Reformat
import StructuredText.Proofs.Json.Parts
import StructuredText.Proofs.Json.PathIndependence

namespace StructuredText.Json

/-! ## Values -/

/-- **Writing fails just if a part of the value cannot be written**, whatever the options. -/
theorem serialize_eq_error_iff (o : FormatOptions) (v : Value) :
    (∃ cause, serialize o v = .error cause) ↔ ∃ part ∈ v.parts, part.Inexpressible := by
  have hnone : v.unwritable? = none ↔ ¬ ∃ part ∈ v.parts, part.Inexpressible := by
    rw [unwritable?_eq_none_iff]
    push Not
    rfl
  rw [serialize]
  cases hcause : v.unwritable? with
  | none =>
    refine iff_of_false ?_ (hnone.mp hcause)
    rintro ⟨cause, h⟩
    exact absurd h (by simp)
  | some cause =>
    refine iff_of_true ⟨cause, rfl⟩ (not_not.mp fun h => ?_)
    rw [hnone.mpr h] at hcause
    exact absurd hcause (by simp)

/-- Whatever is read can be written. -/
theorem expressible_of_parseWithin {levels : ℕ} {text : Text} {v : Value}
    (h : parseWithin levels text = .ok v) : ∀ part ∈ v.parts, ¬ part.Inexpressible := by
  obtain ⟨hv, -, -⟩ := wellFormed_of_parseWithin h
  exact unwritable?_eq_none_iff.mp (unwritable?_of_wellFormed hv)

/-! ## Outcomes -/

/-- The text that comes of writing anew; a refusal leaves none. -/
def writtenText : Except Refusal Reformatted → Text
  | .ok written => written.text
  | .error _ => []

/-- A refusal that leaves no text and tells a given diagnostic about a text. -/
def Refuses (text : Text) (d : Diagnostic) (r : Except Refusal Reformatted) : Prop :=
  (∃ refusal, r = .error refusal ∧ refusal.diagnostic text = d) ∧ writtenText r = []

section Outcomes

variable {limits : NestingLimits} {text : Text} {o : FormatOptions}

/-- A text that is read and not too deep is written anew. -/
theorem exists_reformatWithin {v : Value} (h : parseWithin limits.reading text = .ok v)
    (hlevels : v.levels ≤ limits.sorting) (o : FormatOptions) :
    ∃ written, reformatWithin limits o text = .ok written := by
  obtain ⟨shaped, harrange⟩ := exists_arrange hlevels o
  refine ⟨⟨renderWith o shaped, some shaped⟩, ?_⟩
  rw [reformatWithin_of_parseWithin h, harrange]
  rfl

/-- The fault of a text is told under any options. -/
theorem refuses_reformatWithin (hvisible : text.isBlank = false) {fault : Fault}
    (h : parseWithin limits.reading text = .error fault) (o : FormatOptions) :
    Refuses text (fault.diagnostic text) (reformatWithin limits o text) := by
  have hrefused : reformatWithin limits o text = .error (.unreadable fault) := by
    rw [reformatWithin, hvisible, h]
    rfl
  rw [hrefused]
  exact ⟨⟨_, rfl, rfl⟩, rfl⟩

end Outcomes

/-- A text that tells a diagnostic: it ends in the message, and in line, column and message if a
line is known. -/
def Tells (told : Text) (d : Diagnostic) : Prop :=
  d.message <:+ told ∧ ∀ line, d.line = some line → ∃ column, d.column = some column ∧
    Text.concat ["行 ", Text.ofInt line, ", 列 ", Text.ofInt column, ": ", d.message] <:+ told

/-- The report of a fault tells its diagnostic. -/
theorem tells_report (text : Text) (fault : Fault) :
    Tells (fault.report text) (fault.diagnostic text) := by
  cases hplace : fault.position? text with
  | none =>
    have hreport : fault.report text = ("JSON 语法错误:\n" : Text) ++ fault.message := by
      simp [Fault.report, hplace, Text.concat]
    refine ⟨⟨_, hreport.symm⟩, fun line hline => ?_⟩
    simp [Fault.diagnostic, hplace] at hline
  | some p =>
    have hreport : fault.report text = ("JSON 语法错误:\n" : Text) ++
        Text.concat ["行 ", Text.ofNat p.line, ", 列 ", Text.ofNat p.column, ": ",
          fault.message] := by
      simp [Fault.report, hplace, Text.concat]
      rfl
    have hphrase : fault.message <:+ Text.concat ["行 ", Text.ofNat p.line, ", 列 ",
        Text.ofNat p.column, ": ", fault.message] := by
      refine ⟨Text.concat ["行 ", Text.ofNat p.line, ", 列 ", Text.ofNat p.column, ": "], ?_⟩
      simp [Text.concat]
    refine ⟨hphrase.trans ⟨_, hreport.symm⟩, fun line hline => ⟨p.column, ?_, ?_⟩⟩
    · simp [Fault.diagnostic, hplace]
    · simp only [Fault.diagnostic, hplace, Option.map_some, Option.some.injEq] at hline
      subst hline
      exact ⟨_, hreport.symm⟩

/-! ## All entry points -/

section EntryPoints

variable {limits : NestingLimits} {text : Text}

/-- A text that is not blank and can be written anew was read. -/
theorem exists_parseWithin_of_reformatWithin {o : FormatOptions} {written : Reformatted}
    (hvisible : text.isBlank = false) (h : reformatWithin limits o text = .ok written) :
    ∃ v, parseWithin limits.reading text = .ok v := by
  rcases exists_of_reformatWithin h with ⟨hblank, -⟩ | ⟨v, -, hread, -⟩
  · exact absurd hblank (by simp [hvisible])
  · exact ⟨v, hread⟩

/-- The check of a text is its reading. -/
theorem validateWithin_fst_iff (limits : NestingLimits) (text : Text) :
    (validateWithin limits text).1 = true ↔ ∃ v, parseWithin limits.reading text = .ok v := by
  unfold validateWithin
  cases parseWithin limits.reading text <;> simp

/-- The check of a text tells the fault of its reading. -/
theorem tells_validateWithin {fault : Fault} (h : parseWithin limits.reading text = .error fault) :
    Tells (validateWithin limits text).2 (fault.diagnostic text) := by
  rw [validateWithin, h]
  exact tells_report text fault

end EntryPoints

/-- **All entry points agree, and nothing fails after a text was read.**  Writing fails just on
values with a part that cannot be written, and no such value is read.  So a text that is not blank
is written anew, minified and found valid just if it is read, provided that what is read may be
sorted; and any other text meets the same diagnostic everywhere and leaves no text behind. -/
theorem entryPoints_agree :
    (∀ (v : Value) (o : FormatOptions),
      (∃ cause, serialize o v = .error cause) ↔ ∃ part ∈ v.parts, part.Inexpressible) ∧
    (∀ (levels : ℕ) (text : Text) (v : Value), parseWithin levels text = .ok v →
      ∀ part ∈ v.parts, ¬ part.Inexpressible) ∧
    ∀ (limits : NestingLimits) (text : Text), text.isBlank = false →
      (∀ v, parseWithin limits.reading text = .ok v → v.levels ≤ limits.sorting) →
      (∀ o, (∃ written, reformatWithin limits o text = .ok written) ↔
        ∃ v, parseWithin limits.reading text = .ok v) ∧
      ((∃ written, minifyWithin limits text = .ok written) ↔
        ∃ v, parseWithin limits.reading text = .ok v) ∧
      ((validateWithin limits text).1 = true ↔ ∃ v, parseWithin limits.reading text = .ok v) ∧
      ∀ fault, parseWithin limits.reading text = .error fault →
        (∀ o, Refuses text (fault.diagnostic text) (reformatWithin limits o text)) ∧
        Refuses text (fault.diagnostic text) (minifyWithin limits text) ∧
        Tells (validateWithin limits text).2 (fault.diagnostic text) := by
  refine ⟨fun v o => serialize_eq_error_iff o v, fun _ _ _ => expressible_of_parseWithin, ?_⟩
  intro limits text hvisible hlevels
  have hwritten (o : FormatOptions) : (∃ written, reformatWithin limits o text = .ok written) ↔
      ∃ v, parseWithin limits.reading text = .ok v := by
    constructor
    · rintro ⟨written, h⟩
      exact exists_parseWithin_of_reformatWithin hvisible h
    · rintro ⟨v, h⟩
      exact exists_reformatWithin h (hlevels v h) o
  refine ⟨hwritten, hwritten _, validateWithin_fst_iff limits text, fun fault h => ?_⟩
  exact ⟨refuses_reformatWithin hvisible h, refuses_reformatWithin hvisible h _,
    tells_validateWithin h⟩

/-- A float that is not a number inside an array, a string that is read, and a bracket that is
never closed. -/
theorem entryPoints_agree_bracket :
    (∃ cause, serialize {} (.array [.float .notANumber]) = .error cause) ∧
      (∀ part ∈ (Value.string "a").parts, ¬ part.Inexpressible) ∧
      (∃ written, reformatWithin ⟨3, 3⟩ { style := .sorted } "\"a\"" = .ok written) ∧
      ∃ fault, parseWithin 3 "[" = .error fault ∧
        Refuses "[" (fault.diagnostic "[") (minifyWithin ⟨3, 3⟩ "[") ∧
        Tells (validateWithin ⟨3, 3⟩ "[").2 (fault.diagnostic "[") := by
  obtain ⟨hserialize, hread, htexts⟩ := entryPoints_agree
  have hstring : parseWithin 3 "\"a\"" = .ok (.string "a") := by cbv
  have hbracket : parseWithin 3 "[" = .error (.located .valueExpected []) := by cbv
  refine ⟨(hserialize _ _).mpr ⟨.float .notANumber, ?_, ?_⟩, hread 3 _ _ hstring, ?_, ?_⟩
  · exact mem_parts_array.mpr (Or.inr ⟨_, List.mem_singleton_self _, List.mem_singleton_self _⟩)
  · simp [Value.Inexpressible, Double.isFinite]
  · obtain ⟨hwritten, -⟩ := htexts ⟨3, 3⟩ "\"a\"" (by decide) fun v hv => by
      rw [← Except.ok.inj (hstring.symm.trans hv)]
      decide
    exact (hwritten _).mpr ⟨_, hstring⟩
  · obtain ⟨-, -, -, hrefused⟩ := htexts ⟨3, 3⟩ "[" (by decide) fun v hv => by
      exact absurd (hbracket.symm.trans hv) (by simp)
    obtain ⟨-, hminified, htold⟩ := hrefused _ hbracket
    exact ⟨_, hbracket, hminified, htold⟩

end StructuredText.Json
