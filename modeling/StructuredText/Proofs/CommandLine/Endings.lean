/-
# How a run ends

A run that formats JSON ends with an exit code, with two exceptions: where a name is given that can
be the name of no file, and where the view of the document holds a lone surrogate, for which there
are no bytes.  The file to write has been emptied by then.

* `shown` are the strings of a document that a style writes as they are;
* `not_scalar_iff_showsSurrogate` tells when the text that a job makes has no bytes;
* `Invocation.BreaksOff` are the exceptions, and `run_json_ending` says that there are no others.
-/
import Mathlib
import StructuredText.CommandLine.Run
import StructuredText.Proofs.CommandLine.Outcomes
import StructuredText.Proofs.Json.PathIndependence
import StructuredText.Proofs.Json.Surrogates

namespace StructuredText.CommandLine

open Json (Scalar)

/-! ## What comes to be written -/

/-- The strings and names of a document that a style shows as they are. -/
def shown (o : Json.FormatOptions) (document : Json.Value) : List Text :=
  match o.style with
  | .table => document.stringsInTable
  | .tree => document.stringsWithin 2
  | _ => if o.escapeNonAscii then [] else document.strings

/-- A well-formed document has a view, with the surrogates of what that shows. -/
theorem exists_view {o : Json.FormatOptions} {document : Json.Value} (h : document.WellFormed) :
    ∃ text, view o.style ⟨Json.renderWith o document, some document⟩ = .ok text ∧
      (Scalar text ↔ ∀ s ∈ shown o document, Scalar s) := by
  have htext : Scalar (Json.renderWith o document) ↔
      ∀ s ∈ (if o.escapeNonAscii then [] else document.strings), Scalar s := by
    rw [Json.scalar_renderWith_iff]
    cases o.escapeNonAscii <;> simp
  unfold view shown
  cases o.style with
  | table =>
    simp only [Json.Table.ofValue_of_wellFormed h]
    exact ⟨_, rfl, Json.scalar_renderTable_iff h⟩
  | tree =>
    simp only [Json.Node.render_of_wellFormed (n := .ofValue document) h]
    exact ⟨_, rfl, Json.scalar_renderTree_iff document⟩
  | pretty | compact | sorted | minified => exact ⟨_, rfl, htext⟩

/-- A job that formats a document, with a surrogate in what its style shows. -/
def JsonJob.ShowsSurrogate (j : JsonJob) (text : Text) : Prop :=
  j.validate = false ∧ ∃ options written document, j.options = .ok options ∧
    Json.reformat options text = .ok ⟨written, some document⟩ ∧
    ∃ s ∈ shown options document, ¬ Scalar s

section Perform

variable {j : JsonJob} {text : Text}

/-- What a job makes of a text that it does not check only. -/
theorem perform_eq_ok_iff (hvalidate : j.validate = false) {p : Product} :
    j.perform text = .ok p ↔ ∃ options formatted shown, j.options = .ok options ∧
      Json.reformat options text = .ok formatted ∧ view options.style formatted = .ok shown ∧
      p = { text := shown } := by
  have hsteps : j.perform text = (j.options.mapError Json.OptionError.message) >>= fun options =>
      ((Json.reformat options text).mapError fun refusal =>
        ("JSON 错误: " : Text) ++ (refusal.diagnostic text).summary) >>= fun formatted =>
          ((view options.style formatted).mapError Json.DigitFault.message) >>= fun shown =>
            .ok { text := shown } := by
    rw [JsonJob.perform, hvalidate]
    rfl
  rw [hsteps, bind_eq_ok_iff]
  simp only [bind_eq_ok_iff, mapError_eq_ok_iff, Except.ok.injEq, eq_comm (a := p)]
  constructor
  · rintro ⟨options, hoptions, formatted, hformatted, shown, hshown, rfl⟩
    exact ⟨options, formatted, shown, hoptions, hformatted, hshown, rfl⟩
  · rintro ⟨options, formatted, shown, hoptions, hformatted, hshown, rfl⟩
    exact ⟨options, hoptions, formatted, hformatted, shown, hshown, rfl⟩

/-- Checking makes no text. -/
theorem text_of_validate (hvalidate : j.validate = true) {p : Product}
    (h : j.perform text = .ok p) : p.text = [] := by
  rw [JsonJob.perform, if_pos hvalidate] at h
  simp only at h
  split at h
  · rw [← Except.ok.inj h]
  · exact absurd h (by simp)

/-- **A text with a surrogate is made only of a document that shows one.** -/
theorem not_scalar_iff_showsSurrogate :
    (∃ p, j.perform text = .ok p ∧ ¬ Scalar p.text) ↔ j.ShowsSurrogate text := by
  have hview {options : Json.FormatOptions} {written : Text} {document : Json.Value}
      (h : Json.reformat options text = .ok ⟨written, some document⟩) :
      ∃ text, view options.style ⟨written, some document⟩ = .ok text ∧
        (Scalar text ↔ ∀ s ∈ shown options document, Scalar s) := by
    rcases Json.exists_of_reformatWithin h with ⟨-, hnone⟩ | ⟨v, shaped, hread, harrange, hfirst⟩
    · exact absurd (congrArg Json.Reformatted.document hnone) (by simp)
    · obtain ⟨hv, -, -⟩ := Json.wellFormed_of_parseWithin hread
      obtain ⟨rfl, hdocument⟩ := Json.Reformatted.mk.inj hfirst
      obtain rfl := Option.some.inj hdocument
      exact exists_view (Json.arrange_keeps harrange hv).1
  constructor
  · rintro ⟨p, hp, hscalar⟩
    have hvalidate : j.validate = false := by
      by_contra h
      rw [text_of_validate (by simpa using h) hp] at hscalar
      exact hscalar Json.scalar_nil
    obtain ⟨options, ⟨written, document⟩, text', hoptions, hformatted, htext, rfl⟩ :=
      (perform_eq_ok_iff hvalidate).mp hp
    cases document with
    | none =>
      -- A blank text comes out empty in every view.
      rcases Json.exists_of_reformatWithin hformatted with ⟨-, hnone⟩ | ⟨_, _, -, -, hfirst⟩
      · obtain ⟨rfl, -⟩ := Json.Reformatted.mk.inj hnone
        have hblank : view options.style ⟨[], none⟩ = .ok [] := by
          unfold view
          split <;> simp_all
        obtain rfl := Except.ok.inj (hblank.symm.trans htext)
        exact absurd Json.scalar_nil hscalar
      · exact absurd (congrArg Json.Reformatted.document hfirst) (by simp)
    | some document =>
      refine ⟨hvalidate, options, written, document, hoptions, hformatted, ?_⟩
      by_contra h
      apply hscalar
      obtain ⟨text'', htext', hiff⟩ := hview hformatted
      obtain rfl := Except.ok.inj (htext'.symm.trans htext)
      rw [hiff]
      simpa using h
  · rintro ⟨hvalidate, options, written, document, hoptions, hformatted, s, hs, hscalar⟩
    obtain ⟨text', htext, hiff⟩ := hview hformatted
    refine ⟨_, (perform_eq_ok_iff hvalidate).mpr
      ⟨options, _, text', hoptions, hformatted, htext, rfl⟩, ?_⟩
    intro h
    exact hscalar (hiff.mp h s hs)

end Perform

/-! ## Endings -/

/-- What breaks a run off: a name that is the name of no file, for the input or, where there is
something to write, for the output; and a surrogate to write, unless the file cannot be written at
all. -/
def Invocation.BreaksOff (i : Invocation) (j : JsonJob) (stdin : List UInt8) (files : FileSystem) :
    Abort → Prop
  | .unnameable f =>
    i.input ≠ "-" ∧ NameFault.of? i.input = some f ∨
      (∃ text p, i.readInput stdin files = .ok text ∧ j.perform text = .ok p) ∧
        i.output ≠ [] ∧ NameFault.of? i.output = some f
  | .unencodable =>
    (∃ text, i.readInput stdin files = .ok text ∧ j.ShowsSurrogate text) ∧
      (i.output = [] ∨ NameFault.of? i.output = none ∧
        ∃ emptied, files.write i.output [] = .ok emptied)
  | .indentMissing => False
  | .indentTooLarge _ => False

section Endings

variable {engine : Sql.Engine} {i : Invocation} {j : JsonJob} {stdin : List UInt8}
  {files : FileSystem} {cause : Abort}

/-- Reading breaks off only at the name of the input. -/
theorem readInput_eq_aborted_iff :
    i.readInput stdin files = .error (.aborted cause) ↔
      ∃ f, cause = .unnameable f ∧ i.input ≠ "-" ∧ NameFault.of? i.input = some f := by
  have hdecode {bytes : List UInt8} {refuse : Text → Text} :
      ((Utf8.decode bytes).mapError fun e => Failure.reported .usageError (refuse e.message)) >>=
        (fun text => pure text.unifyLineEnds) ≠ .error (.aborted cause) := by
    intro h
    rcases bind_eq_error_iff.mp h with h | ⟨text, -, h⟩
    · obtain ⟨e, -, he⟩ := mapError_eq_error_iff.mp h
      exact absurd he (by simp)
    · exact absurd h (by simp [pure, Except.pure])
  unfold Invocation.readInput
  extract_lets refuse
  by_cases hinput : i.input = "-"
  · simp only [hinput, if_true]
    refine iff_of_false hdecode ?_
    rintro ⟨f, -, hne, -⟩
    exact hne rfl
  · simp only [hinput, if_false, checkName]
    cases hname : NameFault.of? i.input with
    | some f =>
      constructor
      · intro h
        exact ⟨f, (Failure.aborted.inj (Except.error.inj h)).symm, hinput, rfl⟩
      · rintro ⟨f', rfl, -, hf⟩
        obtain rfl := Option.some.inj hf
        rfl
    | none =>
      refine iff_of_false ?_ (by simp)
      intro h
      rcases bind_eq_error_iff.mp h with h | ⟨_, -, h⟩
      · exact absurd h (by simp)
      · rcases bind_eq_error_iff.mp h with h | ⟨bytes, -, h⟩
        · obtain ⟨e, -, he⟩ := mapError_eq_error_iff.mp h
          exact absurd he (by simp [refuse])
        · exact hdecode h

/-- Where a job for JSON has nothing to write, only the name of the input breaks the run off. -/
theorem produce_eq_aborted_iff (hjob : i.job = .json j) :
    i.produce engine stdin files = .error (.aborted cause) ↔
      ∃ f, cause = .unnameable f ∧ i.input ≠ "-" ∧ NameFault.of? i.input = some f := by
  rw [Invocation.produce, bind_eq_error_iff, readInput_eq_aborted_iff]
  apply or_iff_left
  rintro ⟨text, -, h⟩
  rw [hjob] at h
  obtain ⟨message, -, hmessage⟩ := mapError_eq_error_iff.mp h
  exact absurd hmessage (by simp)

theorem produce_eq_ok_iff (hjob : i.job = .json j) {p : Product} :
    i.produce engine stdin files = .ok p ↔
      ∃ text, i.readInput stdin files = .ok text ∧ j.perform text = .ok p := by
  rw [Invocation.produce, bind_eq_ok_iff]
  simp only [hjob, Job.perform, mapError_eq_ok_iff]

/-- There is a text with a surrogate to write where one is shown. -/
theorem exists_produce_not_scalar_iff (hjob : i.job = .json j) :
    (∃ p, i.produce engine stdin files = .ok p ∧ ¬ Scalar p.text) ↔
      ∃ text, i.readInput stdin files = .ok text ∧ j.ShowsSurrogate text := by
  simp only [produce_eq_ok_iff hjob, ← not_scalar_iff_showsSurrogate]
  constructor
  · rintro ⟨p, ⟨text, htext, hp⟩, hscalar⟩
    exact ⟨text, htext, p, hp, hscalar⟩
  · rintro ⟨text, htext, p, hp, hscalar⟩
    exact ⟨p, ⟨text, htext, hp⟩, hscalar⟩

theorem scalar_ended (text : Text) : Scalar (ended text) ↔ Scalar text := by
  have hfeed : Scalar [CodePoint.ofChar '\n'] := by decide
  unfold ended
  split
  · exact Iff.rfl
  · rw [Json.scalar_append]
    exact and_iff_left hfeed

/-- A text with a surrogate has no bytes. -/
theorem exists_encode_eq_error_iff {text : Text} :
    (∃ e, Utf8.encode text = .error e) ↔ ¬ Scalar text := by
  rw [← Json.isOk_encode_iff_scalar]
  cases Utf8.encode text <;> simp [Except.isOk, Except.toBool]

end Endings

/-- Where writing breaks off, what has become of the files. -/
def Outcome.LeavesFiles (name : Text) (files : FileSystem) (cause : Abort) (o : Outcome) : Prop :=
  if cause = .unencodable ∧ name ≠ [] then files.write name [] = .ok o.files else o.files = files

section Run

variable {engine : Sql.Engine} {i : Invocation} {j : JsonJob} {stdin : List UInt8}
  {files : FileSystem} {cause : Abort} {p : Product}

/-- A run that has something to write breaks off at the name of the output or at a surrogate. -/
theorem run_eq_aborted_iff (h : i.produce engine stdin files = .ok p) :
    (i.run engine stdin files).ending = .aborted cause ↔
      (∃ f, cause = .unnameable f ∧ i.output ≠ [] ∧ NameFault.of? i.output = some f) ∨
        cause = .unencodable ∧ ¬ Scalar p.text ∧ (i.output = [] ∨ NameFault.of? i.output = none ∧
          ∃ emptied, files.write i.output [] = .ok emptied) := by
  rw [Invocation.run, h]
  by_cases houtput : i.output = []
  · simp only [houtput, List.isEmpty_nil, if_true, deliver]
    rw [← exists_encode_eq_error_iff]
    cases Utf8.encode p.text <;> simp [eq_comm]
  · simp only [houtput, List.isEmpty_iff, if_false]
    cases hname : NameFault.of? i.output with
    | some f =>
      constructor
      · intro h
        exact Or.inl ⟨f, (Ending.aborted.inj h).symm, houtput, rfl⟩
      · rintro (⟨f', rfl, -, hf⟩ | ⟨-, -, hnil | ⟨hnone, -⟩⟩)
        · obtain rfl := Option.some.inj hf
          rfl
        · exact hnil.elim
        · exact absurd hnone (by simp)
    | none =>
      rw [← scalar_ended, ← exists_encode_eq_error_iff, deliverTo]
      cases files.write i.output [] with
      | error e => simp
      | ok emptied => cases Utf8.encode (ended p.text) <;> simp [eq_comm]

/-- Only a surrogate that goes to a file leaves something behind, and that is the file emptied. -/
theorem leavesFiles_run (hjob : i.job = .json j)
    (h : (i.run engine stdin files).ending = .aborted cause) :
    (i.run engine stdin files).LeavesFiles i.output files cause := by
  unfold Outcome.LeavesFiles
  cases hproduce : i.produce engine stdin files with
  | error failure =>
    rw [Invocation.run, hproduce] at h ⊢
    cases failure with
    | reported code message => exact absurd h (by simp [Failure.outcome])
    | aborted cause' =>
      obtain ⟨f, hf, -⟩ := (produce_eq_aborted_iff hjob).mp hproduce
      obtain rfl : cause' = cause := Ending.aborted.inj h
      rw [if_neg (by simp [hf])]
      rfl
  | ok p =>
    rw [Invocation.run, hproduce] at h ⊢
    by_cases houtput : i.output = []
    · rw [if_neg fun hcause => hcause.2 houtput]
      simp only [houtput, List.isEmpty_nil, if_true, deliver]
      split <;> rfl
    · simp only [houtput, List.isEmpty_iff, if_false] at h ⊢
      cases hname : NameFault.of? i.output with
      | some f =>
        rw [hname] at h
        obtain rfl : .unnameable f = cause := Ending.aborted.inj h
        rw [if_neg (by simp)]
      | none =>
        rw [hname] at h
        simp only [deliverTo] at h ⊢
        split at h
        · exact absurd h (by simp)
        · next emptied e hemptied hbytes =>
          obtain rfl : .unencodable = cause := Ending.aborted.inj h
          rw [if_pos ⟨rfl, houtput⟩, hemptied]
        · exact absurd h (by simp)

/-- **What breaks a run off.** -/
theorem ending_eq_aborted_iff (hjob : i.job = .json j) :
    (i.run engine stdin files).ending = .aborted cause ↔ i.BreaksOff j stdin files cause := by
  have hsurrogate : (∃ p, i.produce engine stdin files = .ok p ∧ ¬ Scalar p.text) ↔
      ∃ text, i.readInput stdin files = .ok text ∧ j.ShowsSurrogate text :=
    exists_produce_not_scalar_iff hjob
  have hsomething : (∃ p, i.produce engine stdin files = .ok p) ↔
      ∃ text p, i.readInput stdin files = .ok text ∧ j.perform text = .ok p := by
    simp only [produce_eq_ok_iff hjob]
    exact exists_comm
  cases hend : i.produce engine stdin files with
  | error failure =>
    -- Nothing to write, so only the name of the input can be at fault.
    have hinput : (i.run engine stdin files).ending = .aborted cause ↔
        ∃ f, cause = .unnameable f ∧ i.input ≠ "-" ∧ NameFault.of? i.input = some f := by
      rw [← produce_eq_aborted_iff hjob, Invocation.run, hend]
      cases failure <;> simp [Failure.outcome]
    rw [hinput]
    cases cause with
    | unnameable f =>
      have hnone : ¬ ∃ text p, i.readInput stdin files = .ok text ∧ j.perform text = .ok p := by
        rw [← hsomething, hend]
        simp
      simp only [Invocation.BreaksOff, hnone, false_and, or_false]
      simp
    | unencodable =>
      have hnone : ¬ ∃ text, i.readInput stdin files = .ok text ∧ j.ShowsSurrogate text := by
        rw [← hsurrogate, hend]
        simp
      simp only [Invocation.BreaksOff, hnone, false_and]
      simp
    | indentMissing | indentTooLarge => simp [Invocation.BreaksOff]
  | ok p =>
    rw [run_eq_aborted_iff hend]
    cases cause with
    | unnameable f =>
      have hsome : ∃ text p, i.readInput stdin files = .ok text ∧ j.perform text = .ok p :=
        hsomething.mp ⟨p, hend⟩
      have hinput : ¬ (i.input ≠ "-" ∧ NameFault.of? i.input = some f) := by
        intro h
        have hfault : i.produce engine stdin files = .error (.aborted (.unnameable f)) :=
          (produce_eq_aborted_iff hjob).mpr ⟨f, rfl, h⟩
        exact absurd (hend.symm.trans hfault) (by simp)
      simp only [Invocation.BreaksOff, hsome, hinput, false_or, true_and]
      simp
    | unencodable =>
      rw [hend] at hsurrogate
      simp [Invocation.BreaksOff, ← hsurrogate]
    | indentMissing | indentTooLarge => simp [Invocation.BreaksOff]

end Run

/-- **Where a run ends without an exit code.**  A command line that asks for JSON to be formatted
or checked ends with the number 0, 1 or 2, whatever is read, unless it breaks off; then all files
are as before, but for the file to be written if a surrogate was to go there, which is left
empty. -/
theorem run_json_ending (engine : Sql.Engine) {words : List Text} {i : Invocation} {j : JsonJob}
    (hwords : Invocation.ofWords words = .ok i) (hjob : i.job = .json j) (stdin : List UInt8)
    (files : FileSystem) :
    (∀ cause, i.BreaksOff j stdin files cause → (run engine words stdin files).ending = .aborted cause ∧
      (run engine words stdin files).LeavesFiles i.output files cause) ∧
    ((∀ cause, ¬ i.BreaksOff j stdin files cause) → ∃ code,
      (run engine words stdin files).ending = .exit code ∧ code.number ∈ [0, 1, 2]) := by
  -- Making messages tellable changes neither the ending nor what was written.
  have hrun : run engine words stdin files =
      { i.run engine stdin files with messages := tellable (i.run engine stdin files).messages } := by
    rw [run, Outcome.ofWords, hwords]
  rw [hrun]
  refine ⟨fun cause hcause => ?_, fun hnone => ?_⟩
  · have hending : (i.run engine stdin files).ending = .aborted cause :=
      (ending_eq_aborted_iff hjob).mpr hcause
    exact ⟨hending, leavesFiles_run hjob hending⟩
  · show ∃ code, (i.run engine stdin files).ending = .exit code ∧ _
    cases hending : (i.run engine stdin files).ending with
    | exit code => exact ⟨code, rfl, by cases code <;> decide⟩
    | aborted cause => exact absurd ((ending_eq_aborted_iff hjob).mp hending) (hnone cause)

/-- The bytes of a string that is a lone surrogate, written by its number. -/
def loneSurrogate : List UInt8 := [0x22, 0x5C, 0x75, 0x64, 0x38, 0x30, 0x30, 0x22]

/-- Escaped, the surrogate is written by its number again. -/
theorem run_json_ending_escaped :
    ∃ code, (run Sql.standardEngine ["json", "--escape-unicode"] loneSurrogate []).ending = .exit code ∧
      code.number ∈ [0, 1, 2] := by
  have hwords : Invocation.ofWords ["json", "--escape-unicode"] =
      .ok { job := .json { escapeNonAscii := true } } := by cbv
  obtain ⟨-, hexit⟩ := run_json_ending Sql.standardEngine hwords rfl loneSurrogate []
  refine hexit fun cause hcause => ?_
  cases cause with
  | unnameable f =>
    rcases hcause with ⟨hinput, -⟩ | ⟨-, houtput, -⟩
    · exact hinput rfl
    · exact houtput rfl
  | unencodable =>
    obtain ⟨⟨text, -, -, options, written, document, hoptions, -, s, hs, -⟩, -⟩ := hcause
    obtain rfl : { escapeNonAscii := true } = options := Except.ok.inj hoptions
    exact absurd hs (by simp [shown])
  | indentMissing | indentTooLarge => exact hcause

/-- Not escaped, it breaks the run off, and the file that was there is empty. -/
theorem run_json_surrogate :
    (run Sql.standardEngine ["json", "-o", "x"] loneSurrogate [("x", .file [0x5B, 0x5D])]).ending =
        .aborted .unencodable ∧
      (run Sql.standardEngine ["json", "-o", "x"] loneSurrogate [("x", .file [0x5B, 0x5D])]).files =
        [(("x" : Text), .file [])] := by
  constructor
  · cbv
  · cbv

end StructuredText.CommandLine
