/-
# What a panel shows together

A panel for JSON shows a text, its length and sometimes a view of the document of that text.  The
three are changed by different actions, and not every action that changes the text minds the other
two.

* `PanelSession` is a panel at work, with the document whose view was turned to last;
* `PanelSession.Coherent` says that the text is one of that document, and that its length is right;
* `PanelSession.Disturbs` are the actions after which it is not;
* `coherent_after_iff`: nothing else disturbs it, whatever is done before.
-/
import Mathlib
import StructuredText.Desktop.Panel
import StructuredText.Proofs.Desktop.Editing
import StructuredText.Proofs.Desktop.Outlines
import StructuredText.Proofs.Json.Characters
import StructuredText.Proofs.Json.PathIndependence
import StructuredText.Proofs.Json.Tables

namespace StructuredText.Desktop

open CodePoint (ofChar)
open Json (Scalar)

/-! ## Views -/

/-- The page that a tool has turned to; only tools for JSON have others than the text. -/
def Tool.page : Tool → Page
  | json t => t.page
  | _ => .text

/-- The items of a document, however they were opened and closed. -/
inductive Outline.Shows (v : Json.Value) : Outline → Prop
  | grow {o : Outline} (h : Outline.grow (.ofValue v) = .ok (o, none)) : Shows v o
  | expand {o : Outline} (path : List ℕ) (h : Shows v o) : Shows v (o.expandAt path).1
  | collapse {o : Outline} (path : List ℕ) (h : Shows v o) : Shows v (o.collapseAt path)

/-- Whether the page of a tool is a view of a document. -/
def JsonTool.Shows (t : JsonTool) (v : Json.Value) : Prop :=
  match t.page with
  | .text => False
  | .table => ∃ (before : Grid) (table : Json.Table), Json.Table.ofValue v = .ok table ∧
      t.grid = before.fill table
  | .tree => ∃ o, t.outline = some o ∧ o.Shows v

/-- The document to whose view an action turns a panel, if it does. -/
def Panel.turnsTo (a : Action) (p : Panel) : Option Json.Value :=
  match a, p.tool with
  | .press .format _, .json t =>
    if t.style = .table ∨ t.style = .tree then
      (Json.reformat t.options p.input).toOption.bind Json.Reformatted.document
    else none
  | _, _ => none

/-! ## Sessions -/

/-- A panel at work, with the document whose view was turned to last. -/
structure PanelSession where
  panel : Panel
  desk : Desk := {}
  document : Option Json.Value := none

/-- The session after one more action. -/
def PanelSession.next (s : PanelSession) (a : Action) : PanelSession :=
  let r := s.panel.respond a s.desk
  { panel := r.panel, desk := r.desk, document := (s.panel.turnsTo a).or s.document }

/-- The session of a fresh panel for JSON after some actions. -/
def PanelSession.after (desk : Desk) (actions : List Action) : PanelSession :=
  actions.foldl PanelSession.next { panel := { tool := .json {} }, desk }

/-- What is kept in an editor is a text of a document, up to the order of names. -/
def HoldsDocument (kept : Text) (v : Json.Value) : Prop :=
  ∃ text w, keptText text = kept ∧ Json.parse text = .ok w ∧ w.sortKeys = v.sortKeys

/-- A view that is shown is one of the document of the output, and a length that is told is that of
the output. -/
structure PanelSession.Coherent (s : PanelSession) : Prop where
  holds : s.panel.tool.page ≠ .text → ∃ v, s.document = some v ∧ HoldsDocument s.panel.output v
  counts : s.panel.outputSizeLabel ≠ [] →
    s.panel.outputSizeLabel = Text.concat [Text.ofNat s.panel.output.length, " 字符"]

/-- Whether an action leaves behind what does not belong together: the view of another document
than that of the output, or the length of another text.  Formatting leaves the view where there is
nothing to format; and where surrogates that stand side by side are escaped, another document is
read. -/
def PanelSession.Disturbs (s : PanelSession) : Action → Prop
  | .press .format name =>
    s.panel.tool.page ≠ .text ∧ s.panel.input.isBlank ∨
      ∃ t v, s.panel.tool = .json t ∧ t.escapeNonAscii ∧
        s.panel.turnsTo (.press .format name) = some v ∧ ∃ str ∈ v.strings, Json.HoldsPair str
  | .press .clear _ => s.panel.tool.page ≠ .text
  | .press .loadSample _ =>
    s.panel.tool.page ≠ .text ∨ ∃ n, s.panel.outputSize = some n ∧ n ≠ 0
  | .press .swap _ =>
    Scalar s.panel.output ∧
      ((s.panel.tool.page ≠ .text ∧
          ∀ v, s.document = some v → ¬ HoldsDocument (keptText s.panel.input) v) ∨
        ∃ n, s.panel.outputSize = some n ∧ n ≠ (keptText s.panel.input).length)
  | _ => False

/-! ## Texts of documents -/

/-- Nothing is no text of a document. -/
theorem not_holdsDocument_nil (v : Json.Value) : ¬ HoldsDocument [] v := by
  rintro ⟨text, w, hkept, hread, -⟩
  rw [keptText_eq_nil_iff.mp hkept] at hread
  exact absurd (Json.isBlank_of_parseWithin hread) (by decide)

/-- **What is written for a document is a text of it**, unless surrogates that stand side by side
are escaped. -/
theorem holdsDocument_renderWith_iff (o : Json.FormatOptions) {v : Json.Value} (hv : v.WellFormed)
    (hlevels : v.levels ≤ Json.maxReadLevels) :
    HoldsDocument (keptText (Json.renderWith o v)) v ↔
      ¬ (o.escapeNonAscii ∧ ∃ str ∈ v.strings, Json.HoldsPair str) := by
  constructor
  · rintro ⟨text, w, hkept, hread, hsort⟩ ⟨hescape, str, hstr, hpair⟩
    -- A text without surrogates is read as a document without such pairs.
    have hwritten : Scalar (Json.renderWith o v) :=
      (Json.scalar_renderWith_iff o v).mpr (Or.inl hescape)
    have htext : Scalar text := by
      rw [← scalar_keptText_iff, hkept, scalar_keptText_iff]
      exact hwritten
    obtain ⟨-, -, hnone⟩ := Json.wellFormed_of_parseWithin hread
    refine hnone htext str ?_ hpair
    rw [← Json.Value.mem_strings_sortKeys, hsort, Json.Value.mem_strings_sortKeys]
    exact hstr
  · intro hpair
    refine ⟨Json.renderWith o v, v, rfl, ?_, rfl⟩
    refine (Json.parseWithin_renderWith_iff o hv hlevels).mpr fun hescape str hstr hholds => ?_
    exact hpair ⟨hescape, str, hstr, hholds⟩

/-! ## What an action changes -/

/-- A panel with the same tool as another, and with some output and length. -/
structure Panel.Leaves (p : Panel) (output : Text) (size : Option ℕ) (q : Panel) : Prop where
  tool : q.tool = p.tool
  output : q.output = output
  outputSize : q.outputSize = size

section Actions

variable (p : Panel) (desk : Desk)

/-- A text is put into the input in any case; a surrogate in it breaks the action off after that. -/
theorem exists_enter (t : Text) :
    ∃ size interruption, p.enter t desk =
      { panel := { p with input := keptText t, inputSize := size }, desk, interruption } ∧
      (interruption.isSome ↔ ¬ Scalar t) := by
  rw [← scalar_keptText_iff, ← Json.isOk_encode_iff_scalar]
  simp only [Panel.enter, Panel.putInput]
  cases Utf8.encode (keptText t) with
  | ok bytes => exact ⟨_, none, rfl, by simp [Except.isOk, Except.toBool]⟩
  | error e => exact ⟨_, some (.unencodable e), rfl, by simp [Except.isOk, Except.toBool]⟩

/-- A text without surrogates is put in to the end. -/
theorem exists_enter_of_scalar {t : Text} (h : Scalar t) :
    ∃ size, p.enter t desk =
      { panel := { p with input := keptText t, inputSize := size }, desk, interruption := none } := by
  obtain ⟨size, interruption, henter, hsome⟩ := exists_enter p desk t
  cases interruption with
  | none => exact ⟨size, henter⟩
  | some i => exact absurd h (hsome.mp rfl)

theorem leaves_enter (t : Text) :
    p.Leaves p.output p.outputSize (p.enter t desk).panel := by
  obtain ⟨size, interruption, henter, -⟩ := exists_enter p desk t
  rw [henter]
  exact ⟨rfl, rfl, rfl⟩

theorem leaves_importFile (name : Text) :
    p.Leaves p.output p.outputSize (p.importFile name desk).panel := by
  unfold Panel.importFile
  extract_lets asked
  split
  · exact ⟨rfl, rfl, rfl⟩
  · split
    · exact ⟨rfl, rfl, rfl⟩
    · exact ⟨rfl, rfl, rfl⟩
    · next bytes _ _ =>
      obtain ⟨size, interruption, henter, -⟩ := exists_enter p desk (Panel.textOf bytes)
      rw [henter, Response.andThen]
      split <;> exact ⟨rfl, rfl, rfl⟩

theorem leaves_exportFile (name : Text) :
    p.Leaves p.output p.outputSize (p.exportFile name desk).panel := by
  unfold Panel.exportFile
  extract_lets asked
  split_ifs
  · exact ⟨rfl, rfl, rfl⟩
  · exact ⟨rfl, rfl, rfl⟩
  · split <;> exact ⟨rfl, rfl, rfl⟩

theorem leaves_copy : p.Leaves p.output p.outputSize (p.copy desk).panel := by
  unfold Panel.copy
  split <;> exact ⟨rfl, rfl, rfl⟩

/-- Clearing empties the output and its length. -/
theorem leaves_clear : p.Leaves [] none (p.clear desk).panel := by
  obtain ⟨size, henter⟩ := exists_enter_of_scalar p desk Json.scalar_nil
  rw [Panel.clear, henter]
  exact ⟨rfl, rfl, rfl⟩

theorem scalar_sample : Scalar Samples.json := by
  rw [Samples.json, Samples.ofLines, Text.unlines, Json.scalar_join (by decide),
    List.forall_mem_map]
  exact fun line _ => scalar_ofString line

/-- Loading the sample empties the output, and leaves its length. -/
theorem leaves_loadSample {t : JsonTool} (htool : p.tool = .json t) :
    p.Leaves [] p.outputSize (p.loadSample desk).panel := by
  obtain ⟨size, henter⟩ := exists_enter_of_scalar p desk scalar_sample
  have hsample : p.tool.sample? = some Samples.json := by rw [htool]; rfl
  rw [Panel.loadSample, hsample]
  simp only [henter]
  exact ⟨rfl, rfl, rfl⟩

/-- Exchanging puts the input into the output, unless a surrogate breaks it off, and leaves the
length. -/
theorem leaves_swap :
    p.Leaves (if Scalar p.output then keptText p.input else p.output) p.outputSize
      (p.swap desk).panel := by
  obtain ⟨size, interruption, henter, hnone⟩ := exists_enter p desk p.output
  by_cases hscalar : Scalar p.output
  · rw [if_pos hscalar, Panel.swap, henter, Response.andThen, if_neg fun h => hnone.mp h hscalar]
    exact ⟨rfl, rfl, rfl⟩
  · rw [if_neg hscalar, Panel.swap, henter, Response.andThen, if_pos (hnone.mpr hscalar)]
    exact ⟨rfl, rfl, rfl⟩

end Actions

/-! ## What formatting changes -/

/-- What comes of formatting: nothing if there is nothing to format, a refusal, or the text of a
document, with a view of it if the style has one. -/
inductive Panel.Formats (p : Panel) (t : JsonTool) (q : Panel) : Option Json.Value → Prop
  | blank (hblank : p.input.isBlank) (h : p.Leaves [] none q) : Formats p t q none
  | refused (hblank : ¬ p.input.isBlank) (htool : q.tool = .json { t with page := .text })
      (hsize : q.outputSize = none) : Formats p t q none
  | asText {v : Json.Value} (hblank : ¬ p.input.isBlank)
      (htool : q.tool = .json { t with page := .text })
      (houtput : q.output = keptText (Json.renderWith t.options v))
      (hsize : q.outputSize = some (Json.renderWith t.options v).length) : Formats p t q none
  | asView {v : Json.Value} {t' : JsonTool} (hblank : ¬ p.input.isBlank) (hv : v.WellFormed)
      (hlevels : v.levels ≤ Json.maxReadLevels) (htool : q.tool = .json t')
      (hpage : t'.page ≠ .text) (hshows : t'.Shows v)
      (houtput : q.output = keptText (Json.renderWith t.options v))
      (hsize : q.outputSize = some (Json.renderWith t.options v).length) : Formats p t q (some v)

theorem run_of_reformat {p : Panel} {t t' : JsonTool} {r : Json.Reformatted}
    (htool : p.tool = .json t) (hblank : ¬ p.input.isBlank)
    (h : Json.reformat t.options p.input = .ok r)
    (hshow : ({ t with page := .text } : JsonTool).showDocument r.document = (t', none)) :
    p.run.1 = { p with
      tool := .json t', output := keptText r.text, outputSize := some r.text.length,
      status := .formatted } := by
  have hturned : p.tool.turnToText = .json { t with page := .text } := by
    rw [htool]
    rfl
  rw [Panel.run, if_neg hblank]
  simp only [htool, Tool.process, h, Tool.turnToText, Tool.showDocument, Tool.tryOnJson, hshow]
  rfl

/-- Two of the styles have a view, which is turned to. -/
theorem JsonTool.exists_showDocument {t : JsonTool} (h : t.style = .table ∨ t.style = .tree)
    {v : Json.Value} (hv : v.WellFormed) :
    ∃ t', t.showDocument (some v) = (t', none) ∧ t'.page ≠ .text ∧ t'.Shows v := by
  unfold JsonTool.showDocument
  rcases h with htable | htree
  · have htableOf := Json.Table.ofValue_of_wellFormed hv
    simp only [htable, htableOf]
    exact ⟨_, rfl, Page.noConfusion, t.grid, _, htableOf, rfl⟩
  · have hlists : ¬ (Json.Node.ofValue v).ListsOverlong :=
      Json.Node.not_listsOverlong_of_parts fun _ => Json.not_overlong_of_wellFormed hv
    have hgrow := (Outline.grow_eq (.ofValue v)).1 hlists
    simp only [htree, hgrow]
    exact ⟨_, rfl, Page.noConfusion, _, rfl, .grow hgrow⟩

theorem JsonTool.showDocument_of_not {t : JsonTool} (h : ¬ (t.style = .table ∨ t.style = .tree))
    (document : Option Json.Value) : t.showDocument document = (t, none) := by
  unfold JsonTool.showDocument
  split
  · next htable => exact absurd (Or.inl htable) h
  · next htree => exact absurd (Or.inr htree) h
  · rfl

/-- **Formatting does one of these.** -/
theorem formats_run {p : Panel} {t : JsonTool} (htool : p.tool = .json t) (name : Text) :
    p.Formats t p.run.1 (p.turnsTo (.press .format name)) := by
  have hturns : p.turnsTo (.press .format name) =
      if t.style = .table ∨ t.style = .tree then
        (Json.reformat t.options p.input).toOption.bind Json.Reformatted.document
      else none := by
    unfold Panel.turnsTo
    rw [htool]
  rw [hturns]
  by_cases hblank : p.input.isBlank
  · have hnone : Json.reformat t.options p.input = .ok ⟨[], none⟩ :=
      Json.reformatWithin_of_isBlank hblank
    rw [hnone, Panel.run, if_pos hblank]
    simp only [Except.toOption, Option.bind_some, ite_self]
    exact .blank hblank ⟨rfl, rfl, rfl⟩
  · cases hformat : Json.reformat t.options p.input with
    | error refusal =>
      rw [Panel.run, if_neg hblank, htool]
      simp only [Tool.process, hformat, Except.toOption, Option.bind_none, ite_self]
      exact .refused hblank rfl rfl
    | ok r =>
      obtain ⟨v, shaped, hread, harrange, rfl⟩ :=
        (Json.exists_of_reformatWithin hformat).resolve_left fun h => hblank h.1
      obtain ⟨hv, hlevels, -⟩ := Json.wellFormed_of_parseWithin hread
      obtain ⟨hshaped, hsame, -⟩ := Json.arrange_keeps harrange hv
      simp only [Except.toOption, Option.bind_some]
      by_cases hstyle : t.style = .table ∨ t.style = .tree
      · obtain ⟨t', hshow, hpage, hshows⟩ :=
          JsonTool.exists_showDocument (t := { t with page := .text }) hstyle hshaped
        rw [if_pos hstyle, run_of_reformat htool hblank hformat hshow]
        exact .asView hblank hshaped (hsame.trans_le hlevels) rfl hpage hshows rfl rfl
      · have hshow := JsonTool.showDocument_of_not (t := { t with page := .text }) hstyle shaped
        rw [if_neg hstyle, run_of_reformat htool hblank hformat hshow]
        exact .asText hblank rfl rfl rfl

/-! ## What options change -/

/-- A view shows the same document if what is done to an item of a tree does. -/
theorem JsonTool.Shows.onOutline {t : JsonTool} {v : Json.Value} {change : Outline → Outline}
    (hchange : ∀ o, Outline.Shows v o → Outline.Shows v (change o)) (h : t.Shows v) :
    JsonTool.Shows { t with outline := t.outline.map change } v := by
  unfold JsonTool.Shows at h ⊢
  cases hpage : t.page with
  | text =>
    rw [hpage] at h
    exact h
  | table =>
    rw [hpage] at h
    exact h
  | tree =>
    rw [hpage] at h
    obtain ⟨o, houtline, hshows⟩ := h
    exact ⟨change o, by simp [houtline], hchange o hshows⟩

theorem JsonTool.expandItem_fst (path : List ℕ) (t : JsonTool) :
    (t.expandItem path).1 =
      { t with outline := t.outline.map fun o => (o.expandAt path).1 } := by
  obtain ⟨_, _, _, _, _, _, outline⟩ := t
  cases outline <;> rfl

/-- Options leave the view, and items that are opened or closed show the same document. -/
theorem exists_tool_respond {p : Panel} {t : JsonTool} (htool : p.tool = .json t) (desk : Desk)
    {a : Action} (ha : ∀ name, a ≠ .press .format name) :
    ∃ t', (p.respond a desk).panel.tool = .json t' ∧ t'.page = t.page ∧
      ∀ v, t.Shows v → t'.Shows v := by
  have hsame {q : Panel} {output : Text} {size : Option ℕ} (h : p.Leaves output size q) :
      ∃ t', q.tool = .json t' ∧ t'.page = t.page ∧ ∀ v, t.Shows v → t'.Shows v :=
    ⟨t, h.tool.trans htool, rfl, fun _ => id⟩
  cases a with
  | enter text => exact hsame (leaves_enter p desk text)
  | press b name =>
    cases b with
    | format => exact absurd rfl (ha name)
    | swap => exact hsame (leaves_swap p desk)
    | clear => exact hsame (leaves_clear p desk)
    | copy => exact hsame (leaves_copy p desk)
    | exportFile => exact hsame (leaves_exportFile p desk name)
    | importFile => exact hsame (leaves_importFile p desk name)
    | loadSample => exact hsame (leaves_loadSample p desk htool)
  | expand path =>
    simp only [Panel.respond, Tool.tryOnJson, htool]
    refine ⟨_, rfl, ?_, ?_⟩ <;> rw [JsonTool.expandItem_fst]
    exact fun v => JsonTool.Shows.onOutline fun o => .expand path
  | collapse path =>
    simp only [Panel.respond, Panel.onTool, htool]
    exact ⟨_, rfl, rfl, fun v => JsonTool.Shows.onOutline fun o => .collapse path⟩
  | chooseStyle | chooseWidth | checkSortKeys | checkEscape =>
    simp only [Panel.respond, Panel.onTool, htool]
    exact ⟨_, rfl, rfl, fun _ => id⟩
  | chooseCase | checkCompact | setIndent =>
    simp only [Panel.respond, Panel.onTool, htool]
    exact ⟨t, rfl, rfl, fun _ => id⟩

/-- Any other action than four leaves the output and its length. -/
theorem output_respond (p : Panel) (desk : Desk) {a : Action} (ha : ∀ b name, a = .press b name →
      b = .copy ∨ b = .exportFile ∨ b = .importFile) :
    (p.respond a desk).panel.output = p.output ∧
      (p.respond a desk).panel.outputSize = p.outputSize := by
  have hsame {q : Panel} (h : p.Leaves p.output p.outputSize q) :
      q.output = p.output ∧ q.outputSize = p.outputSize := ⟨h.output, h.outputSize⟩
  cases a with
  | enter text => exact hsame (leaves_enter p desk text)
  | press b name =>
    rcases ha b name rfl with rfl | rfl | rfl
    · exact hsame (leaves_copy p desk)
    · exact hsame (leaves_exportFile p desk name)
    · exact hsame (leaves_importFile p desk name)
  | expand | collapse | chooseStyle | chooseWidth | checkSortKeys | checkEscape | chooseCase
  | checkCompact | setIndent => exact ⟨rfl, rfl⟩

/-! ## One action -/

theorem concat_count_inj {m n : ℕ} :
    Text.concat [Text.ofNat m, " 字符"] = Text.concat [Text.ofNat n, " 字符"] ↔ m = n := by
  show Text.concat [[], _, _] = Text.concat [[], _, _] ↔ m = n
  exact Text.concat_ofNat_inj

/-- The length that is told is right if it is that of the output. -/
theorem PanelSession.coherent_iff {s : PanelSession} :
    s.Coherent ↔
      (s.panel.tool.page ≠ .text → ∃ v, s.document = some v ∧ HoldsDocument s.panel.output v) ∧
        ∀ n, s.panel.outputSize = some n → n = s.panel.output.length := by
  have hcounts : (s.panel.outputSizeLabel ≠ [] → s.panel.outputSizeLabel =
      Text.concat [Text.ofNat s.panel.output.length, " 字符"]) ↔
        ∀ n, s.panel.outputSize = some n → n = s.panel.output.length := by
    unfold Panel.outputSizeLabel
    cases s.panel.outputSize with
    | none => simp
    | some n =>
      have hne : Text.concat [Text.ofNat n, " 字符"] ≠ [] := by
        simp [Text.concat, Text.ofNat_ne_nil]
      simp only [ne_eq, hne, not_false_eq_true, true_implies, concat_count_inj, Option.some.injEq,
        forall_eq']
  rw [← hcounts]
  exact ⟨fun h => ⟨h.holds, h.counts⟩, fun h => ⟨h.1, h.2⟩⟩

variable {s : PanelSession} {t : JsonTool}

theorem PanelSession.document_next {a : Action} (hturns : s.panel.turnsTo a = none) :
    (s.next a).document = s.document := by
  rw [PanelSession.next, hturns]
  rfl

/-- What is coherent after an action that leaves some output and length, and the view. -/
theorem PanelSession.coherent_next_of_leaves {a : Action} {output : Text} {size : Option ℕ}
    (h : s.panel.Leaves output size (s.panel.respond a s.desk).panel)
    (hturns : s.panel.turnsTo a = none) :
    (s.next a).Coherent ↔
      (s.panel.tool.page ≠ .text → ∃ v, s.document = some v ∧ HoldsDocument output v) ∧
        ∀ n, size = some n → n = output.length := by
  rw [PanelSession.coherent_iff, PanelSession.document_next hturns, PanelSession.next, h.tool,
    h.output, h.outputSize]

theorem PanelSession.panel_next_format (s : PanelSession) (name : Text) :
    (s.next (.press .format name)).panel = s.panel.run.1 := rfl

/-- What is coherent after formatting. -/
theorem PanelSession.coherent_next_format (htool : s.panel.tool = .json t) (name : Text) :
    (s.next (.press .format name)).Coherent ↔ ¬ s.Disturbs (.press .format name) := by
  have hdocument : (s.next (.press .format name)).document =
      (s.panel.turnsTo (.press .format name)).or s.document := rfl
  have hformats := formats_run htool name
  rw [PanelSession.coherent_iff, PanelSession.panel_next_format, hdocument, PanelSession.Disturbs]
  generalize s.panel.turnsTo (.press .format name) = turned at hformats
  generalize s.panel.run.1 = q at hformats
  cases hformats with
  | blank hblank h =>
    rw [h.tool, h.output, h.outputSize]
    simp [hblank, not_holdsDocument_nil]
  | refused hblank hq hsize =>
    rw [hq, hsize]
    simp [Tool.page, hblank]
  | @asText v hblank hq houtput hsize =>
    rw [hq, houtput, hsize, length_keptText (Json.return_not_mem_renderWith _ v)]
    simp [Tool.page, hblank]
  | @asView v t' hblank hv hlevels hq hpage hshows houtput hsize =>
    have hholds := holdsDocument_renderWith_iff t.options hv hlevels
    have hescape : t.options.escapeNonAscii = t.escapeNonAscii := rfl
    rw [hq, houtput, hsize, length_keptText (Json.return_not_mem_renderWith _ v)]
    rw [hescape] at hholds
    simp [Tool.page, hblank, hpage, hholds, htool]

/-- **One action.**  A session that is coherent stays so unless it is disturbed. -/
theorem PanelSession.coherent_next_iff (htool : s.panel.tool = .json t) (h : s.Coherent)
    (a : Action) :
    (s.next a).Coherent ↔ ¬ s.Disturbs a := by
  obtain ⟨hholds, hcounts⟩ := PanelSession.coherent_iff.mp h
  have hkeeps {b : Action} (hb : ∀ name, b ≠ .press .format name)
      (hother : ∀ b' name, b = .press b' name → b' = .copy ∨ b' = .exportFile ∨ b' = .importFile)
      (hturns : s.panel.turnsTo b = none) : (s.next b).Coherent := by
    obtain ⟨houtput, hsize⟩ := output_respond s.panel s.desk hother
    obtain ⟨t', htool', hpage, -⟩ := exists_tool_respond htool s.desk hb
    rw [PanelSession.coherent_iff, PanelSession.document_next hturns, PanelSession.next, houtput,
      hsize, htool', Tool.page, hpage]
    rw [htool, Tool.page] at hholds
    exact ⟨hholds, hcounts⟩
  cases a with
  | press b name =>
    cases b with
    | format => exact PanelSession.coherent_next_format htool name
    | swap =>
      rw [PanelSession.coherent_next_of_leaves (leaves_swap s.panel s.desk) rfl,
        PanelSession.Disturbs]
      by_cases hscalar : Scalar s.panel.output
      · rw [if_pos hscalar, not_and]
        constructor
        · rintro ⟨hview, hlength⟩ - (⟨hpage, hother⟩ | ⟨n, hsize, hne⟩)
          · obtain ⟨v, hdocument, hv⟩ := hview hpage
            exact hother v hdocument hv
          · exact hne (hlength n hsize)
        · intro hnone
          have hnone := not_or.mp (hnone hscalar)
          constructor
          · intro hpage
            by_contra hview
            refine hnone.1 ⟨hpage, fun v hdocument hv => hview ⟨v, hdocument, hv⟩⟩
          · intro n hsize
            by_contra hne
            exact hnone.2 ⟨n, hsize, hne⟩
      · -- Broken off, it leaves the output as it is.
        rw [if_neg hscalar]
        exact iff_of_true ⟨hholds, hcounts⟩ fun hdisturbs => hscalar hdisturbs.1
    | clear =>
      rw [PanelSession.coherent_next_of_leaves (leaves_clear s.panel s.desk) rfl,
        PanelSession.Disturbs]
      simp [not_holdsDocument_nil]
    | loadSample =>
      rw [PanelSession.coherent_next_of_leaves (leaves_loadSample s.panel s.desk htool) rfl,
        PanelSession.Disturbs]
      simp [not_holdsDocument_nil]
    | copy | exportFile | importFile =>
      exact iff_of_true (hkeeps (by simp) (by simp) rfl) not_false
  | enter | expand | collapse | chooseStyle | chooseWidth | checkSortKeys | checkEscape
  | chooseCase | checkCompact | setIndent =>
    exact iff_of_true (hkeeps (by simp) (by simp) rfl) not_false

/-! ## All actions -/

/-- A view that is shown is that of the document that was turned to last. -/
def PanelSession.Faithful (s : PanelSession) : Prop :=
  ∃ t, s.panel.tool = .json t ∧ (t.page ≠ .text → ∃ v, s.document = some v ∧ t.Shows v)

/-- The view stays that of the document. -/
theorem PanelSession.Faithful.next (h : s.Faithful) (a : Action) : (s.next a).Faithful := by
  obtain ⟨t, htool, hview⟩ := h
  by_cases hformat : ∃ name, a = .press .format name
  · obtain ⟨name, rfl⟩ := hformat
    have hdocument : (s.next (.press .format name)).document =
        (s.panel.turnsTo (.press .format name)).or s.document := rfl
    have hformats := formats_run htool name
    rw [PanelSession.Faithful, PanelSession.panel_next_format, hdocument]
    generalize s.panel.turnsTo (.press .format name) = turned at hformats
    generalize s.panel.run.1 = q at hformats
    cases hformats with
    | blank _ hq => exact ⟨t, hq.tool.trans htool, hview⟩
    | refused _ hq => exact ⟨_, hq, fun hpage => absurd rfl hpage⟩
    | asText _ hq => exact ⟨_, hq, fun hpage => absurd rfl hpage⟩
    | asView _ _ _ hq _ hshows => exact ⟨_, hq, fun _ => ⟨_, rfl, hshows⟩⟩
  · have hother : ∀ name, a ≠ .press .format name := fun name hname => hformat ⟨name, hname⟩
    obtain ⟨t', htool', hpage, hkeeps⟩ := exists_tool_respond htool s.desk hother
    have hturns : s.panel.turnsTo a = none := by
      unfold Panel.turnsTo
      split
      · next name _ _ => exact absurd rfl (hother name)
      · rfl
    refine ⟨t', htool', fun hpage' => ?_⟩
    obtain ⟨v, hv, hshows⟩ := hview (hpage ▸ hpage')
    exact ⟨v, (PanelSession.document_next hturns).trans hv, hkeeps v hshows⟩

theorem PanelSession.after_concat (desk : Desk) (actions : List Action) (a : Action) :
    PanelSession.after desk (actions ++ [a]) = (PanelSession.after desk actions).next a :=
  List.foldl_concat ..

theorem PanelSession.faithful_after (desk : Desk) (actions : List Action) :
    (PanelSession.after desk actions).Faithful := by
  induction actions using List.reverseRecOn with
  | nil => exact ⟨{}, rfl, fun hpage => absurd rfl hpage⟩
  | append_singleton actions a ih =>
    rw [PanelSession.after_concat]
    exact ih.next a

/-- A fresh panel shows nothing, and so nothing wrong. -/
theorem PanelSession.coherent_fresh (desk : Desk) : (PanelSession.after desk []).Coherent where
  holds hpage := absurd rfl hpage
  counts hlabel := absurd rfl hlabel

/-- **Whatever is done on a fresh panel**, a view that is shown is that of the document turned to
last; and at all times the output is a text of that document and its length is right, if and only if
no action disturbs this. -/
theorem PanelSession.coherent_after_iff (desk : Desk) (actions : List Action) :
    (∃ t, (PanelSession.after desk actions).panel.tool = .json t ∧
      (t.page ≠ .text → ∃ v, (PanelSession.after desk actions).document = some v ∧ t.Shows v)) ∧
    ((∀ before, before <+: actions → (PanelSession.after desk before).Coherent) ↔
      ∀ before a, before ++ [a] <+: actions → ¬ (PanelSession.after desk before).Disturbs a) := by
  have hstep {before : List Action} (h : (PanelSession.after desk before).Coherent) (a : Action) :
      (PanelSession.after desk (before ++ [a])).Coherent ↔
        ¬ (PanelSession.after desk before).Disturbs a := by
    obtain ⟨t, htool, -⟩ := PanelSession.faithful_after desk before
    rw [PanelSession.after_concat]
    exact PanelSession.coherent_next_iff htool h a
  refine ⟨PanelSession.faithful_after desk actions, ?_, ?_⟩
  · intro h before a hprefix
    exact (hstep (h before ((List.prefix_append before [a]).trans hprefix)) a).mp (h _ hprefix)
  · intro h before hprefix
    induction before using List.reverseRecOn with
    | nil => exact PanelSession.coherent_fresh desk
    | append_singleton before a ih =>
      have hbefore := ih ((List.prefix_append before [a]).trans hprefix)
      exact (hstep hbefore a).mpr (h before a hprefix)

/-- A document shown as a table, and then the sample loaded: the table stays, and the length. -/
theorem PanelSession.not_coherent_sample :
    ∃ s : PanelSession, s = PanelSession.after {} [.chooseStyle .table, .enter "\x7b\"a\":null\x7d",
        .press .format [], .press .loadSample []] ∧
      s.panel.tool.page = .table ∧ s.panel.output = [] ∧ s.panel.outputSizeLabel = "15 字符" ∧
      ¬ s.Coherent := by
  obtain ⟨typed, htyped⟩ : ∃ s : PanelSession,
      s = PanelSession.after {} [.chooseStyle .table, .enter "\x7b\"a\":null\x7d"] := ⟨_, rfl⟩
  have htool : typed.panel.tool = .json { style := .table } := by
    rw [htyped]
    cbv
  have hinput : typed.panel.input = "\x7b\"a\":null\x7d" := by
    rw [htyped]
    cbv
  have hblank : ¬ typed.panel.input.isBlank := by
    rw [hinput]
    decide
  have hformat : Json.reformat ({ style := .table } : JsonTool).options typed.panel.input =
      .ok ⟨"\x7b\n  \"a\": null\n\x7d", some (.object [("a", .null)])⟩ := by
    rw [hinput]
    cbv
  obtain ⟨t, hshow, hpage⟩ : ∃ t,
      ({ style := .table } : JsonTool).showDocument (some (.object [("a", .null)])) = (t, none) ∧
        t.page = .table := ⟨_, rfl, rfl⟩
  -- After formatting there are a table and fifteen characters.
  obtain ⟨shown, hshown⟩ : ∃ s : PanelSession, s = typed.next (.press .format []) := ⟨_, rfl⟩
  have hrun := run_of_reformat htool hblank hformat hshow
  rw [← PanelSession.panel_next_format typed [], ← hshown] at hrun
  have hjson : shown.panel.tool = .json t := by rw [hrun]
  have hsize : shown.panel.outputSize = some 15 := by
    rw [hrun]
    rfl
  have hloaded := leaves_loadSample shown.panel shown.desk hjson
  have hlabel : (shown.panel.loadSample shown.desk).panel.outputSizeLabel = "15 字符" := by
    rw [Panel.outputSizeLabel, hloaded.outputSize, hsize]
    cbv
  refine ⟨shown.next (.press .loadSample []), ?_, ?_, hloaded.output, hlabel, fun h => ?_⟩
  · rw [hshown, htyped, ← PanelSession.after_concat, ← PanelSession.after_concat]
    rfl
  · exact (congrArg Tool.page (hloaded.tool.trans hjson)).trans hpage
  · have hlength := (PanelSession.coherent_iff.mp h).2 15 (hloaded.outputSize.trans hsize)
    rw [show (shown.next (.press .loadSample [])).panel.output = [] from hloaded.output] at hlength
    exact absurd hlength (by decide)

end StructuredText.Desktop
