/-
# What a grid shows

A grid is cleared, brought to the size of the next table and written cell by cell.  Whatever it held
before, it then shows the fields from which the table is written as a text, and nothing else.

* `Grid.resize_clear`: a cleared grid of the right size is blank;
* `Grid.setRows_blank`: writing row by row fills a blank grid;
* `Grid.fill_eq`: the grid of a table does not depend on what the grid showed before;
* `Grid.shown_concat`: after any number of tables the last one is shown.
-/
import Mathlib
import StructuredText.Desktop.Grid
import StructuredText.Proofs.Json.Tables

namespace StructuredText.Desktop

open Json (Table)

namespace Grid

/-! ## Blank grids -/

/-- A grid without headings and cells. -/
def blank (height width : ℕ) : Grid where
  headings := List.replicate width none
  rows := List.replicate height (List.replicate width none)

/-- Cutting or extending a list of one kind gives such a list. -/
theorem fitted_replicate {α : Type} (n m : ℕ) (filler : α) :
    fitted n filler (List.replicate m filler) = List.replicate n filler := by
  rw [fitted, List.length_replicate, List.replicate_append_replicate, List.take_replicate]
  congr 1
  omega

/-- **Nothing is left in a cleared grid**, whatever its size becomes. -/
theorem resize_clear (height width : ℕ) (g : Grid) :
    g.clear.resize height width = blank height width := by
  have hrow : ∀ row : List (Option Cell),
      fitted width none (row.map fun _ => none) = List.replicate width (none : Option Cell) := by
    intro row
    rw [List.map_const', fitted_replicate]
  have hrows : (g.rows.map fun row => row.map fun _ => (none : Option Cell)).map
      (fitted width none) = List.replicate g.rows.length (List.replicate width none) := by
    rw [List.map_map, ← List.map_const']
    exact List.map_congr_left fun row _ => hrow row
  rw [resize, clear, blank, hrows, fitted_replicate, List.map_const', fitted_replicate]

theorem setHeadings_blank {texts : List Text} {height width : ℕ} (h : texts.length = width) :
    (blank height width).setHeadings texts =
      ⟨texts.map some, List.replicate height (List.replicate width none)⟩ := by
  subst h
  simp [setHeadings, blank, width]

/-! ## Writing cell by cell -/

section Write

variable (headings : List (Option Text)) (above below : List (List (Option Cell)))

/-- A cell is written in its place, and nothing around it changes. -/
theorem setCell_eq (left right : List (Option Cell)) (old : Option Cell) (cell : Cell) :
    setCell above.length left.length cell ⟨headings, above ++ (left ++ old :: right) :: below⟩ =
      ⟨headings, above ++ (left ++ some cell :: right) :: below⟩ := by
  rw [setCell, List.modify_eq_take_cons_drop (by simp)]
  simp

/-- A row is written from a column on. -/
theorem setRow_eq (left : List (Option Cell)) {old : List (Option Cell)} {cells : List Cell}
    (h : old.length = cells.length) :
    setRow above.length left.length ⟨headings, above ++ (left ++ old) :: below⟩ cells =
      ⟨headings, above ++ (left ++ cells.map some) :: below⟩ := by
  induction cells generalizing left old with
  | nil =>
    rw [List.length_eq_zero_iff.mp h]
    rfl
  | cons cell cells ih =>
    obtain ⟨first, old, rfl⟩ := List.exists_cons_of_length_eq_add_one h
    have hrest : old.length = cells.length := by simpa using h
    have hnext := ih (left ++ [some cell]) hrest
    rw [List.length_append, List.length_singleton] at hnext
    rw [setRow, setCell_eq]
    simpa using hnext

end Write

/-- **Row by row** a blank grid is filled, from a row on. -/
theorem setRows_blank (headings : List (Option Text)) (above : List (List (Option Cell)))
    {width : ℕ} {rows : List (List Cell)} (h : ∀ cells ∈ rows, cells.length = width) :
    setRows above.length
        ⟨headings, above ++ List.replicate rows.length (List.replicate width none)⟩ rows =
      ⟨headings, above ++ rows.map (List.map some)⟩ := by
  induction rows generalizing above with
  | nil => rfl
  | cons cells rows ih =>
    obtain ⟨hcells, hrows⟩ := List.forall_mem_cons.mp h
    have hwidth : (List.replicate width (none : Option Cell)).length = cells.length := by
      simp [hcells]
    have hrow := setRow_eq headings above
      (List.replicate rows.length (List.replicate width none)) [] hwidth
    have hnext := ih (above ++ [cells.map some]) hrows
    rw [List.length_append, List.length_singleton] at hnext
    simp only [List.nil_append, List.length_nil] at hrow
    rw [setRows, List.length_cons, List.replicate_succ, hrow]
    simpa using hnext

/-! ## The cells of a table -/

/-- What is written in the cells; a place without a cell has no text. -/
def texts (g : Grid) : List (List (Option Text)) := g.rows.map (List.map (Option.map Cell.text))

/-- **The cells show the fields** from which the rows of a written table are put together. -/
theorem map_text_cellsOf (t : Table) : (cellsOf t).map (List.map Cell.text) = t.rowFields := by
  have hfields (row : Json.Row) :
      (t.columns.map fun column => fieldCell (Table.cellOf row column)).map Cell.text =
        t.columns.map (Table.cellOf row) := by
    rw [List.map_map]
    rfl
  refine List.ext_getElem (by simp [cellsOf, Table.rowFields]) fun i _ _ => ?_
  simp only [cellsOf, Table.rowFields, List.getElem_map, List.getElem_mapIdx]
  split
  · rw [List.map_cons, hfields]
  · exact hfields _

theorem length_cellsOf (t : Table) : (cellsOf t).length = t.rows.length := by
  rw [cellsOf, List.length_mapIdx]

/-- There is a cell below each heading. -/
theorem length_of_mem_cellsOf {t : Table} {cells : List Cell} (h : cells ∈ cellsOf t) :
    cells.length = t.headerFields.length := by
  obtain ⟨i, -, rfl⟩ := List.mem_mapIdx.mp h
  rw [Table.headerFields]
  simp only
  split <;> simp

/-! ## Showing a table -/

/-- Whether a table has a heading and rows. -/
def HasRows (t : Table) : Prop := t ≠ .empty ∧ ∀ text, t ≠ .scalar text

theorem fill_of_hasRows {t : Table} (h : HasRows t) (g : Grid) :
    g.fill t = ⟨t.headerFields.map some, (cellsOf t).map (List.map some)⟩ := by
  have hfill : g.fill t = ((g.clear.resize t.rows.length t.headerFields.length).setHeadings
      t.headerFields).setRows 0 (cellsOf t) := by
    cases t with
    | empty => exact absurd rfl h.1
    | scalar text => exact absurd rfl (h.2 text)
    | records | values | pairs => rfl
  rw [hfill, resize_clear, setHeadings_blank rfl, ← length_cellsOf]
  exact setRows_blank _ [] fun cells hcells => length_of_mem_cellsOf hcells

theorem fill_single (text : Text) (g : Grid) :
    fill.single g text = ⟨[some valueHeading], [[some { text }]]⟩ := by
  rw [fill.single, resize_clear]
  rfl

/-- **What a grid showed before does not matter**, not even its size. -/
theorem fill_eq (t : Table) (g g' : Grid) : g.fill t = g'.fill t := by
  by_cases h : HasRows t
  · rw [fill_of_hasRows h, fill_of_hasRows h]
  · cases t with
    | empty => exact (fill_single _ g).trans (fill_single _ g').symm
    | scalar text => exact (fill_single _ g).trans (fill_single _ g').symm
    | records | values | pairs => exact absurd ⟨Table.noConfusion, fun _ => Table.noConfusion⟩ h

theorem texts_fill {t : Table} (h : HasRows t) (g : Grid) :
    (g.fill t).texts = t.rowFields.map (List.map some) := by
  rw [fill_of_hasRows h, texts, ← map_text_cellsOf]
  simp only [List.map_map]
  refine List.map_congr_left fun cells _ => ?_
  simp

/-! ## One table after another -/

/-- A new grid after some tables were shown in it, one after another. -/
def shown (tables : List Table) : Grid := tables.foldl (fun g t => g.fill t) .empty

/-- **A grid shows the table that is written.**  After any number of tables a grid is as if only the
last one had been shown in it.  If that one has rows, then the headings are the fields of its heading
and the texts of the cells are those of its rows, numbers included, and the table is written by
putting just these together; otherwise a single cell holds the whole text that is written. -/
theorem shown_concat (before : List Table) (t : Table) :
    let g := shown (before ++ [t])
    g = empty.fill t ∧
      (t.kindName ∈ ["records", "values", "pairs"] ∧
          g.headings = t.headerFields.map some ∧ g.texts = t.rowFields.map (List.map some) ∧
          (∀ separator, t.render separator =
            Text.join ("\n" : Text) ((t.headerFields :: t.rowFields).map (Text.join separator))) ∨
        t.kindName ∈ ["empty", "scalar"] ∧ g.headings = [some valueHeading] ∧
          ∀ separator, g.texts = [[some (t.render separator)]]) := by
  intro g
  have hlast : g = (shown before).fill t := List.foldl_concat ..
  rw [hlast]
  refine ⟨fill_eq t _ _, ?_⟩
  by_cases h : HasRows t
  · refine Or.inl ⟨?_, ?_, texts_fill h _, Table.render_eq h.1 h.2⟩
    · cases t with
      | empty => exact absurd rfl h.1
      | scalar text => exact absurd rfl (h.2 text)
      | records | values | pairs => simp [Table.kindName]
    · rw [fill_of_hasRows h]
  · -- What makes no table is its own text.
    obtain ⟨text, hsingle, hrender, hkind⟩ : ∃ text, (∀ g : Grid, g.fill t = fill.single g text) ∧
        (∀ separator, t.render separator = text) ∧ t.kindName ∈ ["empty", "scalar"] := by
      cases t with
      | empty => exact ⟨_, fun _ => rfl, fun _ => rfl, by simp [Table.kindName]⟩
      | scalar text => exact ⟨_, fun _ => rfl, fun _ => rfl, by simp [Table.kindName]⟩
      | records | values | pairs => exact absurd ⟨Table.noConfusion, fun _ => Table.noConfusion⟩ h
    refine Or.inr ⟨hkind, ?_, fun separator => ?_⟩
    · rw [hsingle, fill_single]
    · rw [hsingle, fill_single, hrender]
      rfl

/-- Objects under each other, then a single text: of the larger table nothing is left. -/
example : (shown [.records ["a"] [[("a", "c")], []], .scalar "b"]).texts =
    [[some ("b" : Text)]] := by
  rfl

end Grid

end StructuredText.Desktop
