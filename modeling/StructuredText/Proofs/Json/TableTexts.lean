/-
# Reading tables back

A table is written with a tab between the fields of a row and a line feed between its rows.  Cut at
both, the text gives the rows again unless a field holds a tab or a line feed itself.

* `fieldsOf_join_iff`: when a grid of fields comes back;
* `Table.fieldsOf_render_iff`: when a table does, whatever document it was made of.
-/
import Mathlib
import StructuredText.Proofs.Json.Tables
import StructuredText.Proofs.Text.Digits
import StructuredText.Proofs.Text.Lines

namespace StructuredText.Json

open CodePoint (ofChar)

/-! ## Grids -/

/-- A text that can stand in a field: it holds neither of the separators. -/
def FitsField (t : Text) : Prop := ofChar '\t' ∉ t ∧ ofChar '\n' ∉ t

instance (t : Text) : Decidable (FitsField t) := inferInstanceAs (Decidable (_ ∧ _))

/-- The fields of a text, line by line. -/
def fieldsOf (t : Text) : List (List Text) := t.lines.map (Text.splitOn '\t')

/-- However a text is cut, no field holds a separator. -/
theorem fitsField_of_mem_fieldsOf {t field : Text} {fields : List Text}
    (hfields : fields ∈ fieldsOf t) (hfield : field ∈ fields) : FitsField field := by
  obtain ⟨line, hline, rfl⟩ := List.mem_map.mp hfields
  refine ⟨Text.not_mem_of_mem_splitOn hfield, ?_⟩
  intro hfeed
  exact Text.not_mem_of_mem_splitOn hline (Text.mem_of_mem_splitOn hfield hfeed)

/-- **A grid comes back** just if no field holds a separator. -/
theorem fieldsOf_join_iff {grid : List (List Text)} (hgrid : grid ≠ [])
    (hrows : ∀ fields ∈ grid, fields ≠ []) :
    fieldsOf (Text.join ("\n" : Text) (grid.map (Text.join ("\t" : Text)))) = grid ↔
      ∀ fields ∈ grid, ∀ field ∈ fields, FitsField field := by
  constructor
  · intro hback fields hfields field hfield
    rw [← hback] at hfields
    exact fitsField_of_mem_fieldsOf hfields hfield
  · intro hfits
    have hlines : Text.lines (Text.join ("\n" : Text) (grid.map (Text.join ("\t" : Text)))) =
        grid.map (Text.join ("\t" : Text)) := by
      apply Text.splitOn_join
      · simpa using hgrid
      · intro line hline hfeed
        obtain ⟨fields, hfields, rfl⟩ := List.mem_map.mp hline
        rcases Text.mem_of_mem_join hfeed with hseparator | ⟨field, hfield, hmem⟩
        · exact absurd hseparator (by decide)
        · exact (hfits fields hfields field hfield).2 hmem
    have hfields : ∀ fields ∈ grid,
        Text.splitOn (ofChar '\t') (Text.join ("\t" : Text) fields) = fields := by
      intro fields hmem
      exact Text.splitOn_join (hrows fields hmem) fun field hfield =>
        (hfits fields hmem field hfield).1
    rw [fieldsOf, hlines, List.map_map]
    exact (List.map_congr_left hfields).trans (List.map_id grid)

/-! ## Tables -/

theorem fitsField_ofNat (n : ℕ) : FitsField (Text.ofNat n) := by
  have hdigit := Text.isDigit_of_mem_ofNat n
  constructor
  · intro htab
    exact absurd (hdigit _ htab) (by decide)
  · intro hfeed
    exact absurd (hdigit _ hfeed) (by decide)

namespace Table

/-- The field in front of a row, where rows are numbered. -/
def numberField (t : Table) (field : Text) : List Text := if t.numbered then [field] else []

theorem headerFields_eq (t : Table) : t.headerFields = t.numberField "#" ++ t.columns := by
  rw [headerFields, numberField]
  split <;> rfl

theorem rowFields_eq (t : Table) :
    t.rowFields = t.rows.mapIdx fun i row =>
      t.numberField (Text.ofNat (i + 1)) ++ t.columns.map (cellOf row) := by
  rw [rowFields]
  congr 1
  funext i row
  rw [numberField]
  split <;> rfl

/-- Numbers hold no separator, so a row comes back if the other fields do. -/
theorem fitsField_numberField_append {t : Table} {field : Text} (hfield : FitsField field)
    (fields : List Text) :
    (∀ f ∈ t.numberField field ++ fields, FitsField f) ↔ ∀ f ∈ fields, FitsField f := by
  rw [List.forall_mem_append, numberField]
  split
  · rw [List.forall_mem_singleton]
    exact and_iff_right hfield
  · exact and_iff_right (List.forall_mem_nil _)

/-- **A written table comes back** just if no column and no cell holds a separator.  Cut at line
feeds and tabs, the text then gives the heading, with a number sign in front if rows are numbered,
and the cells of each row in all columns, with the number of the row in front. -/
theorem fieldsOf_render_iff {t : Table} (hkind : t.kindName ∈ ["records", "values", "pairs"]) :
    fieldsOf (t.render "\t") =
        (t.numberField "#" ++ t.columns) ::
          (t.rows.mapIdx fun i row =>
            t.numberField (Text.ofNat (i + 1)) ++ t.columns.map (cellOf row)) ↔
      (∀ column ∈ t.columns, FitsField column) ∧
        ∀ row ∈ t.rows, ∀ column ∈ t.columns, FitsField (cellOf row column) := by
  have hrender : t.render "\t" =
      Text.join ("\n" : Text) ((t.headerFields :: t.rowFields).map (Text.join ("\t" : Text))) := by
    apply render_eq
    · rintro rfl
      simp [kindName] at hkind
    · rintro text rfl
      simp [kindName] at hkind
  -- Rows are numbered or there are two columns, so no row is without a field.
  have hfields (field : Text) (f : Text → Text) : t.numberField field ++ t.columns.map f ≠ [] := by
    cases t with
    | empty | scalar text => simp [kindName] at hkind
    | records columns rows | values cells => simp [numberField, numbered]
    | pairs entries => simp [numberField, numbered, Table.columns]
  have hheader : t.numberField "#" ++ t.columns ≠ [] := by
    simpa using hfields "#" id
  rw [hrender, headerFields_eq, rowFields_eq, fieldsOf_join_iff (by simp), List.forall_mem_cons,
    fitsField_numberField_append (by decide)]
  · refine and_congr_right fun _ => ?_
    constructor
    · intro h row hrow
      obtain ⟨i, hi, rfl⟩ := List.mem_iff_getElem.mp hrow
      have hcells := h _ (List.mem_mapIdx.mpr ⟨i, hi, rfl⟩)
      rw [fitsField_numberField_append (fitsField_ofNat _), List.forall_mem_map] at hcells
      exact hcells
    · intro h fields hmem
      obtain ⟨i, hi, rfl⟩ := List.mem_mapIdx.mp hmem
      rw [fitsField_numberField_append (fitsField_ofNat _), List.forall_mem_map]
      exact h _ (List.getElem_mem hi)
  · intro fields hmem
    rcases List.mem_cons.mp hmem with rfl | hmem
    · exact hheader
    · obtain ⟨i, hi, rfl⟩ := List.mem_mapIdx.mp hmem
      exact hfields _ _

/-- Two members, one of which is shown by nothing, under a name of one's choice. -/
def twoMembers (name : Text) : Value := .object [(name, .null), ("b", .string "c")]

/-- The rows of these members, the heading first. -/
def twoRows (name : Text) : List (List Text) := [["key", "value"], [name, []], ["b", "c"]]

/-- A member without a name comes back; one with a tab in its name does not. -/
theorem fieldsOf_render_iff_tab :
    ∃ t t', ofValue (twoMembers []) = .ok t ∧ ofValue (twoMembers "\t") = .ok t' ∧
      t.kindName ∈ ["records", "values", "pairs"] ∧ t'.kindName ∈ ["records", "values", "pairs"] ∧
      fieldsOf (t.render "\t") = twoRows [] ∧ fieldsOf (t'.render "\t") ≠ twoRows "\t" := by
  have htable (name : Text) : ofValue (twoMembers name) = .ok (twoMembers name).inTable := rfl
  have hkind (name : Text) :
      (twoMembers name).inTable.kindName ∈ ["records", "values", "pairs"] := by
    simp [twoMembers, Value.inTable, kindName]
  refine ⟨_, _, htable [], htable "\t", hkind [], hkind "\t", ?_, ?_⟩
  · exact (fieldsOf_render_iff (hkind [])).mpr (by decide)
  · intro hback
    have hcells := ((fieldsOf_render_iff (hkind "\t")).mp hback).2
    exact absurd hcells (by decide)

end Table

end StructuredText.Json
