/-
# Tables of documents with sorted keys

Sorting keys moves members about and changes no value that a table shows, so the table of a sorted
document is that of the document with its columns, or the members of an object, in another order;
and there is no table of the one just if there is none of the other.

* `Value.member?_sortKeys`: what is found under a name before and after sorting;
* `Value.showsOverlong_sortKeys`: which documents have no table;
* `columnsOf_map_sortKeys` and `Table.cell_map_sortKeys`: objects one below the other;
* `Table.rows_sortKeys`: the members of one object;
* `Table.ofValue_sortKeys` says it of every document.
-/
import Mathlib
import StructuredText.Proofs.Json.CanonicalForm
import StructuredText.Proofs.Json.Tables

namespace StructuredText.Json

/-- No object repeats a name, at any depth. -/
def Value.NamesOnce (v : Value) : Prop :=
  ∀ members, Value.object members ∈ v.parts → (namesOf members).Nodup

/-! ## What is shown of sorted values -/

namespace Value

theorem kind_sortKeys (v : Value) : v.sortKeys.kind = v.kind := by
  cases v <;> rfl

theorem names_sortKeys_perm (v : Value) : v.sortKeys.names.Perm v.names := by
  cases v with
  | object members =>
    rw [sortKeys_object, names, names, ← namesOf_map_sortInside members]
    exact (sortMembers_perm _).map Prod.fst
  | null | bool | int | float | string | array => exact .refl _

/-- What is found under a name in a sorted object is what was found before, itself sorted. -/
theorem member?_sortKeys {v : Value} (hv : v.names.Nodup) (name : Text) :
    v.sortKeys.member? name = (v.member? name).map sortKeys := by
  cases v with
  | object members =>
    have hinside : Json.member? name (members.map sortInside) =
        (Json.member? name members).map sortKeys := by
      induction members with
      | nil => rfl
      | cons m members ih =>
        rw [List.map_cons, member?_cons, member?_cons, ih (List.nodup_cons.mp hv).2, sortInside]
        split <;> rfl
    have hnames : (namesOf (sortMembers (members.map sortInside))).Nodup := by
      have hsorted := (names_sortKeys_perm (.object members)).nodup_iff.mpr hv
      rwa [sortKeys_object] at hsorted
    rw [sortKeys_object, member?, member?, member?_perm (sortMembers_perm _) hnames, hinside]
  | null | bool | int | float | string | array => rfl

/-- Of an array or object no more is shown than what it is. -/
theorem inCell_sortKeys (v : Value) : v.sortKeys.inCell = v.inCell := by
  cases v <;> rfl

theorem overlong_sortKeys (v : Value) : v.sortKeys.Overlong ↔ v.Overlong := by
  cases v <;> rfl

theorem members_sortKeys_perm (v : Value) : v.sortKeys.members.Perm (v.members.map sortInside) := by
  cases v with
  | object members =>
    rw [sortKeys_object]
    exact sortMembers_perm _
  | null | bool | int | float | string | array => exact .refl _

/-- Sorting changes no member that is an integer. -/
theorem exists_overlong_members_sortKeys (v : Value) :
    (∃ m ∈ v.sortKeys.members, m.2.Overlong) ↔ ∃ m ∈ v.members, m.2.Overlong := by
  have hmem (m : Member) : m ∈ v.sortKeys.members ↔ m ∈ v.members.map sortInside :=
    v.members_sortKeys_perm.mem_iff
  simp only [hmem, List.mem_map, exists_exists_and_eq_and, sortInside, overlong_sortKeys]

/-- **Sorting does not matter to which documents have a table.** -/
theorem showsOverlong_sortKeys (v : Value) : v.sortKeys.ShowsOverlong ↔ v.ShowsOverlong := by
  cases v with
  | object members =>
    have h := (Value.object members).exists_overlong_members_sortKeys
    rw [sortKeys_object] at h ⊢
    rw [showsOverlong_object, showsOverlong_object]
    exact h
  | array items =>
    rw [sortKeys_array]
    cases items with
    | nil => rfl
    | cons first rest =>
      rw [List.map_cons]
      by_cases hfirst : first.kind = .object
      · rw [showsOverlong_records (first.kind_sortKeys.trans hfirst), showsOverlong_records hfirst,
          ← List.map_cons]
        simp only [List.mem_map, exists_exists_and_eq_and, exists_overlong_members_sortKeys]
      · rw [showsOverlong_values (first.kind_sortKeys.trans_ne hfirst), showsOverlong_values hfirst,
          ← List.map_cons]
        simp only [List.mem_map, exists_exists_and_eq_and, overlong_sortKeys]
  | null | bool | int | float | string => rfl

end Value

/-! ## Objects one below the other -/

/-- Sorting moves columns about. -/
theorem columnsOf_map_sortKeys (items : List Value) :
    (columnsOf (items.map Value.sortKeys)).Perm (columnsOf items) := by
  apply (List.perm_ext_iff_of_nodup (nodup_columnsOf _) (nodup_columnsOf _)).mpr
  intro name
  simp only [mem_columnsOf, List.mem_map, exists_exists_and_eq_and]
  exact exists_congr fun item => and_congr_right fun _ => item.names_sortKeys_perm.mem_iff

namespace Table

/-- Sorting changes no cell. -/
theorem cell_map_sortKeys {items : List Value} (hitems : ∀ item ∈ items, item.names.Nodup)
    (columns sorted : List Text) (index : Int) (column : Text) :
    (records sorted ((items.map Value.sortKeys).map Value.inRow)).cell index column =
      (records columns (items.map Value.inRow)).cell index column := by
  rw [cell_records, cell_records, element?_map]
  cases hitem : element? items index with
  | error fault => rfl
  | ok item =>
    have hmem : item ∈ items := mem_of_element? hitem
    show Except.ok ((item.sortKeys.member? column).elim [] Value.inCell) = _
    rw [Value.member?_sortKeys (hitems item hmem), Option.elim_map]
    simp only [Function.comp_def, Value.inCell_sortKeys]
    rfl

/-! ## One object -/

/-- The rows of a sorted object are those of the object, in ascending order of the names. -/
theorem rows_sortKeys {members : List Member} (hnames : (namesOf members).Nodup) :
    let sorted := (Value.object members).sortKeys.inTable
    sorted.rows.Perm (Value.object members).inTable.rows ∧
      (sorted.rows.map (cellOf · keyColumn)).Pairwise (· < ·) := by
  intro sorted
  have hrows (ms : List Member) : (Value.object ms).inTable.rows =
      ms.map fun m => [(keyColumn, m.1), (valueColumn, m.2.inCell)] := by
    rw [Value.inTable, Value.inRow, Value.members, rows, List.map_map]
    rfl
  have hsorted : sorted.rows = (sortMembers (members.map sortInside)).map
      fun m => [(keyColumn, m.1), (valueColumn, m.2.inCell)] := by
    rw [← hrows, ← Value.sortKeys_object]
  constructor
  · have hinside : (members.map sortInside).map
        (fun m => [(keyColumn, m.1), (valueColumn, m.2.inCell)]) =
          (Value.object members).inTable.rows := by
      rw [hrows, List.map_map]
      apply List.map_congr_left
      intro m _
      simp only [Function.comp, sortInside, Value.inCell_sortKeys]
    rw [hsorted, ← hinside]
    exact (sortMembers_perm _).map _
  · have hkeys : sorted.rows.map (cellOf · keyColumn) =
        namesOf (sortMembers (members.map sortInside)) := by
      rw [hsorted, List.map_map, namesOf]
      apply List.map_congr_left
      intro m _
      rw [Function.comp, cellOf_cons, if_pos rfl]
    rw [hkeys]
    apply pairwise_lt_sortMembers
    rwa [namesOf_map_sortInside]

/-! ## Any document -/

/-- The table of an array whose first element is an object, sorted. -/
theorem inTable_sortKeys_records {first : Value} {rest : List Value}
    (hfirst : first.kind = .object) :
    (Value.array (first :: rest)).sortKeys.inTable =
      records (columnsOf ((first :: rest).map Value.sortKeys))
        (((first :: rest).map Value.sortKeys).map Value.inRow) := by
  rw [Value.sortKeys_array, List.map_cons, Value.inTable,
    if_pos (first.kind_sortKeys.trans hfirst)]

/-- The table of any other array is the same, sorted or not. -/
theorem inTable_sortKeys_values {first : Value} {rest : List Value}
    (hfirst : first.kind ≠ .object) :
    (Value.array (first :: rest)).sortKeys.inTable = (Value.array (first :: rest)).inTable := by
  have hcells : ((first :: rest).map Value.sortKeys).map Value.inCell =
      (first :: rest).map Value.inCell := by
    rw [List.map_map]
    apply List.map_congr_left
    intro item _
    exact item.inCell_sortKeys
  rw [Value.sortKeys_array, List.map_cons, Value.inTable, Value.inTable, if_neg hfirst,
    if_neg (first.kind_sortKeys.trans_ne hfirst), ← List.map_cons, hcells]

/-- How the table of a document with sorted keys differs from that of the document. -/
structure Rearranges (sorted t : Table) : Prop where
  kindName_eq : sorted.kindName = t.kindName
  scalarText_eq : sorted.scalarText = t.scalarText
  length_rows : sorted.rows.length = t.rows.length
  /-- If rows are elements of an array, columns are moved about and cells show what they showed. -/
  elements : t.kindName ∈ ["records", "values"] →
    sorted.columns.Perm t.columns ∧ ∀ index column, sorted.cell index column = t.cell index column
  /-- If rows are members of an object, they are moved about so that the keys ascend. -/
  members : t.kindName = "pairs" →
    sorted.columns = t.columns ∧ sorted.rows.Perm t.rows ∧
      (sorted.rows.map (cellOf · keyColumn)).Pairwise (· < ·)

/-- A table that is not of members may stay as it is. -/
theorem Rearranges.refl {t : Table} (hkind : t.kindName ≠ "pairs") : t.Rearranges t where
  kindName_eq := rfl
  scalarText_eq := rfl
  length_rows := rfl
  elements := fun _ => ⟨.refl _, fun _ _ => rfl⟩
  members := fun hpairs => absurd hpairs hkind

/-- Of objects one below the other. -/
theorem rearranges_records {items : List Value} (hitems : ∀ item ∈ items, item.names.Nodup) :
    (records (columnsOf (items.map Value.sortKeys))
        ((items.map Value.sortKeys).map Value.inRow)).Rearranges
      (records (columnsOf items) (items.map Value.inRow)) where
  kindName_eq := rfl
  scalarText_eq := rfl
  length_rows := by simp [rows]
  elements := fun _ => ⟨columnsOf_map_sortKeys items, cell_map_sortKeys hitems _ _⟩
  members := fun hpairs => absurd hpairs (by simp [kindName])

/-- What sorting does to the table of a document, if it shows no integer with too many digits. -/
theorem rearranges_inTable {v : Value} (hv : v.NamesOnce) :
    v.sortKeys.inTable.Rearranges v.inTable := by
  cases v with
  | object members =>
    obtain ⟨hrows, hascends⟩ := rows_sortKeys (hv members (mem_parts_object.mpr (Or.inl rfl)))
    refine ⟨rfl, rfl, hrows.length_eq, ?_, fun _ => ⟨rfl, hrows, hascends⟩⟩
    intro hkind
    exact absurd hkind (by simp [Value.inTable, kindName])
  | array items =>
    cases items with
    | nil =>
      have hkind : (Value.array []).inTable.kindName ≠ "pairs" := by
        simp [Value.inTable, kindName]
      exact .refl hkind
    | cons first rest =>
      by_cases hfirst : first.kind = .object
      · have ht : (Value.array (first :: rest)).inTable =
            records (columnsOf (first :: rest)) ((first :: rest).map Value.inRow) := if_pos hfirst
        rw [ht, inTable_sortKeys_records hfirst]
        apply rearranges_records
        intro item hitem
        cases item with
        | object members =>
          apply hv members
          exact mem_parts_array.mpr (Or.inr ⟨_, hitem, mem_parts_object.mpr (Or.inl rfl)⟩)
        | null | bool | int | float | string | array => exact List.nodup_nil
      · have ht : (Value.array (first :: rest)).inTable =
            values ((first :: rest).map Value.inCell) := if_neg hfirst
        rw [inTable_sortKeys_values hfirst]
        exact .refl (by simp [ht, kindName])
  | null => exact .refl (by simp [Value.sortKeys, Value.inTable, kindName])
  | bool | int | float | string => exact .refl (by simp [Value.sortKeys, Value.inTable, kindName])

/-- **Sorting keys moves columns and rows about and changes nothing else.**  If a cell would show an
integer with too many digits, there is no table, whether keys are sorted or not.  Otherwise the table
of a document with sorted keys is of the same kind, and says the same if it is no table.  If rows are
elements of an array, the columns are moved about and every cell shows what it showed before; the
rows of one object are moved about so that the keys ascend. -/
theorem ofValue_sortKeys {v : Value} (hv : v.NamesOnce) :
    (v.ShowsOverlong → ofValue v.sortKeys = .error .tooManyDigits ∧
      ofValue v = .error .tooManyDigits) ∧
    (¬ v.ShowsOverlong → ∃ sorted t, ofValue v.sortKeys = .ok sorted ∧ ofValue v = .ok t ∧
      sorted.Rearranges t) := by
  have hsorted := v.showsOverlong_sortKeys
  rw [ofValue_eq, ofValue_eq]
  constructor
  · intro hlong
    exact ⟨if_pos (hsorted.mpr hlong), if_pos hlong⟩
  · intro hnone
    exact ⟨_, _, if_neg (hsorted.not.mpr hnone), if_neg hnone, rearranges_inTable hv⟩

/-- An array of an integer of one digit too many: there is no table, and so none of a kind. -/
theorem not_sorted_tooLong :
    ¬ ∃ sorted t, ofValue (Value.array [tooLong]).sortKeys = .ok sorted ∧
      ofValue (.array [tooLong]) = .ok t ∧ sorted.kindName = t.kindName := by
  rintro ⟨sorted, t, -, ht, -⟩
  have hshows : (Value.array [tooLong]).ShowsOverlong :=
    ⟨tooLong, List.mem_singleton_self _, overlong_tooLong⟩
  rw [ofValue_eq, if_pos hshows] at ht
  exact absurd ht (by simp)

/-- Keys out of order, outside and inside. -/
def unsorted : Value :=
  .object [("b", .object [("d", .null), ("c", .string "é")]), ("a", .array [.bool true])]

/-- The rows of that object once its keys are sorted. -/
theorem ofValue_sortKeys_unsorted :
    unsorted.NamesOnce ∧ ∃ sorted t, ofValue unsorted.sortKeys = .ok sorted ∧
      ofValue unsorted = .ok t ∧ sorted.rows.Perm t.rows ∧
      (sorted.rows.map (cellOf · keyColumn)).Pairwise (· < ·) := by
  have hnames : unsorted.NamesOnce := by
    intro members hmembers
    simp only [unsorted, Value.parts, partsOfMembers, partsOfItems, List.mem_cons, List.mem_append,
      Value.object.injEq, List.not_mem_nil, or_false, reduceCtorEq] at hmembers
    rcases hmembers with rfl | rfl
    · decide
    · decide
  have hnone : ¬ unsorted.ShowsOverlong := by decide
  obtain ⟨sorted, t, hsorted, ht, hmoves⟩ := (ofValue_sortKeys hnames).2 hnone
  have hkind : t.kindName = "pairs" := by
    rw [← Except.ok.inj ht]
    rfl
  obtain ⟨-, hrows, hascends⟩ := hmoves.members hkind
  exact ⟨hnames, sorted, t, hsorted, ht, hrows, hascends⟩

end Table

end StructuredText.Json
