/-
# Tables of documents

What the columns of a table are, what its cells show, and how it is written.  The columns of
objects one below the other are collected name by name; a row has the cells of its own names only,
so what a cell shows is told by the member of the row's object.  There is no table if a cell would
show an integer with too many digits.

* `columnsOf_eq`: the columns are the names of all objects, each where it comes first;
* `Table.ofValue_eq`: which documents have a table, and which table that is; well-formed ones do;
* `Table.cellOf_inRow`: a cell shows the member of its name, if the row is an object that has it;
* `Table.ofValue_records` puts them together;
* `Table.render_eq`: the lines of a written table.
-/
import Mathlib
import StructuredText.Json.Table
import StructuredText.Proofs.Json.LongIntegers
import StructuredText.Proofs.Json.Members

namespace StructuredText.Json

/-! ## Columns -/

/-- The names of a value's members.  Only objects have any. -/
def Value.names : Value → List Text
  | .object members => namesOf members
  | _ => []

/-- The names met so far after one more, the last one first. -/
def meetName (met : List Text) (name : Text) : List Text :=
  if met.contains name then met else name :: met

/-- Every name met is kept where it was met first. -/
theorem meetName_reverse (names : List Text) (name : Text) :
    meetName names.eraseDups.reverse name = (names ++ [name]).eraseDups.reverse := by
  rw [meetName, eraseDups_concat]
  by_cases hname : name ∈ names
  · simp [hname]
  · simp [hname]

theorem foldl_meetName (names : List Text) :
    names.foldl meetName [] = names.eraseDups.reverse := by
  induction names using List.reverseRecOn with
  | nil => rfl
  | append_singleton names name ih =>
    rw [List.foldl_append, ih]
    exact meetName_reverse names name

/-- **The columns** are the names of all objects one after another, each where it comes first. -/
theorem columnsOf_eq (items : List Value) :
    columnsOf items = (items.flatMap Value.names).eraseDups := by
  have hmet : columnsOf items = ((items.flatMap Value.names).foldl meetName []).reverse := by
    rw [List.foldl_flatMap]
    refine congrArg List.reverse (List.foldl_ext _ _ _ fun met item _ => ?_)
    cases item with
    | object members =>
      rw [Value.names, namesOf, List.foldl_map]
      rfl
    | null | bool | int | float | string | array => rfl
  rw [hmet, foldl_meetName, List.reverse_reverse]

theorem nodup_columnsOf (items : List Value) : (columnsOf items).Nodup := by
  rw [columnsOf_eq]
  exact nodup_eraseDups _

theorem mem_columnsOf {items : List Value} {name : Text} :
    name ∈ columnsOf items ↔ ∃ item ∈ items, name ∈ item.names := by
  rw [columnsOf_eq, List.mem_eraseDups, List.mem_flatMap]

/-! ## Which documents have a table -/

/-- The members of a value.  Only objects have any. -/
def Value.members : Value → List Member
  | .object members => members
  | _ => []

/-- The cells of a value among records. -/
def Value.inRow (v : Value) : Row := v.members.map fun m => (m.1, m.2.inCell)

/-- The values of which a table has cells. -/
def Value.shownValues : Value → List Value
  | .array [] => []
  | .array (first :: rest) =>
    if first.kind = .object then (first :: rest).flatMap fun item => item.members.map Prod.snd
    else first :: rest
  | .object members => members.map Prod.snd
  | v => [v]

/-- Whether the table of a value would have a cell for an integer with too many digits. -/
def Value.ShowsOverlong (v : Value) : Prop := ∃ shown ∈ v.shownValues, shown.Overlong

instance : DecidablePred Value.ShowsOverlong :=
  fun v => inferInstanceAs (Decidable (∃ shown ∈ v.shownValues, shown.Overlong))

/-- The table of a value, if it shows no such integer. -/
def Value.inTable : Value → Table
  | .array [] => .empty
  | .array (first :: rest) =>
    if first.kind = .object then
      .records (columnsOf (first :: rest)) ((first :: rest).map Value.inRow)
    else .values ((first :: rest).map Value.inCell)
  | .object members => .pairs (Value.object members).inRow
  | .null => .scalar "null"
  | v => .scalar v.inCell

theorem memberCell_eq (m : Member) :
    memberCell m = if m.2.Overlong then .error .tooManyDigits else .ok (m.1, m.2.inCell) := by
  rw [memberCell, cellText_eq]
  split <;> rfl

theorem rowOf_eq (item : Value) :
    rowOf item = if ∃ m ∈ item.members, m.2.Overlong then .error .tooManyDigits
      else .ok item.inRow := by
  cases item with
  | object members => exact mapM_eq_ite memberCell_eq members
  | null | bool | int | float | string | array =>
    simp [rowOf, Value.members, Value.inRow]

theorem map_ite {α β ε : Type} {p : Prop} [Decidable p] (f : α → β) (e : ε) (a : α) :
    (if p then Except.error e else .ok a).map f = if p then .error e else .ok (f a) := by
  split <;> rfl

section ShowsOverlong

variable {first : Value} {rest : List Value}

theorem showsOverlong_object (members : List Member) :
    (Value.object members).ShowsOverlong ↔ ∃ m ∈ members, m.2.Overlong := by
  simp only [Value.ShowsOverlong, Value.shownValues, List.mem_map, exists_exists_and_eq_and]

/-- Of objects one below the other the members are shown. -/
theorem showsOverlong_records (hfirst : first.kind = .object) :
    (Value.array (first :: rest)).ShowsOverlong ↔
      ∃ item ∈ first :: rest, ∃ m ∈ item.members, m.2.Overlong := by
  rw [Value.ShowsOverlong, Value.shownValues, if_pos hfirst]
  constructor
  · rintro ⟨shown, hshown, hlong⟩
    obtain ⟨item, hitem, hshown⟩ := List.mem_flatMap.mp hshown
    obtain ⟨m, hm, rfl⟩ := List.mem_map.mp hshown
    exact ⟨item, hitem, m, hm, hlong⟩
  · rintro ⟨item, hitem, m, hm, hlong⟩
    exact ⟨m.2, List.mem_flatMap.mpr ⟨item, hitem, List.mem_map_of_mem hm⟩, hlong⟩

theorem showsOverlong_values (hfirst : first.kind ≠ .object) :
    (Value.array (first :: rest)).ShowsOverlong ↔ ∃ item ∈ first :: rest, item.Overlong := by
  rw [Value.ShowsOverlong, Value.shownValues, if_neg hfirst]

end ShowsOverlong

/-- **Which documents have a table, and which table that is.** -/
theorem Table.ofValue_eq (v : Value) :
    Table.ofValue v = if v.ShowsOverlong then .error .tooManyDigits else .ok v.inTable := by
  cases v with
  | null | bool | float | string => rfl
  | int n =>
    have hscalar : Table.ofValue (.int n) = (cellText (.int n)).map .scalar := rfl
    have hshows : (Value.int n).ShowsOverlong ↔ (Value.int n).Overlong := by
      simp only [Value.ShowsOverlong, Value.shownValues, List.mem_singleton, exists_eq_left]
    rw [hscalar, cellText_eq, map_ite, if_congr hshows rfl rfl]
    rfl
  | object members =>
    rw [Table.ofValue, mapM_eq_ite memberCell_eq, map_ite,
      if_congr (showsOverlong_object members) rfl rfl]
    rfl
  | array items =>
    cases items with
    | nil => rfl
    | cons first rest =>
      rw [Table.ofValue, Value.inTable]
      by_cases hfirst : first.kind = .object
      · rw [if_pos hfirst, if_pos hfirst, mapM_eq_ite rowOf_eq, map_ite,
          if_congr (showsOverlong_records hfirst) rfl rfl]
      · rw [if_neg hfirst, if_neg hfirst, mapM_eq_ite cellText_eq, map_ite,
          if_congr (showsOverlong_values hfirst) rfl rfl]

/-- What a table shows stands inside the document. -/
theorem Value.mem_parts_of_mem_shownValues {v shown : Value} (h : shown ∈ v.shownValues) :
    shown ∈ v.parts := by
  have hmember {members : List Member} {shown : Value} (h : shown ∈ members.map Prod.snd) :
      shown ∈ (Value.object members).parts := by
    obtain ⟨m, hm, rfl⟩ := List.mem_map.mp h
    exact mem_parts_object.mpr (Or.inr ⟨m, hm, self_mem_parts m.2⟩)
  cases v with
  | object members => exact hmember h
  | array items =>
    cases items with
    | nil => exact absurd h List.not_mem_nil
    | cons first rest =>
      rw [shownValues] at h
      split at h
      · obtain ⟨item, hitem, h⟩ := List.mem_flatMap.mp h
        cases item with
        | object members => exact mem_parts_array.mpr (Or.inr ⟨_, hitem, hmember h⟩)
        | null | bool | int | float | string | array => exact absurd h List.not_mem_nil
      · exact mem_parts_array.mpr (Or.inr ⟨shown, h, self_mem_parts shown⟩)
  | null | bool | int | float | string => exact h

/-- A well-formed document has a table. -/
theorem Table.ofValue_of_wellFormed {v : Value} (hv : v.WellFormed) :
    Table.ofValue v = .ok v.inTable := by
  rw [Table.ofValue_eq, if_neg]
  rintro ⟨shown, hshown, hlong⟩
  exact not_overlong_of_wellFormed hv (Value.mem_parts_of_mem_shownValues hshown) hlong

/-! ## Cells -/

/-- The member of a value under a name.  Only objects have any. -/
def Value.member? (name : Text) : Value → Option Value
  | .object members => Json.member? name members
  | _ => none

theorem Value.mem_members_of_member? {item v : Value} {name : Text}
    (h : item.member? name = some v) : (name, v) ∈ item.members := by
  cases item with
  | object members =>
    obtain ⟨m, hm, rfl⟩ := Option.map_eq_some_iff.mp h
    have hname : m.1 = name := by simpa using List.find?_some hm
    rw [← hname]
    exact List.mem_of_find?_eq_some hm
  | null | bool | int | float | string | array => exact absurd h (by simp [Value.member?])

/-- What a table shows of a member that may be missing. -/
def shownMember : Option Value → Except DigitFault Text
  | none => .ok []
  | some (.object _) => .ok "\x7b...\x7d"
  | some (.array _) => .ok "[...]"
  | some v => cellText v

theorem shownMember_some (v : Value) : shownMember (some v) = cellText v := by
  cases v <;> rfl

namespace Table

theorem cellOf_cons (key cell column : Text) (row : Row) :
    cellOf ((key, cell) :: row) column = if key = column then cell else cellOf row column := by
  unfold cellOf
  split_ifs with h <;> simp [h]

/-- **A cell** shows the member of its name. -/
theorem cellOf_inRow (item : Value) (column : Text) :
    cellOf item.inRow column = (item.member? column).elim [] Value.inCell := by
  cases item with
  | object members =>
    induction members with
    | nil => rfl
    | cons m members ih =>
      rw [Value.member?, member?_cons, Value.inRow, Value.members, List.map_cons, cellOf_cons]
      split
      · rfl
      · exact ih
  | null | bool | int | float | string | array => rfl

end Table

/-! ## Elements from either end -/

section Element

variable {α β : Type} {xs : List α} {index : Int}

/-- The element of an index after all elements were changed. -/
theorem element?_map (f : α → β) (xs : List α) (index : Int) :
    element? (xs.map f) index = (element? xs index).map f := by
  unfold element?
  split
  · rw [List.length_map]
    cases position? xs.length index with
    | none => rfl
    | some i =>
      rw [Option.bind_some, Option.bind_some, List.getElem?_map]
      cases xs[i]? <;> rfl
  · rfl

theorem mem_of_element? {x : α} (h : element? xs index = .ok x) : x ∈ xs := by
  unfold element? at h
  split at h
  · split at h
    · next hfound =>
      obtain ⟨i, -, hi⟩ := Option.bind_eq_some_iff.mp hfound
      rw [← Except.ok.inj h]
      exact List.mem_of_getElem? hi
    · exact absurd h (by simp)
  · exact absurd h (by simp)

end Element

/-! ## Objects one below the other -/

namespace Table

/-- The cells of objects one below the other. -/
theorem cell_records (columns : List Text) (items : List Value) (index : Int) (column : Text) :
    (records columns (items.map Value.inRow)).cell index column =
      (element? items index).map fun item => (item.member? column).elim [] Value.inCell := by
  rw [cell, rows, element?_map]
  cases element? items index with
  | error fault => rfl
  | ok item => exact congrArg Except.ok (cellOf_inRow item column)

/-- What is shown of a member that may be missing, if that is no integer with too many digits. -/
theorem shownMember_eq {member : Option Value} (h : ∀ v ∈ member, ¬ v.Overlong) :
    shownMember member = .ok (member.elim [] Value.inCell) := by
  cases member with
  | none => rfl
  | some v => rw [shownMember_some, cellText_eq, if_neg (h v rfl), Option.elim_some]

/-- **The table of objects one below the other.**  An array that begins with an object has no table
if a member of one of its objects is an integer with too many digits.  If none is, it has a row for
each element, in order.  The columns are the names of all objects one after another without those
that came before.  The cell of an element in any column shows the member of that name, which for
containers is just a hint, and nothing if the element is no object or has no such member. -/
theorem ofValue_records (members : List Member) (rest : List Value) :
    let items := Value.object members :: rest
    ((∃ item ∈ items, ∃ m ∈ item.members, m.2.Overlong) →
      ofValue (.array items) = .error .tooManyDigits) ∧
    ((∀ item ∈ items, ∀ m ∈ item.members, ¬ m.2.Overlong) →
      ∃ t, ofValue (.array items) = .ok t ∧ t.kindName = "records" ∧
        t.rows.length = items.length ∧ t.columns.Nodup ∧
        t.columns = (items.flatMap Value.names).eraseDups ∧
        (∀ index fault, element? items index = .error fault → ∀ column,
          t.cell index column = .error fault) ∧
        ∀ index item, element? items index = .ok item → ∀ column, ∃ text,
          shownMember (item.member? column) = .ok text ∧ t.cell index column = .ok text) := by
  intro items
  have hshows : (Value.array items).ShowsOverlong ↔
      ∃ item ∈ items, ∃ m ∈ item.members, m.2.Overlong := showsOverlong_records rfl
  have htable : (Value.array items).inTable = records (columnsOf items) (items.map Value.inRow) :=
    rfl
  rw [ofValue_eq, htable]
  refine ⟨fun hlong => if_pos (hshows.mpr hlong), fun hnone => ?_⟩
  have hok : ¬ (Value.array items).ShowsOverlong := by
    rw [hshows]
    rintro ⟨item, hitem, m, hm, hlong⟩
    exact hnone item hitem m hm hlong
  refine ⟨_, if_neg hok, rfl, ?_, nodup_columnsOf items, columnsOf_eq items, ?_, ?_⟩
  · rw [rows, List.length_map]
  · intro index fault hfault column
    rw [cell_records, hfault]
    rfl
  · intro index item hitem column
    refine ⟨_, shownMember_eq fun v hv => ?_, ?_⟩
    · exact hnone item (mem_of_element? hitem) (column, v) (Value.mem_members_of_member? hv)
    · rw [cell_records, hitem]
      rfl

/-- An object with an integer of one digit too many: there is no table. -/
theorem not_records_tooLong :
    ¬ ∃ t, ofValue (.array [.object [("a", tooLong)]]) = .ok t ∧ t.kindName = "records" := by
  rintro ⟨t, ht, -⟩
  have hshows : (Value.array [.object [("a", tooLong)]]).ShowsOverlong :=
    (showsOverlong_records rfl).mpr
      ⟨_, List.mem_singleton_self _, _, List.mem_singleton_self _, overlong_tooLong⟩
  rw [ofValue_eq, if_pos hshows] at ht
  exact absurd ht (by simp)

/-! ## Lines -/

/-- A table that is one has a line for its heading and one for each row. -/
theorem render_eq {t : Table} (hempty : t ≠ .empty) (hscalar : ∀ text, t ≠ .scalar text)
    (separator : Text) :
    t.render separator =
      Text.join ("\n" : Text) ((t.headerFields :: t.rowFields).map (Text.join separator)) := by
  cases t with
  | empty => exact absurd rfl hempty
  | scalar text => exact absurd rfl (hscalar text)
  | records | values | pairs => rfl

end Table

end StructuredText.Json
