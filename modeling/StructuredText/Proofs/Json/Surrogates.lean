/-
# Lone surrogates in what is written

Whatever a document is written as, a surrogate comes from one of its strings or names.  As text
every string and name is written, and escaped if that was asked for.  The views know no escaping
but show only what lies close to the root.

* `scalar_renderWith_iff` tells which documents have no surrogates as text;
* `scalar_renderTable_iff` and `scalar_renderTree_iff` tell it of the table and of the tree.
-/
import Mathlib
import StructuredText.Json.Table
import StructuredText.Json.Tree
import StructuredText.Proofs.Json.Characters
import StructuredText.Proofs.Json.LongIntegers
import StructuredText.Proofs.Json.ReadValues
import StructuredText.Proofs.Json.Tables
import StructuredText.Proofs.Json.TreeRequests
import StructuredText.Proofs.Text.Encoding

namespace StructuredText.Json

open CodePoint (ofChar)

/-! ## Texts without surrogates -/

instance (t : Text) : Decidable (Scalar t) := inferInstanceAs (Decidable (∀ c ∈ t, _))

theorem Ascii.scalar {t : Text} (h : Ascii t) : Scalar t := fun c hc =>
  not_surrogate_of_val_lt (lt_trans (h c hc) (by norm_num))

@[simp] theorem scalar_nil : Scalar [] := fun _ hc => absurd hc (by simp)

@[simp] theorem scalar_append {s t : Text} : Scalar (s ++ t) ↔ Scalar s ∧ Scalar t :=
  List.forall_mem_append

@[simp] theorem scalar_cons {c : CodePoint} {t : Text} :
    Scalar (c :: t) ↔ c.isSurrogate = false ∧ Scalar t :=
  List.forall_mem_cons

theorem scalar_flatMap {α : Type} {f : α → Text} {xs : List α} :
    Scalar (xs.flatMap f) ↔ ∀ x ∈ xs, Scalar (f x) :=
  List.forall_mem_flatMap

/-- There are bytes for the texts without surrogates. -/
theorem isOk_encode_iff_scalar {t : Text} : (Utf8.encode t).isOk ↔ Scalar t :=
  Utf8.isOk_encode.trans (forall₂_congr fun _ _ => Bool.eq_false_iff.symm)

theorem scalar_join {separator : Text} (h : Scalar separator) (pieces : List Text) :
    Scalar (Text.join separator pieces) ↔ ∀ t ∈ pieces, Scalar t :=
  forall_mem_flatten_intersperse h pieces

theorem Printable.not_surrogate {c : CodePoint} (h : Printable c) : c.isSurrogate = false :=
  not_surrogate_of_val_lt (lt_trans h.2 (by norm_num))

theorem scalar_ofInt (n : ℤ) : Scalar (Text.ofInt n) := fun c hc =>
  ((numberText_ofInt n).printable c hc).not_surrogate

theorem scalar_ofNat (n : ℕ) : Scalar (Text.ofNat n) := scalar_ofInt n

theorem scalar_toText (x : Double) : Scalar x.toText := fun c hc =>
  (printable_toText x c hc).not_surrogate

/-! ## Strings -/

/-- Escaping leaves no surrogates. -/
theorem scalar_escapeNonAscii (t : Text) : Scalar (escapeNonAscii t) :=
  (ascii_escapeNonAscii t).scalar

theorem scalar_escapeInString (c : CodePoint) :
    Scalar (escapeInString c) ↔ c.isSurrogate = false := by
  unfold escapeInString
  split_ifs with h₁ h₂ h₃ h₄ h₅ h₆ h₇ hcontrol
  · subst h₁; decide
  · subst h₂; decide
  · subst h₃; decide
  · subst h₄; decide
  · subst h₅; decide
  · subst h₆; decide
  · subst h₇; decide
  · exact iff_of_true (ascii_unicodeEscape _).scalar (not_surrogate_of_val_lt (by omega))
  · simp

/-- A string has its surrogates between quotes too. -/
theorem scalar_quote (s : Text) : Scalar (quote s) ↔ Scalar s := by
  have hmark : (ofChar '"').isSurrogate = false := by decide
  simp only [quote, scalar_cons, scalar_append, scalar_flatMap, scalar_escapeInString, hmark,
    scalar_nil, and_true, true_and]
  rfl

/-! ## Text -/

/-- **As text** a document has the surrogates of its strings and names, unless they are escaped. -/
theorem scalar_renderWith_iff (o : FormatOptions) (v : Value) :
    Scalar (renderWith o v) ↔ o.escapeNonAscii ∨ ∀ s ∈ v.strings, Scalar s := by
  unfold renderWith
  cases o.escapeNonAscii with
  | true => exact iff_of_true (scalar_escapeNonAscii _) (Or.inl rfl)
  | false =>
    have hrender := forall_mem_render_iff (fun c => Printable.not_surrogate) (by decide) o.layout v
    have hquote : (∀ s ∈ v.strings, Scalar (quote s)) ↔ ∀ s ∈ v.strings, Scalar s :=
      forall₂_congr fun s _ => scalar_quote s
    simp only [Bool.false_eq_true, if_false, false_or]
    exact hrender.trans hquote

/-! ## What the views show -/

/-- The strings and names of a value that stand at most so many levels inside. -/
def Value.stringsWithin : ℕ → Value → List Text
  | _, .string s => [s]
  | levels + 1, .array items => items.flatMap (stringsWithin levels)
  | levels + 1, .object members => members.flatMap fun m => m.1 :: stringsWithin levels m.2
  | _, _ => []

/-- The strings and names that a table shows.  Among objects one below the other only objects have
cells. -/
def Value.stringsInTable : Value → List Text
  | .array (first :: rest) =>
    if first.kind = .object then
      (first :: rest).flatMap fun item => if item.kind = .object then item.stringsWithin 1 else []
    else Value.stringsWithin 1 (.array (first :: rest))
  | v => v.stringsWithin 1

theorem forall_mem_stringsWithin_object {levels : ℕ} {members : List Member} {p : Text → Prop} :
    (∀ s ∈ (Value.object members).stringsWithin (levels + 1), p s) ↔
      ∀ m ∈ members, p m.1 ∧ ∀ s ∈ m.2.stringsWithin levels, p s := by
  simp only [Value.stringsWithin, List.forall_mem_flatMap, List.forall_mem_cons]

theorem forall_mem_stringsWithin_array {levels : ℕ} {items : List Value} {p : Text → Prop} :
    (∀ s ∈ (Value.array items).stringsWithin (levels + 1), p s) ↔
      ∀ item ∈ items, ∀ s ∈ item.stringsWithin levels, p s := by
  simp only [Value.stringsWithin, List.forall_mem_flatMap]

/-! ## Tables -/

/-- A cell has the surrogates of a string, and none of any other value. -/
theorem scalar_inCell (v : Value) : Scalar v.inCell ↔ ∀ s ∈ v.stringsWithin 0, Scalar s := by
  cases v with
  | null => simp [Value.inCell, Value.stringsWithin]
  | bool b => cases b <;> simp [Value.inCell, Value.stringsWithin] <;> decide
  | int n => simpa [Value.inCell, Value.stringsWithin] using scalar_ofInt n
  | float x => simpa [Value.inCell, Value.stringsWithin] using scalar_toText x
  | string s => simp [Value.inCell, Value.stringsWithin]
  | array items => simp [Value.inCell, Value.stringsWithin]; decide
  | object members => simp [Value.inCell, Value.stringsWithin]; decide

namespace Table

/-- The fields of a row have the surrogates of its cells. -/
theorem scalar_rowFields {t : Table} :
    (∀ fields ∈ t.rowFields, ∀ field ∈ fields, Scalar field) ↔
      ∀ row ∈ t.rows, ∀ column ∈ t.columns, Scalar (cellOf row column) := by
  have hfields (i : ℕ) (row : Row) :
      (∀ field ∈ (if t.numbered then Text.ofNat (i + 1) :: t.columns.map (cellOf row)
        else t.columns.map (cellOf row)), Scalar field) ↔
        ∀ column ∈ t.columns, Scalar (cellOf row column) := by
    split
    · rw [List.forall_mem_cons, List.forall_mem_map]
      exact and_iff_right (scalar_ofNat (i + 1))
    · rw [List.forall_mem_map]
  rw [rowFields]
  constructor
  · intro h row hrow
    obtain ⟨i, hi, rfl⟩ := List.mem_iff_getElem.mp hrow
    exact (hfields i _).mp (h _ (List.mem_mapIdx.mpr ⟨i, hi, rfl⟩))
  · intro h fields hmem
    obtain ⟨i, hi, rfl⟩ := List.mem_mapIdx.mp hmem
    exact (hfields i _).mpr (h _ (List.getElem_mem hi))

theorem scalar_headerFields {t : Table} :
    (∀ field ∈ t.headerFields, Scalar field) ↔ ∀ column ∈ t.columns, Scalar column := by
  unfold headerFields
  split
  · rw [List.forall_mem_cons]
    exact and_iff_right (by decide)
  · rfl

/-- A table has the surrogates of its columns and cells. -/
theorem scalar_render {t : Table} (hempty : t ≠ .empty) (hscalar : ∀ text, t ≠ .scalar text) :
    Scalar (t.render "\t") ↔ (∀ column ∈ t.columns, Scalar column) ∧
      ∀ row ∈ t.rows, ∀ column ∈ t.columns, Scalar (cellOf row column) := by
  have htab : Scalar ("\t" : Text) := by decide
  rw [render_eq hempty hscalar, scalar_join (by decide), List.forall_mem_map, List.forall_mem_cons,
    scalar_join htab, scalar_headerFields, ← scalar_rowFields]
  exact and_congr_right fun _ => forall₂_congr fun fields _ => scalar_join htab fields

/-! ### Cells of objects -/

/-- The cells of an object in columns that cover its names are those of its members. -/
theorem scalar_cellOf_object {members : List Member} (hnames : (namesOf members).Nodup)
    {columns : List Text} (hcolumns : namesOf members ⊆ columns) :
    (∀ column ∈ columns, Scalar (cellOf (Value.object members).inRow column)) ↔
      ∀ m ∈ members, Scalar m.2.inCell := by
  simp only [cellOf_inRow, Value.member?]
  constructor
  · intro h m hm
    have hmember : member? m.1 members = some m.2 := (member?_eq_some_iff hnames).mpr hm
    have hcell := h m.1 (hcolumns (mem_namesOf hm))
    rwa [hmember] at hcell
  · intro h column _
    cases hmember : member? column members with
    | none => exact scalar_nil
    | some v => exact h (column, v) ((member?_eq_some_iff hnames).mp hmember)

/-- A row of anything but an object shows nothing. -/
theorem scalar_cellOf_of_kind {v : Value} (h : v.kind ≠ .object) (column : Text) :
    Scalar (cellOf v.inRow column) := by
  cases v with
  | object members => exact absurd rfl h
  | null | bool | int | float | string | array => exact scalar_nil

/-- The table of objects one below the other. -/
theorem scalar_render_records {items : List Value} (hitems : WellFormedItems items) :
    Scalar ((Table.records (columnsOf items) (items.map Value.inRow)).render "\t") ↔
      ∀ item ∈ items, item.kind = .object → ∀ s ∈ item.stringsWithin 1, Scalar s := by
  rw [scalar_render (by simp) (by simp)]
  simp only [columns, rows, List.forall_mem_map]
  have hobject {members : List Member} (hmem : .object members ∈ items) :
      (∀ s ∈ (Value.object members).stringsWithin 1, Scalar s) ↔
        (∀ name ∈ namesOf members, Scalar name) ∧
          ∀ column ∈ columnsOf items, Scalar (cellOf (Value.object members).inRow column) := by
    have hnames : (namesOf members).Nodup := (wellFormed_of_mem hitems hmem).1
    rw [scalar_cellOf_object hnames fun name hname => mem_columnsOf.mpr ⟨_, hmem, hname⟩,
      forall_mem_stringsWithin_object, namesOf, List.forall_mem_map]
    simp only [← scalar_inCell, forall_and]
  constructor
  · rintro ⟨hcolumns, hcells⟩ item hitem hkind
    cases item with
    | object members =>
      refine (hobject hitem).mpr ⟨fun name hname => ?_, hcells _ hitem⟩
      exact hcolumns name (mem_columnsOf.mpr ⟨_, hitem, hname⟩)
    | null | bool | int | float | string | array => exact absurd hkind (by simp [Value.kind])
  · intro h
    constructor
    · intro name hname
      obtain ⟨item, hitem, hname⟩ := mem_columnsOf.mp hname
      cases item with
      | object members => exact ((hobject hitem).mp (h _ hitem rfl)).1 name hname
      | null | bool | int | float | string | array => exact absurd hname List.not_mem_nil
    · intro item hitem column hcolumn
      by_cases hkind : item.kind = .object
      · cases item with
        | object members => exact ((hobject hitem).mp (h _ hitem rfl)).2 column hcolumn
        | null | bool | int | float | string | array => exact absurd hkind (by simp [Value.kind])
      · exact scalar_cellOf_of_kind hkind column

end Table

/-- **As a table** a document has the surrogates of the strings and names that stand there. -/
theorem scalar_renderTable_iff {v : Value} (hv : v.WellFormed) :
    Scalar (v.inTable.render "\t") ↔ ∀ s ∈ v.stringsInTable, Scalar s := by
  cases v with
  | null => simp [Value.inTable, Table.render, Value.stringsInTable, Value.stringsWithin]; decide
  | bool b => exact scalar_inCell (.bool b)
  | int n => exact scalar_inCell (.int n)
  | float x => exact scalar_inCell (.float x)
  | string s => exact scalar_inCell (.string s)
  | object members =>
    have hkey : Scalar Table.keyColumn := by decide
    have hvalue : Scalar Table.valueColumn := by decide
    have hne : Table.keyColumn ≠ Table.valueColumn := by decide
    have hrow (m : Member) :
        (∀ column ∈ [Table.keyColumn, Table.valueColumn], Scalar
          (Table.cellOf [(Table.keyColumn, m.1), (Table.valueColumn, m.2.inCell)] column)) ↔
          Scalar m.1 ∧ ∀ s ∈ m.2.stringsWithin 0, Scalar s := by
      simp [Table.cellOf_cons, hne, scalar_inCell]
    have hcolumns : ∀ column ∈ [Table.keyColumn, Table.valueColumn], Scalar column := by
      simp [hkey, hvalue]
    rw [Value.inTable, Table.scalar_render (by simp) (by simp), Value.stringsInTable,
      forall_mem_stringsWithin_object]
    · simp only [Table.columns, Table.rows, Value.inRow, Value.members, List.forall_mem_map, hrow]
      exact and_iff_right hcolumns
    · simp
  | array items =>
    cases items with
    | nil => simp [Value.inTable, Table.render, Value.stringsInTable, Value.stringsWithin]; decide
    | cons first rest =>
      rw [Value.WellFormed] at hv
      rw [Value.inTable, Value.stringsInTable]
      split
      · rw [Table.scalar_render_records hv, List.forall_mem_flatMap]
        refine forall₂_congr fun item _ => ?_
        split <;> simp [*]
      · rw [Table.scalar_render (by simp) (by simp), forall_mem_stringsWithin_array]
        have hvalue : Scalar Table.valueColumn := by decide
        simp only [Table.columns, Table.rows, List.forall_mem_map, List.forall_mem_singleton,
          Table.cellOf_cons, if_true, scalar_inCell]
        exact and_iff_right hvalue

/-! ## Trees -/

namespace Node

theorem scalar_told (n : Node) :
    Scalar n.told ↔ ∀ s ∈ n.value.stringsWithin 0, Scalar s := by
  obtain ⟨v, label, depth, memory⟩ := n
  cases v with
  | null => simp [told, Value.stringsWithin]; decide
  | bool b => cases b <;> simp [told, Value.stringsWithin] <;> decide
  | int n => simpa [told, Value.stringsWithin] using scalar_ofInt n
  | float x => simpa [told, Value.stringsWithin] using scalar_toText x
  | string s => simp [told, Value.stringsWithin, scalar_quote]
  | array items =>
    refine iff_of_true ?_ (by simp [Value.stringsWithin])
    cases items with
    | nil => exact (by decide : Scalar ("[]" : Text))
    | cons item items =>
      simp only [told, Text.concat, List.flatten_cons, scalar_append, scalar_ofNat]
      decide
  | object members =>
    refine iff_of_true ?_ (by simp [Value.stringsWithin])
    cases members with
    | nil => exact (by decide : Scalar ("\x7b\x7d" : Text))
    | cons m members =>
      simp only [told, Text.concat, List.flatten_cons, scalar_append, scalar_ofNat]
      decide

theorem scalar_times (n : ℕ) {t : Text} (h : Scalar t) : Scalar (Text.times n t) := by
  intro c hc
  unfold Text.times at hc
  split at hc
  · exact absurd hc (by simp)
  · obtain ⟨t', ht', hc⟩ := List.mem_flatten.mp hc
    rw [List.eq_of_mem_replicate ht'] at hc
    exact h c hc

/-- A line has the surrogates of the node's name and of its value if that is a string. -/
theorem scalar_toldLine (n : Node) :
    Scalar (n.toldLine "  ") ↔
      (∀ label ∈ n.label, Scalar label) ∧ ∀ s ∈ n.value.stringsWithin 0, Scalar s := by
  have hindent : Scalar (Text.times n.depth.toNat "  ") := scalar_times _ (by decide)
  have hmarker : Scalar n.marker := by
    unfold marker
    split_ifs <;> decide
  have hcolon : Scalar (": " : Text) := by decide
  rw [toldLine, lineOf, scalar_append, scalar_append]
  cases hlabel : n.label with
  | none => simp [hindent, hmarker, scalar_told]
  | some label => simp [hindent, hmarker, hcolon, scalar_told]

/-- What a fresh node shows: itself, and its children if it is open. -/
theorem visible_fresh (v : Value) (label : Option Text) (depth : ℤ) :
    (fresh v label depth).visible = fresh v label depth ::
      if depth < openDepth then
        (entries v).flatMap fun e => (fresh e.2 (some e.1) (depth + 1)).visible
      else [] := by
  have hopened : (fresh v label depth).opened =
      if depth < openDepth ∧ v.isExpandable then
        (entries v).map fun e => fresh e.2 (some e.1) (depth + 1)
      else [] := by
    simp only [opened, expanded, isExpandable, fresh, Memory.expanded, Bool.and_eq_true,
      decide_eq_true_eq, and_assoc, and_self]
    rfl
  rw [visible_eq, hopened]
  congr 1
  by_cases hdepth : depth < openDepth
  · rw [if_pos hdepth]
    cases hv : v.isExpandable with
    | true => rw [if_pos ⟨hdepth, rfl⟩, List.flatMap_map]
    | false =>
      rw [if_neg (by simp), entries_eq_nil hv]
      rfl
  · rw [if_neg hdepth, if_neg fun h => hdepth h.1]
    rfl

/-- What a fresh node shows has the surrogates of its name and of what stands inside as deep as
nodes are open. -/
theorem scalar_visible_fresh (levels : ℕ) (v : Value) (label : Option Text) :
    (∀ n ∈ (fresh v label (openDepth - levels)).visible, Scalar (n.toldLine "  ")) ↔
      (∀ l ∈ label, Scalar l) ∧ ∀ s ∈ v.stringsWithin levels, Scalar s := by
  induction levels generalizing v label with
  | zero =>
    rw [visible_fresh, if_neg (by simp), List.forall_mem_singleton, scalar_toldLine]
    rfl
  | succ levels ih =>
    have hdepth : openDepth - ((levels + 1 : ℕ) : ℤ) + 1 = openDepth - levels := by
      push_cast
      ring
    rw [visible_fresh, if_pos (by simp), List.forall_mem_cons, List.forall_mem_flatMap, hdepth,
      scalar_toldLine]
    simp only [ih, Option.mem_some_iff, forall_eq']
    rw [and_assoc]
    refine and_congr_right fun _ => ?_
    cases v with
    | array items =>
      rw [forall_mem_stringsWithin_array]
      constructor
      · rintro ⟨-, h⟩ item hitem
        obtain ⟨i, hi, rfl⟩ := List.mem_iff_getElem.mp hitem
        exact (h _ (List.mem_mapIdx.mpr ⟨i, hi, rfl⟩)).2
      · intro h
        refine ⟨by simp [fresh, Value.stringsWithin], fun e he => ?_⟩
        obtain ⟨i, hi, rfl⟩ := List.mem_mapIdx.mp he
        exact ⟨scalar_ofNat i, h _ (List.getElem_mem hi)⟩
    | object members =>
      rw [forall_mem_stringsWithin_object]
      exact and_iff_right (by simp [fresh, Value.stringsWithin])
    | null | bool | int | float | string => simp [entries, fresh, Value.stringsWithin]

end Node

/-- **As a tree** a document has the surrogates of the strings and names that stand at most two
levels inside. -/
theorem scalar_renderTree_iff (v : Value) :
    Scalar (Text.unlines ((Node.ofValue v).visible.map (Node.toldLine "  "))) ↔
      ∀ s ∈ v.stringsWithin 2, Scalar s := by
  have hvisible := Node.scalar_visible_fresh 2 v none
  rw [Text.unlines, scalar_join (by decide), List.forall_mem_map]
  exact hvisible.trans (and_iff_right (by simp))

end StructuredText.Json
