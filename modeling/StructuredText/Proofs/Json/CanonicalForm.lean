/-
# A canonical form

Two values that differ in nothing but the order of members, at any depth, have the same value with
sorted keys, and no other two have.  So a text that is written anew with sorted keys is a canonical
form of the document that it holds.

* `Value.Reorders` relates values up to the order of members;
* `sortMembers_eq_of_perm`: members without repeated names are sorted in one way only;
* `Value.sortKeys_eq_iff` compares sorting with the relation;
* `reformatWithin_canonical` says what this means for texts.
-/
import Mathlib
import StructuredText.Proofs.Json.Parts
import StructuredText.Proofs.Json.PathIndependence

namespace StructuredText.Json

/-! ## Up to the order of members -/

mutual

/-- Two values that are the same but for the order in which objects list their members, at any
depth.  Scalars and the order of items are the same. -/
inductive Value.Reorders : Value → Value → Prop
  | null : Value.Reorders .null .null
  | bool (b : Bool) : Value.Reorders (.bool b) (.bool b)
  | int (n : ℤ) : Value.Reorders (.int n) (.int n)
  | float (x : Double) : Value.Reorders (.float x) (.float x)
  | string (s : Text) : Value.Reorders (.string s) (.string s)
  | array {items items' : List Value} (inside : ItemsReorder items items') :
      Value.Reorders (.array items) (.array items')
  | object {members moved members' : List Member} (perm : members.Perm moved)
      (inside : MembersReorder moved members') : Value.Reorders (.object members) (.object members')

/-- Items that are the same, one by one, up to the order of members. -/
inductive ItemsReorder : List Value → List Value → Prop
  | nil : ItemsReorder [] []
  | cons {v v' : Value} {items items' : List Value} (first : v.Reorders v')
      (rest : ItemsReorder items items') : ItemsReorder (v :: items) (v' :: items')

/-- Members that have the same names, one by one, and the same values up to the order of members. -/
inductive MembersReorder : List Member → List Member → Prop
  | nil : MembersReorder [] []
  | cons {key : Text} {v v' : Value} {members members' : List Member} (first : v.Reorders v')
      (rest : MembersReorder members members') :
      MembersReorder ((key, v) :: members) ((key, v') :: members')

end

/-! ## One way of sorting -/

/-- Of two sorted arrangements of the same members, without a repeated name, there is one only. -/
theorem sortMembers_eq_of_perm {members members' : List Member} (hperm : members.Perm members')
    (hnames : (namesOf members).Nodup) : sortMembers members = sortMembers members' := by
  have hsorted := sortMembers_perm members
  have hsorted' := sortMembers_perm members'
  refine List.Perm.eq_of_pairwise ?_ (pairwise_sortMembers members)
    (pairwise_sortMembers members') (hsorted.trans (hperm.trans hsorted'.symm))
  intro m m' hm hm' hle hle'
  have hmem : m ∈ members := hsorted.mem_iff.mp hm
  have hmem' : m' ∈ members := hperm.mem_iff.mpr (hsorted'.mem_iff.mp hm')
  exact List.inj_on_of_nodup_map hnames hmem hmem' (List.le_antisymm hle hle')

/-! ## Sorting decides the relation -/

theorem itemsReorder_of_map_eq {items items' : List Value}
    (h : ∀ v ∈ items, ∀ w : Value, v.sortKeys = w.sortKeys → v.Reorders w)
    (heq : items.map Value.sortKeys = items'.map Value.sortKeys) : ItemsReorder items items' := by
  induction items generalizing items' with
  | nil =>
    rw [List.map_nil, eq_comm, List.map_eq_nil_iff] at heq
    rw [heq]
    exact .nil
  | cons v items ih =>
    cases items' with
    | nil => exact absurd heq (by simp)
    | cons v' items' =>
      obtain ⟨hfirst, hrest⟩ := List.cons.inj heq
      exact .cons (h v List.mem_cons_self v' hfirst)
        (ih (fun w hw => h w (List.mem_cons_of_mem v hw)) hrest)

theorem membersReorder_of_map_eq {members members' : List Member}
    (h : ∀ m ∈ members, ∀ w : Value, m.2.sortKeys = w.sortKeys → m.2.Reorders w)
    (heq : members.map sortInside = members'.map sortInside) :
    MembersReorder members members' := by
  induction members generalizing members' with
  | nil =>
    rw [List.map_nil, eq_comm, List.map_eq_nil_iff] at heq
    rw [heq]
    exact .nil
  | cons m members ih =>
    cases members' with
    | nil => exact absurd heq (by simp)
    | cons m' members' =>
      obtain ⟨key, v⟩ := m
      obtain ⟨key', v'⟩ := m'
      obtain ⟨hfirst, hrest⟩ := List.cons.inj heq
      obtain ⟨rfl, hvalue⟩ := Prod.mk.inj hfirst
      exact .cons (h (key, v) List.mem_cons_self v' hvalue)
        (ih (fun m hm => h m (List.mem_cons_of_mem _ hm)) hrest)

/-- Values that are the same once sorted differ in the order of members only. -/
theorem Value.reorders_of_sortKeys_eq {v w : Value} (h : v.sortKeys = w.sortKeys) :
    v.Reorders w := by
  -- Sorting keeps the kind of a value, so the other one is of the same kind.
  induction v using Value.induction generalizing w with
  | null =>
    cases w <;> simp only [Value.sortKeys, reduceCtorEq] at h
    exact .null
  | bool b =>
    cases w <;> simp only [Value.sortKeys, reduceCtorEq, Value.bool.injEq] at h
    exact h ▸ .bool b
  | int n =>
    cases w <;> simp only [Value.sortKeys, reduceCtorEq, Value.int.injEq] at h
    exact h ▸ .int n
  | float x =>
    cases w <;> simp only [Value.sortKeys, reduceCtorEq, Value.float.injEq] at h
    exact h ▸ .float x
  | string s =>
    cases w <;> simp only [Value.sortKeys, reduceCtorEq, Value.string.injEq] at h
    exact h ▸ .string s
  | array items ih =>
    cases w with
    | array items' =>
      rw [Value.sortKeys_array, Value.sortKeys_array, Value.array.injEq] at h
      exact .array (itemsReorder_of_map_eq (fun v hv w => ih v hv) h)
    | _ => exact absurd h (by simp [Value.sortKeys])
  | object members ih =>
    cases w with
    | object members' =>
      rw [Value.sortKeys_object, Value.sortKeys_object, Value.object.injEq] at h
      -- Sorted alike, they are permutations of each other; so they are before they are sorted.
      have hperm : (members'.map sortInside).Perm (members.map sortInside) := by
        have hsorted := sortMembers_perm (members.map sortInside)
        rw [h] at hsorted
        exact (sortMembers_perm _).symm.trans hsorted
      obtain ⟨moved, heq, hmoved⟩ :=
        (congrFun₂ (List.eq_map_comp_perm sortInside) _ _).mpr hperm
      exact .object hmoved.symm
        (membersReorder_of_map_eq (fun m hm w => ih m (hmoved.mem_iff.mp hm)) heq.symm)
    | _ => exact absurd h (by simp [Value.sortKeys])

theorem ItemsReorder.map_eq {items items' : List Value} (h : ItemsReorder items items')
    (hinside : ∀ v ∈ items, ∀ w : Value, v.Reorders w → v.sortKeys = w.sortKeys) :
    items.map Value.sortKeys = items'.map Value.sortKeys := by
  induction items generalizing items' with
  | nil =>
    cases h
    rfl
  | cons v items ih =>
    cases h with
    | cons first rest =>
      rw [List.map_cons, List.map_cons, hinside v List.mem_cons_self _ first,
        ih rest fun w hw => hinside w (List.mem_cons_of_mem v hw)]

theorem MembersReorder.map_eq {members members' : List Member} (h : MembersReorder members members')
    (hinside : ∀ m ∈ members, ∀ w : Value, m.2.Reorders w → m.2.sortKeys = w.sortKeys) :
    members.map sortInside = members'.map sortInside := by
  induction members generalizing members' with
  | nil =>
    cases h
    rfl
  | cons m members ih =>
    cases h with
    | @cons key v v' _ members' first rest =>
      have hfirst : sortInside (key, v) = sortInside (key, v') :=
        Prod.ext rfl (hinside (key, v) List.mem_cons_self v' first)
      rw [List.map_cons, List.map_cons, hfirst,
        ih rest fun m hm => hinside m (List.mem_cons_of_mem _ hm)]

/-- Well-formed values that differ in the order of members only are the same once sorted. -/
theorem Value.Reorders.sortKeys_eq {v w : Value} (hv : v.WellFormed) (h : v.Reorders w) :
    v.sortKeys = w.sortKeys := by
  induction v using Value.induction generalizing w with
  | null | bool | int | float | string =>
    cases h
    rfl
  | array items ih =>
    rw [Value.WellFormed] at hv
    cases h with
    | array inside =>
      rw [Value.sortKeys_array, Value.sortKeys_array,
        inside.map_eq fun v hmem w => ih v hmem (wellFormed_of_mem hv hmem)]
  | object members ih =>
    rw [Value.WellFormed] at hv
    cases h with
    | @object _ moved _ perm inside =>
      have hmoved : ∀ m ∈ moved, m ∈ members := fun m hm => perm.mem_iff.mpr hm
      have hnames : (namesOf (members.map sortInside)).Nodup := by
        rw [namesOf_map_sortInside]
        exact hv.1
      rw [Value.sortKeys_object, Value.sortKeys_object,
        sortMembers_eq_of_perm (perm.map sortInside) hnames,
        inside.map_eq fun m hm w =>
          ih m (hmoved m hm) (wellFormed_of_mem_members hv.2 (hmoved m hm))]

/-- **Sorting decides whether values are the same up to the order of members.** -/
theorem Value.sortKeys_eq_iff {v : Value} (hv : v.WellFormed) (w : Value) :
    v.sortKeys = w.sortKeys ↔ v.Reorders w :=
  ⟨Value.reorders_of_sortKeys_eq, Value.Reorders.sortKeys_eq hv⟩

/-- Sorting changes nothing but the order of members. -/
theorem Value.reorders_sortKeys (v : Value) : v.Reorders v.sortKeys :=
  Value.reorders_of_sortKeys_eq v.sortKeys_sortKeys.symm

/-! ## Ascending names -/

/-- Every object inside, and the value itself if it is one, lists its members in strictly ascending
order of their names. -/
def Value.Ascends (v : Value) : Prop :=
  ∀ members, Value.object members ∈ v.parts → (namesOf members).Pairwise (· < ·)

theorem pairwise_lt_sortMembers {members : List Member} (hnames : (namesOf members).Nodup) :
    (namesOf (sortMembers members)).Pairwise (· < ·) := by
  have hle : (namesOf (sortMembers members)).Pairwise (· ≤ ·) :=
    List.pairwise_map.mpr (pairwise_sortMembers members)
  have hne : (namesOf (sortMembers members)).Pairwise (· ≠ ·) :=
    ((sortMembers_perm members).map Prod.fst).nodup_iff.mpr hnames
  exact (hle.and hne).imp fun h => Std.lt_of_le_of_ne h.1 h.2

/-- **A well-formed value with sorted keys ascends.** -/
theorem Value.ascends_sortKeys {v : Value} (hv : v.WellFormed) : v.sortKeys.Ascends := by
  induction v using Value.induction with
  | null | bool | int | float | string =>
    intro members hmem
    simp [Value.sortKeys, Value.parts] at hmem
  | array items ih =>
    intro members hmem
    rw [Value.WellFormed] at hv
    rw [Value.sortKeys_array, mem_parts_array] at hmem
    rcases hmem with hmem | ⟨w, hw, hmem⟩
    · exact absurd hmem (by simp)
    · obtain ⟨v, hmemv, rfl⟩ := List.mem_map.mp hw
      exact ih v hmemv (wellFormed_of_mem hv hmemv) members hmem
  | object members ih =>
    intro members' hmem
    rw [Value.WellFormed] at hv
    rw [Value.sortKeys_object, mem_parts_object] at hmem
    rcases hmem with hmem | ⟨m, hm, hmem⟩
    · rw [Value.object.inj hmem]
      refine pairwise_lt_sortMembers ?_
      rw [namesOf_map_sortInside]
      exact hv.1
    · obtain ⟨m', hm', rfl⟩ := List.mem_map.mp ((sortMembers_perm _).mem_iff.mp hm)
      exact ih m' hm' (wellFormed_of_mem_members hv.2 hm') members' hmem

/-! ## Texts -/

/-- A text that is read is written with sorted keys, if it is not too deep for that. -/
theorem reformatWithin_of_sorting {limits : NestingLimits} {o : FormatOptions} {x : Text}
    {v : Value} (hsorting : o.sorting = true) (h : parseWithin limits.reading x = .ok v)
    (hlevels : v.levels ≤ limits.sorting) :
    reformatWithin limits o x = .ok ⟨renderWith o v.sortKeys, some v.sortKeys⟩ := by
  have harrange : arrange limits o v = .ok v.sortKeys := by
    rw [arrange, if_pos hsorting, if_neg (not_lt.mpr hlevels)]
  rw [reformatWithin_of_parseWithin h, harrange]
  rfl

/-- **Writing with sorted keys computes a canonical form.**  For texts without surrogates that are
read and are not too deep to be sorted: what is written anew is the document that was read, up to
the order of members, and all its objects ascend; and two texts come out the same just if their
documents are the same up to the order of members. -/
theorem reformatWithin_canonical {limits : NestingLimits} {o : FormatOptions} {x y : Text}
    {v w : Value} (hsorting : o.sorting = true) (hx : Scalar x) (hy : Scalar y)
    (hreadx : parseWithin limits.reading x = .ok v) (hready : parseWithin limits.reading y = .ok w)
    (hlevelsx : v.levels ≤ limits.sorting) (hlevelsy : w.levels ≤ limits.sorting) :
    ∃ outx outy document, reformatWithin limits o x = .ok outx ∧
      reformatWithin limits o y = .ok outy ∧ outx.document = some document ∧ document.Ascends ∧
      v.Reorders document ∧ (outx.text = outy.text ↔ v.Reorders w) := by
  obtain ⟨hv, -, hpairv⟩ := wellFormed_of_parseWithin hreadx
  obtain ⟨hw, -, hpairw⟩ := wellFormed_of_parseWithin hready
  refine ⟨_, _, v.sortKeys, reformatWithin_of_sorting hsorting hreadx hlevelsx,
    reformatWithin_of_sorting hsorting hready hlevelsy, rfl, Value.ascends_sortKeys hv,
    v.reorders_sortKeys, ?_⟩
  rw [← Value.sortKeys_eq_iff hv]
  constructor
  · exact eq_of_renderWith_eq hv.sortKeys hw.sortKeys
      (fun _ s hs => hpairv hx s (Value.mem_strings_sortKeys.mp hs))
      (fun _ s hs => hpairw hy s (Value.mem_strings_sortKeys.mp hs))
  · intro heq
    show renderWith o v.sortKeys = renderWith o w.sortKeys
    rw [heq]

/-- An object with its members one way round and the other, in an array. -/
def bothWays : Value × Value :=
  (.array [.object [("b", .array []), ("a", .string "é")]],
    .array [.object [("a", .string "é"), ("b", .array [])]])

/-- Both ways come out the same. -/
theorem reformatWithin_canonical_moved :
    ∃ outx outy, reformatWithin ⟨3, 3⟩ { style := .sorted } "[\x7b\"b\":[],\"a\":\"é\"\x7d]" =
        .ok outx ∧
      reformatWithin ⟨3, 3⟩ { style := .sorted } "[ \x7b\"a\": \"é\", \"b\": []\x7d ]" =
        .ok outy ∧ outx.text = outy.text := by
  have hx : Scalar "[\x7b\"b\":[],\"a\":\"é\"\x7d]" := by
    unfold Scalar
    decide
  have hy : Scalar "[ \x7b\"a\": \"é\", \"b\": []\x7d ]" := by
    unfold Scalar
    decide
  have hsorting : FormatOptions.sorting { style := .sorted } = true := rfl
  have hreadx : parseWithin (NestingLimits.mk 3 3).reading "[\x7b\"b\":[],\"a\":\"é\"\x7d]" =
      .ok bothWays.1 := by cbv
  have hready : parseWithin (NestingLimits.mk 3 3).reading
      "[ \x7b\"a\": \"é\", \"b\": []\x7d ]" = .ok bothWays.2 := by cbv
  have hreorders : bothWays.1.Reorders bothWays.2 :=
    .array (.cons (.object (.swap _ _ _) (.cons (.string _) (.cons (.array .nil) .nil))) .nil)
  have hlevels : bothWays.1.levels ≤ 3 := by decide
  have hlevels' : bothWays.2.levels ≤ 3 := by decide
  obtain ⟨outx, outy, -, houtx, houty, -, -, -, htext⟩ :=
    reformatWithin_canonical hsorting hx hy hreadx hready hlevels hlevels'
  exact ⟨outx, outy, houtx, houty, htext.mpr hreorders⟩

end StructuredText.Json
