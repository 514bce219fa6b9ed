/-
# Members and their names

Members are merged one by one while an object is read.  What comes out has every name once, where
it first stood, with the value that was written last.

* `merges_membersOf` says so, and `Merges.unique` that nothing else fits;
* `membersOf_eq_self_iff`: nothing is lost just if no name is repeated;
* `member?_eq_some_iff` looks up a name that is not repeated.
-/
import Mathlib
import StructuredText.Json.Value
import StructuredText.Proofs.Json.Grammar

namespace StructuredText.Json

@[simp] theorem namesOf_nil : namesOf [] = [] := rfl

@[simp] theorem namesOf_cons (m : Member) (members : List Member) :
    namesOf (m :: members) = m.1 :: namesOf members := rfl

@[simp] theorem namesOf_append (members members' : List Member) :
    namesOf (members ++ members') = namesOf members ++ namesOf members' :=
  List.map_append

theorem mem_namesOf {members : List Member} {m : Member} (h : m ∈ members) :
    m.1 ∈ namesOf members :=
  List.mem_map_of_mem h

/-! ## Names once -/

/-- One name more changes nothing if it was met before. -/
theorem eraseDups_concat (names : List Text) (name : Text) :
    (names ++ [name]).eraseDups =
      if name ∈ names then names.eraseDups else names.eraseDups ++ [name] := by
  rw [List.eraseDups_append]
  by_cases hname : name ∈ names
  · simp [hname, List.removeAll]
  · simp [hname, List.removeAll, List.eraseDups_cons]

theorem nodup_eraseDups (names : List Text) : names.eraseDups.Nodup := by
  induction names using List.reverseRecOn with
  | nil => exact List.nodup_nil
  | append_singleton names name ih =>
    rw [eraseDups_concat]
    split
    · exact ih
    · next hname =>
      rw [← List.concat_eq_append]
      exact ih.concat (mt List.mem_eraseDups.mp hname)

/-! ## Putting one member -/

theorem namesOf_putMember (key : Text) (value : Value) (members : List Member) :
    namesOf (putMember key value members) =
      if key ∈ namesOf members then namesOf members else namesOf members ++ [key] := by
  induction members with
  | nil => rfl
  | cons m members ih =>
    obtain ⟨k, v⟩ := m
    rw [putMember]
    by_cases hk : k = key
    · rw [if_pos hk]
      simp [hk]
    · rw [if_neg hk, namesOf_cons, ih]
      by_cases hmem : key ∈ namesOf members
      · simp [hmem]
      · simp [hmem, Ne.symm hk]

/-- A member put among others replaces the one of its name and leaves the rest alone. -/
theorem mem_putMember {key : Text} {value : Value} {members : List Member} {m : Member}
    (hnodup : (namesOf members).Nodup) (h : m ∈ putMember key value members) :
    m = (key, value) ∨ m ∈ members ∧ m.1 ≠ key := by
  induction members with
  | nil => exact Or.inl (List.mem_singleton.mp h)
  | cons m' members ih =>
    obtain ⟨k, v⟩ := m'
    obtain ⟨hnew, hrest⟩ := List.nodup_cons.mp hnodup
    rw [putMember] at h
    by_cases hk : k = key
    · rw [if_pos hk] at h
      rcases List.mem_cons.mp h with rfl | hm
      · exact Or.inl (by rw [hk])
      · refine Or.inr ⟨List.mem_cons_of_mem _ hm, ?_⟩
        intro hname
        have hmem : m.1 ∈ namesOf members := mem_namesOf hm
        rw [hname, ← hk] at hmem
        exact hnew hmem
    · rw [if_neg hk] at h
      rcases List.mem_cons.mp h with rfl | hm
      · exact Or.inr ⟨List.mem_cons_self, hk⟩
      · rcases ih hrest hm with rfl | ⟨hm, hne⟩
        · exact Or.inl rfl
        · exact Or.inr ⟨List.mem_cons_of_mem _ hm, hne⟩

/-! ## Putting one after the other -/

@[simp] theorem membersOf_nil : membersOf [] = [] := rfl

theorem membersOf_append (written : List Member) (m : Member) :
    membersOf (written ++ [m]) = putMember m.1 m.2 (membersOf written) := by
  rw [membersOf, List.foldl_append]
  rfl

theorem namesOf_membersOf (written : List Member) :
    namesOf (membersOf written) = (namesOf written).eraseDups := by
  induction written using List.reverseRecOn with
  | nil => rfl
  | append_singleton written m ih =>
    rw [membersOf_append, namesOf_putMember, ih, namesOf_append, namesOf_cons, namesOf_nil,
      eraseDups_concat]
    simp only [List.mem_eraseDups]

theorem nodup_namesOf_membersOf (written : List Member) : (namesOf (membersOf written)).Nodup := by
  rw [namesOf_membersOf]
  exact nodup_eraseDups _

/-- Every name keeps its first place and takes its last value. -/
theorem merges_membersOf (written : List Member) : Merges written (membersOf written) := by
  refine ⟨namesOf_membersOf written, ?_⟩
  -- Members are put at the end, so the induction is from the end; a member put last takes the
  -- place of the one of its name, and for any other one the last value stays what it was.
  induction written using List.reverseRecOn with
  | nil => simp
  | append_singleton written m ih =>
    intro m' hm'
    rw [membersOf_append] at hm'
    rcases mem_putMember (nodup_namesOf_membersOf written) hm' with rfl | ⟨hm', hne⟩
    · exact ⟨written, [], rfl, by simp⟩
    · obtain ⟨before, after, rfl, hlast⟩ := ih m' hm'
      refine ⟨before, after ++ [m], by simp, ?_⟩
      simp_all

/-! ## Nothing else fits -/

/-- The member written last under its name is found first from the end. -/
theorem find?_reverse_of_last {written before after : List Member} {m : Member}
    (h : written = before ++ m :: after) (hlast : m.1 ∉ namesOf after) :
    written.reverse.find? (fun m' => m'.1 = m.1) = some m := by
  have hnone : after.reverse.find? (fun m' => m'.1 = m.1) = none := by
    rw [List.find?_eq_none]
    intro m' hm' heq
    have hname : m'.1 = m.1 := by simpa using heq
    exact hlast (hname ▸ mem_namesOf (List.mem_reverse.mp hm'))
  rw [h]
  simp [List.find?_append, hnone]

theorem Merges.unique {written members members' : List Member} (h : Merges written members)
    (h' : Merges written members') : members = members' := by
  have hnames : namesOf members = namesOf members' := h.names.trans h'.names.symm
  have hlength : members.length = members'.length := by
    simpa [namesOf] using congrArg List.length hnames
  refine List.ext_getElem hlength fun i hi hi' => ?_
  have hname : members[i].1 = members'[i].1 := by
    have := List.getElem_of_eq hnames (i := i) (by simpa [namesOf] using hi)
    simpa [namesOf] using this
  obtain ⟨before, after, heq, hlast⟩ := h.last _ (List.getElem_mem hi)
  obtain ⟨before', after', heq', hlast'⟩ := h'.last _ (List.getElem_mem hi')
  have hfound := find?_reverse_of_last heq hlast
  rw [hname, find?_reverse_of_last heq' hlast'] at hfound
  exact (Option.some.inj hfound).symm

/-! ## Names that are not repeated -/

/-- Without a repeated name nothing is merged. -/
theorem Merges.refl {written : List Member} (h : (namesOf written).Nodup) :
    Merges written written := by
  have hnames : ∀ {names : List Text}, names.Nodup → names.eraseDups = names := by
    intro names hnodup
    induction names with
    | nil => rfl
    | cons name names ih =>
      obtain ⟨hnew, hrest⟩ := List.nodup_cons.mp hnodup
      rw [List.eraseDups_cons, List.filter_eq_self.mpr, ih hrest]
      intro other hother
      simp only [Bool.not_eq_true', beq_eq_false_iff_ne]
      rintro rfl
      exact hnew hother
  refine ⟨(hnames h).symm, fun m hm => ?_⟩
  obtain ⟨before, after, rfl⟩ := List.append_of_mem hm
  refine ⟨before, after, rfl, ?_⟩
  rw [namesOf_append, namesOf_cons] at h
  exact (List.nodup_cons.mp (List.nodup_append.mp h).2.1).1

theorem membersOf_eq_self_iff (written : List Member) :
    membersOf written = written ↔ (namesOf written).Nodup := by
  constructor
  · intro h
    rw [← h]
    exact nodup_namesOf_membersOf written
  · exact fun h => (merges_membersOf written).unique (Merges.refl h)

/-- Where nothing is lost by merging, nothing is changed. -/
theorem Merges.eq_of_length {written members : List Member} (h : Merges written members)
    (hlength : written.length = members.length) : members = written := by
  -- The names are the same set on both sides and as many, so none of them was repeated.
  have hnames : (namesOf members).toFinset = (namesOf written).toFinset := by
    ext name
    simp only [List.mem_toFinset, h.names, List.mem_eraseDups]
  have hmembers : (namesOf members).Nodup := by
    rw [h.unique (merges_membersOf written)]
    exact nodup_namesOf_membersOf written
  have hcard : (namesOf written).toFinset.card = (namesOf written).length := by
    rw [← hnames, List.toFinset_card_of_nodup hmembers]
    simpa [namesOf] using hlength.symm
  have hwritten : (namesOf written).Nodup :=
    Multiset.toFinset_card_eq_card_iff_nodup.mp hcard
  exact h.unique (Merges.refl hwritten)

/-! ## Looking up a name -/

theorem member?_cons (key : Text) (m : Member) (members : List Member) :
    member? key (m :: members) = if m.1 = key then some m.2 else member? key members := by
  unfold member?
  by_cases hm : m.1 = key
  · rw [List.find?_cons_of_pos (by simpa using hm), if_pos hm]
    rfl
  · rw [List.find?_cons_of_neg (by simpa using hm), if_neg hm]

/-- There is no member of a name that none of them has. -/
theorem member?_eq_none_iff {key : Text} {members : List Member} :
    member? key members = none ↔ key ∉ namesOf members := by
  induction members with
  | nil => simp [member?]
  | cons m members ih =>
    rw [member?_cons, namesOf_cons, List.mem_cons, not_or, ← ih]
    by_cases hm : m.1 = key
    · simp [hm]
    · simp [hm, Ne.symm hm]

/-- Where no name is repeated, a name leads to its member. -/
theorem member?_eq_some_iff {key : Text} {v : Value} {members : List Member}
    (hnames : (namesOf members).Nodup) : member? key members = some v ↔ (key, v) ∈ members := by
  induction members with
  | nil => simp [member?]
  | cons m members ih =>
    obtain ⟨hnew, hrest⟩ := List.nodup_cons.mp hnames
    rw [member?_cons, List.mem_cons, ← ih hrest]
    by_cases hm : m.1 = key
    · have hnone : member? key members = none := member?_eq_none_iff.mpr (hm ▸ hnew)
      simp [hnone, Prod.ext_iff, hm, eq_comm]
    · simp [hm, Prod.ext_iff, Ne.symm hm]

/-- Where no name is repeated, the order of members does not matter to looking up a name. -/
theorem member?_perm {members members' : List Member} (hperm : members.Perm members')
    (hnames : (namesOf members).Nodup) (key : Text) :
    member? key members = member? key members' := by
  have hnames' : (namesOf members').Nodup := (hperm.map Prod.fst).nodup_iff.mp hnames
  refine Option.ext fun v => ?_
  rw [member?_eq_some_iff hnames, member?_eq_some_iff hnames', hperm.mem_iff]

end StructuredText.Json
