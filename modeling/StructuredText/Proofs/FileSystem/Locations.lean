/-
# Where names lead

A place that names lead to goes up some directories first and down after that, or it goes down from
the root of all files.  Written as a name, such a place leads to itself.

* `Location.Reduced` tells the places of that form, `Location.reduced_ofName` that every name leads
  to one of them;
* `Location.ofName_name` leads back from the name of a place.
-/
import Mathlib
import StructuredText.FileSystem
import StructuredText.Proofs.Text.Lines

namespace StructuredText

open CodePoint (ofChar)

/-! ## Parts -/

/-- A part as it stands between slashes. -/
def IsPart (part : Text) : Prop := part ≠ [] ∧ ofChar '/' ∉ part

/-- A part that goes down into a directory. -/
def GoesDown (part : Text) : Prop := IsPart part ∧ part ≠ ("." : Text) ∧ part ≠ (".." : Text)

theorem isPart_up : IsPart ".." := ⟨by decide, by decide⟩

namespace FileName

theorem isPart_of_mem_parts {name part : Text} (h : part ∈ parts name) : IsPart part := by
  obtain ⟨hpart, hne⟩ := List.mem_filter.mp h
  exact ⟨of_decide_eq_true hne, Text.not_mem_of_mem_splitOn hpart⟩

/-- Parts with slashes between them are the parts of their name. -/
theorem parts_join {ps : List Text} (h : ∀ part ∈ ps, IsPart part) :
    parts (Text.join [ofChar '/'] ps) = ps := by
  rcases List.eq_nil_or_concat ps with rfl | ⟨_, _, hps⟩
  · rfl
  · have hne : ps ≠ [] := by simp [hps]
    rw [parts, Text.splitOn_join hne fun part hpart => (h part hpart).2]
    exact List.filter_eq_self.mpr fun part hpart => decide_eq_true (h part hpart).1

/-- A slash in front adds no part. -/
theorem parts_cons_slash (name : Text) : parts (ofChar '/' :: name) = parts name := by
  rw [parts, Text.splitOn_cons_self]
  rfl

/-- Parts with slashes between them make no name that begins at the root. -/
theorem isRooted_join {ps : List Text} (h : ∀ part ∈ ps, IsPart part) :
    isRooted (Text.join [ofChar '/'] ps) = false := by
  cases ps with
  | nil => rfl
  | cons part ps =>
    obtain ⟨hne, hslash⟩ := h part List.mem_cons_self
    obtain ⟨c, part, rfl⟩ := List.exists_cons_of_ne_nil hne
    have hc : c ≠ ofChar '/' := fun hc => hslash (by rw [hc]; exact List.mem_cons_self)
    cases ps with
    | nil => simp [isRooted, hc]
    | cons next ps => simp [isRooted, hc]

end FileName

/-! ## Reduced places -/

namespace Location

/-- A place that goes up and then down, or down from the root. -/
inductive Reduced : Location → Prop
  | upAndDown (ups : ℕ) {downs : List Text} (h : ∀ part ∈ downs, GoesDown part) :
      Reduced (List.replicate ups (".." : Text) ++ downs)
  | fromRoot {downs : List Text} (h : ∀ part ∈ downs, GoesDown part) :
      Reduced (("/" : Text) :: downs)

theorem enter_of_goesDown {place : Location} {part : Text} (h : GoesDown part) :
    place.enter part = place ++ [part] := by
  rw [enter, if_neg h.2.1, if_neg h.2.2]

/-- Going up from a place that was entered goes back. -/
theorem enter_up_concat {place : Location} {part : Text} (h : GoesDown part) :
    (place ++ [part]).enter ".." = place := by
  have hroot : place ++ [part] ≠ root := by
    intro heq
    have hslash : part = ("/" : Text) := by
      have hlast := congrArg List.getLast? heq
      simpa [root] using hlast
    exact h.1.2 (by rw [hslash]; decide)
  have hups : ¬ (place ++ [part]).all fun name => name = (".." : Text) := by
    simp [h.2.2]
  rw [enter, if_neg (by decide), if_pos rfl, if_neg hroot, if_neg hups, List.dropLast_concat]

/-- Going up from where only ups lead goes further up. -/
theorem enter_up_replicate (ups : ℕ) :
    enter (List.replicate ups (".." : Text)) ".." = List.replicate (ups + 1) (".." : Text) := by
  have hroot : List.replicate ups (".." : Text) ≠ root := by
    intro heq
    have hmem : ("/" : Text) ∈ List.replicate ups (".." : Text) := by
      rw [heq]
      exact List.mem_singleton_self _
    exact absurd (List.eq_of_mem_replicate hmem) (by decide)
  rw [enter, if_neg (by decide), if_pos rfl, if_neg hroot, if_pos (by simp),
    List.replicate_succ']

namespace Reduced

variable {place : Location} {part : Text}

/-- Without any step down. -/
theorem replicate (ups : ℕ) : Reduced (List.replicate ups (".." : Text)) := by
  have h := upAndDown ups (fun _ hpart => absurd hpart List.not_mem_nil)
  rwa [List.append_nil] at h

theorem root : Reduced root := fromRoot fun _ hpart => absurd hpart List.not_mem_nil

/-- Going up keeps a place reduced: it takes back the last step down, if there is one. -/
theorem enter_up (h : Reduced place) : Reduced (place.enter "..") := by
  cases h with
  | @upAndDown ups downs hdowns =>
    rcases List.eq_nil_or_concat' downs with rfl | ⟨downs, last, rfl⟩
    · rw [List.append_nil, enter_up_replicate]
      exact replicate (ups + 1)
    · rw [← List.append_assoc, enter_up_concat (hdowns last (by simp))]
      exact upAndDown ups fun part hpart => hdowns part (List.mem_append_left _ hpart)
  | @fromRoot downs hdowns =>
    rcases List.eq_nil_or_concat' downs with rfl | ⟨downs, last, rfl⟩
    · exact root
    · rw [← List.cons_append, enter_up_concat (hdowns last (by simp))]
      exact fromRoot fun part hpart => hdowns part (List.mem_append_left _ hpart)

/-- Going down keeps a place reduced. -/
theorem concat (h : Reduced place) (hpart : GoesDown part) : Reduced (place ++ [part]) := by
  cases h with
  | upAndDown ups hdowns =>
    rw [List.append_assoc]
    exact upAndDown ups (List.forall_mem_append.mpr ⟨hdowns, List.forall_mem_singleton.mpr hpart⟩)
  | fromRoot hdowns =>
    rw [List.cons_append]
    exact fromRoot (List.forall_mem_append.mpr ⟨hdowns, List.forall_mem_singleton.mpr hpart⟩)

/-- One step leads from a reduced place to a reduced place. -/
theorem enter (h : Reduced place) (hpart : IsPart part) : Reduced (place.enter part) := by
  by_cases hstay : part = ("." : Text)
  · rwa [Location.enter, if_pos hstay]
  by_cases hup : part = (".." : Text)
  · rw [hup]
    exact h.enter_up
  · have hdown : GoesDown part := ⟨hpart, hstay, hup⟩
    rw [enter_of_goesDown hdown]
    exact h.concat hdown

/-- Many steps do. -/
theorem foldl_enter {ps : List Text} (hps : ∀ part ∈ ps, IsPart part) (h : Reduced place) :
    Reduced (ps.foldl Location.enter place) := by
  induction ps generalizing place with
  | nil => exact h
  | cons part ps ih =>
    rw [List.forall_mem_cons] at hps
    exact ih hps.2 (h.enter hps.1)

end Reduced

theorem reduced_start (name : Text) : Reduced (start name) := by
  unfold start
  split
  · exact .root
  · exact .replicate 0

/-- **Every name leads to a reduced place.** -/
theorem reduced_ofName (name : Text) : Reduced (ofName name) :=
  (reduced_start name).foldl_enter fun _ => FileName.isPart_of_mem_parts

/-! ## Names of places -/

theorem foldl_enter_downs {downs : List Text} (h : ∀ part ∈ downs, GoesDown part)
    (place : Location) : downs.foldl enter place = place ++ downs := by
  induction downs generalizing place with
  | nil => rw [List.foldl_nil, List.append_nil]
  | cons part downs ih =>
    rw [List.forall_mem_cons] at h
    rw [List.foldl_cons, enter_of_goesDown h.1, ih h.2, List.append_assoc, List.singleton_append]

theorem foldl_enter_ups (ups before : ℕ) :
    (List.replicate ups (".." : Text)).foldl enter (List.replicate before (".." : Text)) =
      List.replicate (before + ups) (".." : Text) := by
  induction ups generalizing before with
  | zero => rfl
  | succ ups ih =>
    rw [List.replicate_succ, List.foldl_cons, enter_up_replicate, ih, Nat.add_right_comm,
      Nat.add_assoc]

/-- Parts with slashes between them lead where they lead one by one. -/
theorem ofName_name_of_isPart {place : Location} (h : ∀ part ∈ place, IsPart part) :
    ofName place.name = place.foldl enter [] := by
  cases place with
  | nil => rfl
  | cons first rest =>
    have hslash : first ≠ ("/" : Text) := by
      rintro rfl
      exact (h _ List.mem_cons_self).2 (by decide)
    have hname : name (first :: rest) = Text.join [ofChar '/'] (first :: rest) := by
      rw [name, if_neg hslash]
      rfl
    rw [hname, ofName, FileName.parts_join h, start, FileName.isRooted_join h]
    rfl

/-- A slash and parts with slashes between them lead down from the root. -/
theorem ofName_name_root {downs : List Text} (h : ∀ part ∈ downs, IsPart part) :
    ofName (name (("/" : Text) :: downs)) = downs.foldl enter root := by
  have hname : name (("/" : Text) :: downs) = ofChar '/' :: Text.join [ofChar '/'] downs := by
    rw [name, if_pos rfl]
    rfl
  have hrooted : FileName.isRooted (ofChar '/' :: Text.join [ofChar '/'] downs) = true := by
    simp [FileName.isRooted]
  rw [hname, ofName, FileName.parts_cons_slash, FileName.parts_join h, start, if_pos hrooted]

/-- The name of a reduced place leads there. -/
theorem Reduced.ofName_name {place : Location} (h : Reduced place) : ofName place.name = place := by
  cases h with
  | @upAndDown ups downs hdowns =>
    have hparts : ∀ part ∈ List.replicate ups (".." : Text) ++ downs, IsPart part := by
      intro part hpart
      rcases List.mem_append.mp hpart with hup | hdown
      · rw [List.eq_of_mem_replicate hup]
        exact isPart_up
      · exact (hdowns part hdown).1
    have hups := foldl_enter_ups ups 0
    rw [List.replicate_zero, Nat.zero_add] at hups
    rw [ofName_name_of_isPart hparts, List.foldl_append, hups, foldl_enter_downs hdowns]
  | fromRoot hdowns =>
    rw [ofName_name_root fun part hpart => (hdowns part hpart).1, foldl_enter_downs hdowns]
    rfl

/-- **The name of a place that a name leads to leads there as well.** -/
@[simp] theorem ofName_name (name : Text) : ofName (ofName name).name = ofName name :=
  (reduced_ofName name).ofName_name

end Location

end StructuredText
