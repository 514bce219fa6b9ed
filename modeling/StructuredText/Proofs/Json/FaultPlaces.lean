/-
# The places of faults

A text that cannot be written anew is refused with line and column, unless it has a value that is
refused without a place or too many containers inside each other.  Up to the place that is told, the
text is the beginning of a document.

* `PlacedAt` counts line and column of a place in a text, `placedAt_located` finds them in faults;
* `reformatWithin_refusal` gathers the refusals, `reformatWithin_fault_place` is about their places.
-/
import Mathlib
import StructuredText.Json.Reformat
import StructuredText.Proofs.Json.Failures
import StructuredText.Proofs.Json.MetValues
import StructuredText.Proofs.Json.PathIndependence

namespace StructuredText.Json

open CodePoint (ofChar)

/-! ## Lines and columns -/

/-- A diagnostic about the place with so many code points of a text before it: its line counts the
line feeds before, its column the steps from the last of them, if there is one. -/
structure PlacedAt (text : Text) (d : Diagnostic) (p : ℕ) : Prop where
  le : p ≤ text.length
  line : d.line = some (1 + ((text.take p).count (ofChar '\n') : ℤ))
  first : ofChar '\n' ∉ text.take p → d.column = some ((p : ℤ) + 1)
  later : ∀ i < p, text[i]? = some (ofChar '\n') →
    (∀ j, i < j → j < p → text[j]? ≠ some (ofChar '\n')) → d.column = some ((p : ℤ) - i)

/-- The column counts on from any line feed. -/
theorem column_after {t : Text} (ht : ofChar '\n' ∉ t) :
    (Position.after t).column = 1 + t.length ∧
      ∀ s, (Position.after (s ++ ofChar '\n' :: t)).column = 1 + t.length := by
  have hall : ∀ c ∈ t.reverse, decide (c ≠ ofChar '\n') = true := by
    rintro c hc
    rw [decide_eq_true_eq]
    rintro rfl
    exact ht (List.mem_reverse.mp hc)
  constructor
  · have htake : t.reverse.takeWhile (fun c => decide (c ≠ ofChar '\n')) = t.reverse :=
      List.takeWhile_eq_self_iff.mpr hall
    rw [Position.after, htake, List.length_reverse]
  · intro s
    have htake : (s ++ ofChar '\n' :: t).reverse.takeWhile (fun c => decide (c ≠ ofChar '\n')) =
        t.reverse := by
      rw [List.reverse_append, List.reverse_cons, List.append_assoc,
        List.takeWhile_append_of_pos hall]
      simp
    rw [Position.after, htake, List.length_reverse]

/-- A text cut at the last of its line feeds. -/
theorem exists_append_feed {t : Text} {i : ℕ} (hi : t[i]? = some (ofChar '\n'))
    (hlast : ∀ j, i < j → t[j]? ≠ some (ofChar '\n')) :
    ∃ s u, t = s ++ ofChar '\n' :: u ∧ s.length = i ∧ ofChar '\n' ∉ u := by
  obtain ⟨hlength, hget⟩ := List.getElem?_eq_some_iff.mp hi
  refine ⟨t.take i, t.drop (i + 1), ?_, List.length_take_of_le hlength.le, ?_⟩
  · rw [← hget, ← List.drop_eq_getElem_cons hlength, List.take_append_drop]
  · intro hmem
    obtain ⟨j, hj⟩ := List.mem_iff_getElem?.mp hmem
    rw [List.getElem?_drop] at hj
    exact hlast _ (by omega) hj

/-- **A located fault is told at the place where its remainder begins.** -/
theorem placedAt_located {text before rest : Text} (htext : text = before ++ rest)
    (complaint : Complaint) :
    PlacedAt text ((Fault.located complaint rest).diagnostic text) before.length := by
  have htake : text.take before.length = before := by rw [htext, List.take_left]
  have hposition : Position.ofRest text rest = .after before := by
    rw [Position.ofRest, htext, List.length_append, Nat.add_sub_cancel, List.take_left]
  have hcolumn : ((Fault.located complaint rest).diagnostic text).column =
      some ((Position.after before).column : ℤ) := by rw [← hposition]; rfl
  refine ⟨?_, ?_, ?_, ?_⟩
  · rw [htext, List.length_append]
    exact Nat.le_add_right _ _
  · rw [htake]
    have hline : ((Fault.located complaint rest).diagnostic text).line =
        some ((Position.after before).line : ℤ) := by rw [← hposition]; rfl
    rw [hline, Position.after]
    push_cast
    rfl
  · intro hfirst
    rw [htake] at hfirst
    rw [hcolumn, (column_after hfirst).1]
    push_cast
    rw [add_comm]
  · intro i hi hfeed hlast
    have hget : ∀ j < before.length, text[j]? = before[j]? := fun j hj => by
      rw [htext, List.getElem?_append_left hj]
    rw [hget i hi] at hfeed
    obtain ⟨s, u, hcut, rfl, hu⟩ := exists_append_feed hfeed fun j hj hfeed' => by
      obtain ⟨hlength, -⟩ := List.getElem?_eq_some_iff.mp hfeed'
      exact hlast j hj hlength ((hget j hlength).trans hfeed')
    have hlength : before.length = s.length + 1 + u.length := by
      rw [hcut, List.length_append, List.length_cons]
      omega
    rw [hcolumn, hlength, hcut, (column_after hu).2 s]
    push_cast
    ring_nf

/-! ## Refusals -/

/-- A refusal for too many containers inside each other. -/
inductive Refusal.TooDeep : Refusal → Prop
  | reading (bracket : CodePoint) : TooDeep (.unreadable (.tooDeep bracket))
  | sorting : TooDeep (.unreadable .tooDeepToSort)

theorem Refusal.TooDeep.unplaced {refusal : Refusal} (h : refusal.TooDeep) (text : Text) :
    (refusal.diagnostic text).line = none ∧ (refusal.diagnostic text).column = none := by
  cases h <;> exact ⟨rfl, rfl⟩

theorem Unreadable.unplaced {t : Text} {fault : Fault} (h : Unreadable t fault) (text : Text) :
    ((Refusal.unreadable fault).diagnostic text).line = none ∧
      ((Refusal.unreadable fault).diagnostic text).column = none := by
  simp [Refusal.diagnostic, Fault.diagnostic, h.position? text]

theorem Unreadable.not_tooDeep {t : Text} {fault : Fault} (h : Unreadable t fault) :
    ¬ (Refusal.unreadable fault).TooDeep := by
  intro hdeep
  cases h with
  | constant => cases hdeep
  | number _ refused => cases refused <;> cases hdeep

section Refusals

variable {limits : NestingLimits} {o : FormatOptions} {text : Text} {refusal : Refusal}

/-- What is not written anew is not read, or too deep to be sorted. -/
theorem refusal_cases (h : reformatWithin limits o text = .error refusal) :
    (∃ fault, parseWithin limits.reading text = .error fault ∧ refusal = .unreadable fault) ∨
      ∃ v, parseWithin limits.reading text = .ok v ∧ limits.sorting < v.levels ∧
        refusal = .unreadable .tooDeepToSort := by
  cases hread : parseWithin limits.reading text with
  | error fault =>
    by_cases hblank : text.isBlank
    · rw [reformatWithin_of_isBlank hblank] at h
      exact absurd h (by simp)
    · rw [reformatWithin, if_neg hblank, hread] at h
      exact Or.inl ⟨fault, rfl, (Except.error.inj h).symm⟩
  | ok v =>
    rw [reformatWithin_of_parseWithin hread] at h
    by_cases hdeep : o.sorting ∧ limits.sorting < v.levels
    · rw [arrange, if_pos hdeep.1, if_pos hdeep.2] at h
      exact Or.inr ⟨v, rfl, hdeep.2, (Except.error.inj h).symm⟩
    · obtain ⟨shaped, harrange⟩ : ∃ shaped, arrange limits o v = .ok shaped := by
        unfold arrange
        split
        · rename_i hsorting
          rw [if_neg fun hlevels => hdeep ⟨hsorting, hlevels⟩]
          exact ⟨_, rfl⟩
        · exact ⟨_, rfl⟩
      rw [harrange] at h
      exact absurd h (by simp [Except.mapError, bind, Except.bind])

/-- **Why a text is refused**: for what stands at a place up to which it is the beginning of a
document, for a value that is refused without a place, or for containers beyond the limits. -/
theorem reformatWithin_refusal (h : reformatWithin limits o text = .error refusal) :
    (∃ complaint before rest, text = before ++ rest ∧ Completable limits.reading before ∧
      refusal = .unreadable (.located complaint rest)) ∨
    (∃ fault, refusal = .unreadable fault ∧ Meets limits.reading text fault) ∨
    (refusal.TooDeep ∧ (limits.reading < text.length ∨ limits.sorting < limits.reading)) := by
  rcases refusal_cases h with ⟨fault, hread, rfl⟩ | ⟨v, hread, hsorting, rfl⟩
  · cases parseWithin_stops hread with
    | placed complaint htext hbefore => exact Or.inl ⟨_, _, _, htext, hbefore, rfl⟩
    | meets hmeets => exact Or.inr (Or.inl ⟨fault, rfl, hmeets⟩)
    | tooDeep htext hbefore =>
      have hlevels := hbefore.levels_le
      refine Or.inr (Or.inr ⟨.reading _, Or.inl ?_⟩)
      rw [htext, List.length_append, List.length_cons]
      omega
  · obtain ⟨-, hlevels, -⟩ := wellFormed_of_parseWithin hread
    exact Or.inr (Or.inr ⟨.sorting, Or.inr (hsorting.trans_le hlevels)⟩)

/-- A value that is refused without a place is the reason wherever it is met. -/
theorem refusal_of_meets (h : reformatWithin limits o text = .error refusal) {fault : Fault}
    (hmeets : Meets limits.reading text fault) : refusal = .unreadable fault := by
  have herror := hmeets.parseWithin_eq_error
  rcases refusal_cases h with ⟨fault', hread, rfl⟩ | ⟨v, hread, -⟩
  · rw [hread] at herror
    rw [Except.error.inj herror]
  · rw [hread] at herror
    exact absurd herror (by simp)

theorem unplaced_iff (h : reformatWithin limits o text = .error refusal) :
    (refusal.diagnostic text).line = none ∧ (refusal.diagnostic text).column = none ↔
      (∃ fault, refusal = .unreadable fault ∧ Meets limits.reading text fault) ∨
        refusal.TooDeep := by
  constructor
  · rintro ⟨hline, -⟩
    rcases reformatWithin_refusal h with
      ⟨complaint, before, rest, htext, -, rfl⟩ | hmeets | ⟨hdeep, -⟩
    · exact absurd ((placedAt_located htext complaint).line.symm.trans hline) (by simp)
    · exact Or.inl hmeets
    · exact Or.inr hdeep
  · rintro (⟨fault, rfl, left, before, t, -, -, ht⟩ | hdeep)
    · exact ht.unplaced text
    · exact hdeep.unplaced text

theorem exists_placedAt (h : reformatWithin limits o text = .error refusal)
    (hplace : ¬ ((refusal.diagnostic text).line = none ∧
      (refusal.diagnostic text).column = none)) :
    ∃ p, PlacedAt text (refusal.diagnostic text) p ∧
      Completable limits.reading (text.take p) := by
  rcases reformatWithin_refusal h with
    ⟨complaint, before, rest, htext, hbefore, rfl⟩ | hmeets | ⟨hdeep, -⟩
  · refine ⟨before.length, placedAt_located htext complaint, ?_⟩
    rw [htext, List.take_left]
    exact hbefore
  · exact absurd ((unplaced_iff h).mpr (Or.inl hmeets)) hplace
  · exact absurd ((unplaced_iff h).mpr (Or.inr hdeep)) hplace

/-- Limits that a text cannot reach are no reason. -/
theorem not_tooDeep (h : reformatWithin limits o text = .error refusal)
    (hreading : text.length ≤ limits.reading) (hsorting : limits.reading ≤ limits.sorting) :
    ¬ refusal.TooDeep := by
  intro hdeep
  rcases reformatWithin_refusal h with
    ⟨complaint, before, rest, -, -, rfl⟩ | ⟨fault, rfl, left, before, t, -, -, ht⟩ | ⟨-, hlimits⟩
  · cases hdeep
  · exact ht.not_tooDeep hdeep
  · omega

end Refusals

/-- **The place of a fault is sound.**  A refusal has neither line nor column just if it is for a
value that is the name of a constant or a number out of range and stands where one is due, or for
too many containers inside each other; such a value is always the reason.  Otherwise it is about a
place up to which the text can be completed to a document.  Limits that the text cannot reach are no
reason. -/
theorem reformatWithin_fault_place {limits : NestingLimits} {o : FormatOptions} {text : Text}
    {refusal : Refusal} (h : reformatWithin limits o text = .error refusal) :
    ((refusal.diagnostic text).line = none ∧ (refusal.diagnostic text).column = none ↔
      (∃ fault, refusal = .unreadable fault ∧ Meets limits.reading text fault) ∨
        refusal.TooDeep) ∧
    (∀ fault, Meets limits.reading text fault → refusal = .unreadable fault) ∧
    (¬ ((refusal.diagnostic text).line = none ∧ (refusal.diagnostic text).column = none) →
      ∃ p, PlacedAt text (refusal.diagnostic text) p ∧
        Completable limits.reading (text.take p)) ∧
    (text.length ≤ limits.reading → limits.reading ≤ limits.sorting → ¬ refusal.TooDeep) := by
  refine ⟨unplaced_iff h, ?_, ?_, ?_⟩
  · intro fault hmeets
    exact refusal_of_meets h hmeets
  · intro hplace
    exact exists_placedAt h hplace
  · intro hreading hsorting
    exact not_tooDeep h hreading hsorting

/-- A comma missing between two items, each on its line. -/
theorem reformatWithin_fault_place_comma :
    ∃ refusal, reformatWithin ⟨7, 7⟩ {} "[[]\n[]]" = .error refusal ∧ ¬ refusal.TooDeep ∧
      ∃ p, PlacedAt "[[]\n[]]" (refusal.diagnostic "[[]\n[]]") p ∧
        Completable 7 (("[[]\n[]]" : Text).take p) := by
  have hrefused : reformatWithin ⟨7, 7⟩ {} "[[]\n[]]" =
      .error (.unreadable (.located .commaExpected "[]]")) := by cbv
  obtain ⟨-, -, hplace, hlimits⟩ := reformatWithin_fault_place hrefused
  have hline : (Refusal.diagnostic "[[]\n[]]" (.unreadable (.located .commaExpected "[]]"))).line ≠
      none := by
    simp [Refusal.diagnostic, Fault.diagnostic, Fault.position?]
  exact ⟨_, hrefused, hlimits (by decide) (by decide), hplace fun hnone => hline hnone.1⟩

end StructuredText.Json
