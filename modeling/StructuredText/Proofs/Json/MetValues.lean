/-
# Values that are met

The reader gets to every place where a value is due: what is complete in front of it does not keep
it, and what fails there is the fault of the whole text.

* `Opens.readValue_eq_error`: a container fails like the value that is due in it, and
  `Awaits.parseWithin_eq_error` says the same of a document;
* `Meets.parseWithin_eq_error`: a value that is refused without a place is always reached.
-/
import Mathlib
import StructuredText.Json.Parser
import StructuredText.Proofs.Json.Acceptance
import StructuredText.Proofs.Json.Beginnings
import StructuredText.Proofs.Json.Failures
import StructuredText.Proofs.Json.Unreadable

namespace StructuredText.Json

open CodePoint (ofChar)

/-! ## Containers around a value that fails -/

section Ahead

variable {item : (t : Text) → Reading Value t} {levels : ℕ} {opening u s : Text} {fault : Fault}

/-- Items that are complete do not keep the reader from what fails behind their comma. -/
theorem readItems_ahead (hitem : ∀ tree, Completes item levels tree) {t : Text} {items : List Tree}
    (h : ItemsText t items) (fits : ∀ tree ∈ items, tree.Fits levels)
    (herror : ∀ before read, readItems item opening (skipBlanks u) before read = .error fault)
    (hs : skipBlanks (t ++ ofChar ',' :: u) = s) (before : s.length < opening.length)
    (read : List Value) : readItems item opening s before read = .error fault := by
  have hcomma := ends_value (c := ofChar ',') (by decide)
  induction items generalizing t s read with
  | nil => cases h
  | cons tree items ih =>
    obtain ⟨⟨v, hvalue⟩, hfits⟩ := List.forall_mem_cons.mp fits
    cases h with
    | @last w t₁ w' _ hw hv hw' =>
      have hread := hitem tree t₁ _ hv (hw'.endsNumber (hcomma u).2)
      rw [hvalue] at hread
      simp only [List.append_assoc] at hs
      rw [skipBlanks_append hw (hv.noBlank _)] at hs
      subst hs
      obtain ⟨before', hstep⟩ :=
        readItems_more hread (skipBlanks_append hw' (hcomma u).1) before read
      rw [hstep]
      exact herror before' _
    | @more w t₁ w' ts _ _ hw hv hw' hrest =>
      have hread := hitem tree t₁ _ hv (hw'.endsNumber (hcomma (ts ++ ofChar ',' :: u)).2)
      rw [hvalue] at hread
      simp only [List.append_assoc, List.cons_append] at hs
      rw [skipBlanks_append hw (hv.noBlank _)] at hs
      subst hs
      obtain ⟨before', hstep⟩ :=
        readItems_more hread (skipBlanks_append hw' (hcomma _).1) before read
      rw [hstep]
      exact ih hrest hfits rfl before' _

/-- Members that are complete do not keep the reader from what fails behind their comma. -/
theorem readMembers_ahead (hitem : ∀ tree, Completes item levels tree) {t : Text}
    {members : List (List StringPart × Tree)} (h : MembersText t members)
    (fits : ∀ m ∈ members, m.2.Fits levels)
    (herror : ∀ before read, readMembers item opening (skipBlanks u) before read = .error fault)
    (hs : skipBlanks (t ++ ofChar ',' :: u) = s) (before : s.length < opening.length)
    (read : List Member) : readMembers item opening s before read = .error fault := by
  have hcomma := ends_value (c := ofChar ',') (by decide)
  induction members generalizing t s read with
  | nil => cases h
  | cons m members ih =>
    obtain ⟨⟨v, hvalue⟩, hfits⟩ := List.forall_mem_cons.mp fits
    cases h with
    | last hm =>
      obtain ⟨w, hw, hread⟩ := memberOutcome?_append (hitem m.2) hm (hcomma u).2 hs
      rw [hvalue] at hread
      obtain ⟨before', hstep⟩ :=
        readMembers_more hread (skipBlanks_append hw (hcomma u).1) before read
      rw [hstep]
      exact herror before' _
    | @more t ts _ _ hm hrest =>
      rw [List.append_assoc, List.cons_append] at hs
      obtain ⟨w, hw, hread⟩ := memberOutcome?_append (hitem m.2) hm (hcomma _).2 hs
      rw [hvalue] at hread
      obtain ⟨before', hstep⟩ :=
        readMembers_more hread (skipBlanks_append hw (hcomma _).1) before read
      rw [hstep]
      exact ih hrest hfits rfl before' _

theorem readArray_of_error {c : CodePoint} {r r' : Text} (hskip : skipBlanks r = c :: r')
    (hc : c ≠ ofChar ']') (bracket : CodePoint)
    (h : ∀ before read, readItems item (bracket :: r) (c :: r') before read = .error fault) :
    readArray item bracket r = .error fault := by
  obtain ⟨_, before, hread⟩ := readArray_of_next hskip item bracket
  rw [hread, if_neg hc, h]
  rfl

theorem readObject_of_error {c : CodePoint} {r r' : Text} (hskip : skipBlanks r = c :: r')
    (hc : c ≠ ofChar '}') (brace : CodePoint)
    (h : ∀ before read, readMembers item (brace :: r) (c :: r') before read = .error fault) :
    readObject item brace r = .error fault := by
  obtain ⟨_, before, hread⟩ := readObject_of_next hskip item brace
  rw [hread, if_neg hc, h]
  rfl

/-- An array fails at the item that is due behind complete ones. -/
theorem readArray_ahead (hitem : ∀ tree, Completes item levels tree) {ts r : Text} {c : CodePoint}
    {items : List Tree} (ahead : ItemsAhead ts items) (fits : ∀ tree ∈ items, tree.Fits levels)
    (hskip : skipBlanks u = c :: r) (hc : c ≠ ofChar ']') (herror : item (c :: r) = .error fault)
    (bracket : CodePoint) : readArray item bracket (ts ++ u) = .error fault := by
  cases ahead with
  | none => exact readArray_of_error hskip hc bracket (readItems_of_error herror)
  | @some ts _ hitems =>
    obtain ⟨c', r', hfirst, hc'⟩ := hitems.skipBlanks_eq_cons (ofChar ',' :: u)
    rw [List.append_assoc, List.singleton_append]
    refine readArray_of_error hfirst (hc'.ne (by decide) (by decide)) _ fun before read => ?_
    refine readItems_ahead hitem hitems fits (fun before' read' => ?_) hfirst before read
    exact readItems_of_error (by rw [hskip, herror]) before' read'

/-- An object fails at the member that is due behind complete ones. -/
theorem readObject_ahead (hitem : ∀ tree, Completes item levels tree) {ts r : Text}
    {members : List (List StringPart × Tree)} (ahead : MembersAhead ts members)
    (fits : ∀ m ∈ members, m.2.Fits levels) (hskip : skipBlanks u = ofChar '"' :: r)
    (herror : ∀ opening before read,
      readMembers item opening (ofChar '"' :: r) before read = .error fault)
    (brace : CodePoint) : readObject item brace (ts ++ u) = .error fault := by
  cases ahead with
  | none => exact readObject_of_error hskip (by decide) brace (herror _)
  | @some ts _ hmembers =>
    obtain ⟨r', hfirst⟩ := hmembers.skipBlanks_eq_cons (ofChar ',' :: u)
    rw [List.append_assoc, List.singleton_append]
    refine readObject_of_error hfirst (by decide) _ fun before read => ?_
    refine readMembers_ahead hitem hmembers fits (fun before' read' => ?_) hfirst before read
    revert before'
    rw [hskip]
    exact fun before' => herror _ before' read'

end Ahead

/-- A text that begins neither with white space nor with the end of an array nor with a byte order
mark. -/
def Visible (t : Text) : Prop :=
  ∃ c r, t = c :: r ∧ isJsonBlank c = false ∧ c ≠ ofChar ']' ∧ c ≠ byteOrderMark

theorem KeyText.exists_cons {k : Text} (h : KeyText k) (rest : Text) :
    ∃ r, k ++ rest = ofChar '"' :: r := by
  obtain ⟨-, -⟩ := h
  exact ⟨_, List.cons_append⟩

/-- A name is read with its colon. -/
theorem KeyText.exists_readKey {k : Text} (h : KeyText k) (rest : Text) :
    ∃ key, outcome? (readKey (k ++ rest)) = some (key, rest) := by
  obtain @⟨k, w, parts, hk, hw⟩ := h
  have htext : ofChar '"' :: (k ++ ofChar '"' :: (w ++ [ofChar ':'])) ++ rest =
      ofChar '"' :: (k ++ ofChar '"' :: (w ++ ofChar ':' :: rest)) := by simp
  rw [htext]
  exact ⟨joinUnits parts, readKey_append hk hw⟩

theorem Opens.visible {left : ℕ} {o : Text} (h : Opens left o) (t : Text) : Visible (o ++ t) := by
  cases h with
  | item => exact ⟨_, _, rfl, by decide, by decide, by decide⟩
  | member => exact ⟨_, _, rfl, by decide, by decide, by decide⟩

/-- **A container fails like the value that is due in it.** -/
theorem Opens.readValue_eq_error {left : ℕ} {o t : Text} {fault : Fault} (h : Opens left o)
    (ht : Visible t) (herror : readValue left t = .error fault) :
    readValue (left + 1) (o ++ t) = .error fault := by
  obtain ⟨c, r, rfl, hblank, hclose, -⟩ := ht
  have hskip : ∀ {w}, Blanks w → skipBlanks (w ++ c :: r) = c :: r := fun hw =>
    skipBlanks_append hw (noBlank_cons hblank r)
  cases h with
  | @item ts w items ahead fits hw =>
    rw [List.cons_append, List.append_assoc, readValue_array]
    exact readArray_ahead (readValue_append · left) ahead fits (hskip hw) hclose herror _
  | @member ts w k w' members ahead fits hw hk hw' =>
    obtain ⟨q, hname⟩ := hk.exists_cons (w' ++ c :: r)
    obtain ⟨key, hkey⟩ := hk.exists_readKey (w' ++ c :: r)
    have htext : ofChar '{' :: (ts ++ (w ++ (k ++ w'))) ++ c :: r =
        ofChar '{' :: (ts ++ (w ++ ofChar '"' :: q)) := by simp [← hname]
    rw [htext, readValue_object]
    rw [hname] at hkey
    refine readObject_ahead (readValue_append · left) ahead fits
      (skipBlanks_append hw (noBlank_cons (by decide) q)) (fun opening => ?_) _
    exact readMembers_of_error hkey (by rw [hskip hw', herror])

/-- **A document fails like the value that is due in it.** -/
theorem Awaits.parseWithin_eq_error {levels left : ℕ} {b t : Text} {fault : Fault}
    (h : Awaits levels left b) (ht : Visible t) (herror : readValue left t = .error fault) :
    parseWithin levels (b ++ t) = .error fault := by
  induction h generalizing t with
  | @start w hw =>
    obtain ⟨c, r, rfl, hblank, -, hmark⟩ := ht
    have hskip : skipBlanks (w ++ c :: r) = c :: r := skipBlanks_append hw (noBlank_cons hblank r)
    have hhead : (w ++ c :: r).head? ≠ some byteOrderMark := by
      cases w with
      | nil => simpa using hmark
      | cons b w =>
        rintro h
        obtain rfl : b = byteOrderMark := by simpa using h
        exact absurd (hw _ List.mem_cons_self) (by decide)
    have hread : readValue levels (skipBlanks (w ++ c :: r)) = .error fault := by
      rw [hskip, herror]
    rw [parseWithin, if_neg hhead, hread]
  | inside _ ho ih =>
    rw [List.append_assoc]
    exact ih (ho.visible t) (ho.readValue_eq_error ht herror)

/-! ## Values that are refused without a place -/

/-- How a text begins whose value is refused without a place. -/
theorem Unreadable.exists_cons {t : Text} {fault : Fault} (h : Unreadable t fault) :
    ∃ c r, t = c :: r ∧ (c.isDigit ∨ c ∈ ("-NI" : Text)) := by
  cases h with
  | @constant name h rest =>
    simp only [constants, List.mem_cons, List.not_mem_nil, or_false] at h
    rcases h with rfl | rfl | rfl <;> exact ⟨_, _, rfl, Or.inr (by decide)⟩
  | number h =>
    obtain ⟨c, r, rfl, hc⟩ := h.number.exists_cons
    refine ⟨c, _, rfl, ?_⟩
    rcases hc with rfl | hc
    · exact Or.inr (by decide)
    · exact Or.inl hc

/-- **A value that is refused without a place is always reached.** -/
theorem Meets.parseWithin_eq_error {levels : ℕ} {text : Text} {fault : Fault}
    (h : Meets levels text fault) : parseWithin levels text = .error fault := by
  obtain ⟨left, before, t, rfl, hbefore, ht⟩ := h
  have hscalar := ht.readScalar_eq
  obtain ⟨c, r, rfl, hc⟩ := ht.exists_cons
  have hne : ∀ {x : Char}, (ofChar x).isDigit = false → ofChar x ∉ ("-NI" : Text) →
      c ≠ ofChar x := by
    rintro x hdigit hother rfl
    rcases hc with hc | hc
    · rw [hdigit] at hc
      exact absurd hc (by simp)
    · exact hother hc
  have hvisible : Visible (c :: r) := by
    refine ⟨c, r, rfl, ?_, hne (by decide) (by decide), ?_⟩
    · rcases hc with hc | hc
      · exact StartsValue.not_blank (Or.inl hc)
      · exact (show ∀ d ∈ ("-NI" : Text), isJsonBlank d = false by decide) c hc
    · rintro rfl
      exact absurd hc (by decide)
  refine hbefore.parseWithin_eq_error hvisible ?_
  rw [readValue_scalar left r (hne (by decide) (by decide)) (hne (by decide) (by decide))
    (hne (by decide) (by decide)), hscalar]

end StructuredText.Json
