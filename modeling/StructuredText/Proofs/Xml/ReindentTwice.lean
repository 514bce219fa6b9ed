/-
# Reindenting twice

A document that was laid out is a document again, and laying it out again changes nothing.  There
are two ways out of this.  After an error that is only noted, the check looks at nothing behind the
root element but what the blanks of XML lead to, and the layout may lead to more.  And blanks written
into entities may make these too long.

* `EndsAstray` and `Overcharges` are the two ways out;
* `fault?_regaps`: other blanks between its brackets do no harm to a document;
* `reindent_reindent`: laying out twice is laying out once.
-/
import Mathlib
import StructuredText.Proofs.Xml.FollowingDocuments
import StructuredText.Proofs.Xml.Relaying

namespace StructuredText.Xml

open Text CodePoint

/-! ## The check of a text -/

/-- A text is checked as far as some rest of it, and this is the journal then. -/
def ChecksTo (t rest : Text) (journal : Journal) : Prop :=
  Scan.run Scan.document {} (withoutMark t) = .ok ((), rest, journal)

theorem withoutMark_suffix (t : Text) : withoutMark t <:+ t := by
  unfold withoutMark
  split
  · split
    · exact List.suffix_cons _ _
    · exact List.suffix_refl _
  · exact List.suffix_refl _

theorem Regaps.withoutMark {t t' : Text} (h : Regaps false t t') :
    Regaps false (withoutMark t) (withoutMark t') := by
  cases h with
  | nil => exact .nil false
  | @cons _ c _ _ rest =>
    dsimp only [Xml.withoutMark]
    by_cases hmark : c.val = 0xFEFF
    · have hc : c ≠ ofChar '>' := by
        rintro rfl
        exact absurd hmark (by decide)
      rw [if_pos hmark, if_pos hmark]
      rwa [beq_eq_false_iff_ne.mpr hc] at rest
    · rw [if_neg hmark, if_neg hmark]
      exact .cons rest

theorem fault?_eq (t : Text) :
    fault? t = match Scan.run Scan.document {} (withoutMark t) with
      | .ok (_, _, journal) => journal.refusal?
      | .error fault => some fault := by
  unfold fault? Scan.run
  rcases Scan.document {} (withoutMark t) with fault | ⟨_, _, journal⟩ <;> rfl

/-- A text without a fault is checked as far as some rest, and the journal holds no refusal. -/
theorem fault?_eq_none {t : Text} :
    fault? t = none ↔ ∃ rest journal, ChecksTo t rest journal ∧ journal.refusal? = none := by
  rw [fault?_eq]
  unfold ChecksTo
  rcases Scan.run Scan.document {} (withoutMark t) with fault | ⟨⟨⟩, rest, journal⟩
  · simp
  · simp

theorem Journal.Alike.refusal?_eq_none {j j' : Journal} (h : j.Alike j') (hj : j.refusal? = none) :
    j'.refusal? = none := by
  unfold Journal.refusal? at hj ⊢
  rw [← h.endsInError]
  split at hj
  · next hends =>
    rw [if_pos hends, ← Option.not_isSome_iff_eq_none, ← h.first, hj]
    simp
  · next hends => rw [if_neg hends]

/-! ## The ways out -/

/-- The check of a text is through at a blank that is none of XML. -/
def EndsAstray (t : Text) : Prop := ∃ rest journal, ChecksTo t rest journal ∧ Scan.Strays rest

/-- Only after an error is the check through before the end. -/
theorem EndsAstray.isSome_first {t : Text} (h : EndsAstray t) :
    ∃ rest journal, ChecksTo t rest journal ∧ journal.first.isSome := by
  obtain ⟨_, journal, hcheck, c, r, rfl, -⟩ := h
  rcases Scan.isEmpty_or_isSome_first hcheck with hempty | hfirst
  · exact absurd hempty (by simp)
  · exact ⟨_, journal, hcheck, hfirst⟩

/-- A text of which all blanks are blanks of XML does not end astray. -/
theorem EndsAstray.exists_blank {t : Text} (h : EndsAstray t) :
    ∃ c ∈ t, c.isBlank ∧ ¬ isXmlBlank c := by
  obtain ⟨_, journal, hcheck, c, r, rfl, hc⟩ := h
  exact ⟨c, ((Scan.suffix_run hcheck).trans (withoutMark_suffix t)).subset List.mem_cons_self, hc⟩

/-- The entities of a text cost something, and another text is refused for what its entities cost,
which is what is told unless an error was noted before. -/
def Overcharges (t t' : Text) : Prop :=
  ∃ rest journal fault, ChecksTo t rest journal ∧ journal.cost ≠ 0 ∧ fault? t' = some fault ∧
    (journal.first = none → fault.complaint = .entitiesTooLong)

/-- **Other blanks between its brackets do no harm to a document.** -/
theorem fault?_regaps {t t' : Text} (h : Regaps false t t') (ht : fault? t = none)
    (hend : ¬ EndsAstray t) : fault? t' = none ∨ Overcharges t t' := by
  obtain ⟨rest, journal, hcheck, hrefusal⟩ := fault?_eq_none.mp ht
  have hfollows := Scan.follows_document h.withoutMark (Journal.Alike.refl {}) hcheck
  rcases hfollows with hstrays | ⟨-, ⟨⟩, rest', -, hanswer⟩
  · exact absurd ⟨rest, journal, hcheck, hstrays⟩ hend
  · rcases hanswer with ⟨journal', hcheck', halike⟩ | ⟨hcost, fault, hrun, hfault⟩
    · exact Or.inl (fault?_eq_none.mpr
        ⟨rest', journal', hcheck', halike.refusal?_eq_none hrefusal⟩)
    · refine Or.inr ⟨rest, journal, fault, hcheck, hcost, ?_, hfault⟩
      rw [fault?_eq, hrun]

/-! ## Laying out twice -/

/-- **Laying out twice is laying out once.**  What is laid out is accepted and stays as it is, unless
the check of the text ends astray, or the entities are too long when they are laid out. -/
theorem reindent_reindent {text indent out : Text} (hindent : IsSpaces indent)
    (h : reindent text indent = .ok out) (hend : ¬ EndsAstray text.unifyLineEnds.trim) :
    (out ≠ [] → check out = none) ∧ reindent out indent = .ok out ∨
      out ≠ [] ∧ Overcharges text.unifyLineEnds.trim out := by
  have hagain := reindent_of_reindent hindent h
  by_cases hempty : out = []
  · rw [if_pos hempty, ← hempty] at hagain
    exact Or.inl ⟨fun hne => absurd hempty hne, hagain⟩
  · rw [if_neg hempty] at hagain
    have hregaps : Regaps false text.unifyLineEnds.trim out ∧
        fault? text.unifyLineEnds.trim = none := by
      rw [reindent_eq_ok] at h
      split at h
      · exact absurd h hempty
      · rw [h.2]
        exact ⟨regaps_placeLines hindent.all_isXmlBlank _, (inspect_eq_ok.mp h.1).2⟩
    rcases fault?_regaps hregaps.1 hregaps.2 hend with hfault | hovercharges
    · have hcheck : check out = none := by rw [check, hfault, Option.map_none]
      rw [hcheck] at hagain
      exact Or.inl ⟨fun _ => hcheck, hagain⟩
    · exact Or.inr ⟨hempty, hovercharges⟩

/-- A document with an entity and with brackets that are none of a tag stays as it is. -/
theorem reindent_reindent_entity :
    IsSpaces "  " ∧
      reindent "<!DOCTYPE a [<!ENTITY e \"<b/> <c/>\">]><a>&e;<![CDATA[>\t<]]></a>" "  " =
        .ok "<!DOCTYPE a [<!ENTITY e \"<b/>\n<c/>\">]>\n<a>&e;<![CDATA[>\n  <]]>\n</a>" ∧
      reindent "<!DOCTYPE a [<!ENTITY e \"<b/>\n<c/>\">]>\n<a>&e;<![CDATA[>\n  <]]>\n</a>" "  " =
        .ok "<!DOCTYPE a [<!ENTITY e \"<b/>\n<c/>\">]>\n<a>&e;<![CDATA[>\n  <]]>\n</a>" := by
  have hfirst : fault? (Text.trim (unifyLineEnds
      "<!DOCTYPE a [<!ENTITY e \"<b/> <c/>\">]><a>&e;<![CDATA[>\t<]]></a>")) = none := by
    decide +kernel
  have hsecond : fault?
      "<!DOCTYPE a [<!ENTITY e \"<b/>\n<c/>\">]>\n<a>&e;<![CDATA[>\n  <]]>\n</a>" = none := by
    decide +kernel
  have hok : reindent "<!DOCTYPE a [<!ENTITY e \"<b/> <c/>\">]><a>&e;<![CDATA[>\t<]]></a>" "  " =
      .ok "<!DOCTYPE a [<!ENTITY e \"<b/>\n<c/>\">]>\n<a>&e;<![CDATA[>\n  <]]>\n</a>" := by
    refine reindent_eq_ok.mpr ?_
    rw [if_neg (by decide)]
    exact ⟨inspect_eq_ok.mpr ⟨by decide, hfirst⟩, by decide +kernel⟩
  have hend : ¬ EndsAstray (Text.trim (unifyLineEnds
      "<!DOCTYPE a [<!ENTITY e \"<b/> <c/>\">]><a>&e;<![CDATA[>\t<]]></a>")) := by
    intro hastray
    obtain ⟨c, hc, hblank, hother⟩ := hastray.exists_blank
    revert c
    decide
  refine ⟨by decide, hok, ?_⟩
  rcases reindent_reindent (by decide) hok hend with ⟨-, hagain⟩ | ⟨-, hovercharges⟩
  · exact hagain
  · obtain ⟨-, -, fault, -, -, hfault, -⟩ := hovercharges
    rw [hsecond] at hfault
    exact absurd hfault (by simp)

/-- A text is accepted of which the end is not looked at, and refused once it is laid out: a blank
that is none of XML kept the end apart from the root element. -/
theorem reindent_passedOver :
    reindent "<p:a><b xmlns=\"u\"/></p:a>\u00a0<?" "  " =
        .ok "<p:a>\n  <b xmlns=\"u\"/>\n</p:a>\n<?" ∧
      (check "<p:a>\n  <b xmlns=\"u\"/>\n</p:a>\n<?").isSome ∧
      ∀ out, reindent "<p:a>\n  <b xmlns=\"u\"/>\n</p:a>\n<?" "  " ≠ .ok out := by
  have hfirst : fault? (Text.trim (unifyLineEnds "<p:a><b xmlns=\"u\"/></p:a>\u00a0<?")) = none := by
    decide +kernel
  have hsecond : (fault? "<p:a>\n  <b xmlns=\"u\"/>\n</p:a>\n<?").isSome := by decide +kernel
  have hok : reindent "<p:a><b xmlns=\"u\"/></p:a>\u00a0<?" "  " =
      .ok "<p:a>\n  <b xmlns=\"u\"/>\n</p:a>\n<?" := by
    refine reindent_eq_ok.mpr ?_
    rw [if_neg (by decide)]
    exact ⟨inspect_eq_ok.mpr ⟨by decide, hfirst⟩, by decide +kernel⟩
  have hcheck : (check "<p:a>\n  <b xmlns=\"u\"/>\n</p:a>\n<?").isSome := by
    rw [check, Option.isSome_map]
    exact hsecond
  refine ⟨hok, hcheck, fun out hout => ?_⟩
  rw [reindent_of_reindent (by decide) hok, if_neg (by decide)] at hout
  obtain ⟨diagnostic, hdiagnostic⟩ := Option.isSome_iff_exists.mp hcheck
  rw [hdiagnostic] at hout
  exact absurd hout (by simp)

end StructuredText.Xml
