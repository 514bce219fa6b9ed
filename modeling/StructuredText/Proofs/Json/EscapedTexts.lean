/-
# Escaping the text of a document

Everything beyond ASCII can be escaped in a text without reading it, since in a document it stands
in strings only.  An escape that comes up right behind another one could be read together with it,
but the escapes of a text without surrogates begin with no low half, so none of them is.

* `escapeNonAscii_of_ascii` and `escapeNonAscii_append`: ASCII is left alone, the rest bit by bit;
* `Respelled` says that parts of a string are written with more escapes, and what it denotes stays;
* `Tree.Escapable` carries this up to whole values, and `parseWithin_escapeNonAscii` to documents.
-/
import Mathlib
import StructuredText.Proofs.Json.Acceptance
import StructuredText.Proofs.Json.Characters
import StructuredText.Proofs.Json.RoundTrip
import StructuredText.Proofs.Json.Surrogates

namespace StructuredText.Json

open CodePoint (ofChar)

/-! ## ASCII -/

/-- ASCII is left alone. -/
theorem escapeNonAscii_of_ascii {t : Text} (h : Ascii t) : escapeNonAscii t = t := h.encode true

@[simp] theorem escapeNonAscii_append (s t : Text) :
    escapeNonAscii (s ++ t) = escapeNonAscii s ++ escapeNonAscii t :=
  List.flatMap_append

theorem escapeNonAscii_cons {c : CodePoint} (hc : c.val < 0x7F) (t : Text) :
    escapeNonAscii (c :: t) = c :: escapeNonAscii t := by
  rw [escapeNonAscii, List.flatMap_cons, escapeCodePoint, if_pos hc]
  rfl

theorem NumberText.ascii {t : Text} {n : Numeral} (h : NumberText t n) : Ascii t := fun c hc =>
  (h.printable c hc).2

/-- White space is left alone. -/
theorem Blanks.escapeNonAscii {w : Text} (hw : Blanks w) : escapeNonAscii w = w := hw.encode true

/-! ## Strings -/

/-- Parts of a string with more escapes: in place of a code point that is no surrogate may stand its
escape, or those of both halves of its pair. -/
inductive Respelled : List StringPart → List StringPart → Prop
  | nil : Respelled [] []
  | unit (c : CodePoint) {parts parts' : List StringPart} (rest : Respelled parts parts') :
      Respelled (.unit c :: parts) (.unit c :: parts')
  | plain {c : CodePoint} {spelling parts parts' : List StringPart} (hc : c.isSurrogate = false)
      (h : CodeParts true c spelling) (rest : Respelled parts parts') :
      Respelled (.plain c :: parts) (spelling ++ parts')

/-- Parts with more escapes begin with no low half that was not there. -/
theorem Respelled.not_isLowSurrogate {parts parts' rest : List StringPart} {low : CodePoint}
    (h : Respelled parts parts') (hparts : ∀ c rest, parts ≠ .unit c :: rest)
    (heq : parts' = .unit low :: rest) : low.isLowSurrogate = false := by
  cases h with
  | nil => exact absurd heq (by simp)
  | unit c => exact absurd rfl (hparts c _)
  | plain hc hcode =>
    by_contra hlow
    rw [Bool.not_eq_false] at hlow
    obtain ⟨rfl, -⟩ := hcode.head_low heq hlow
    rw [isSurrogate_of_isLowSurrogate hlow] at hc
    exact absurd hc (by simp)

/-- **More escapes denote the same string.** -/
theorem Respelled.joinUnits_eq {parts parts' : List StringPart} (h : Respelled parts parts') :
    joinUnits parts' = joinUnits parts := by
  induction parts using joinUnits.induct generalizing parts' with
  | case1 =>
    cases h
    rfl
  | case2 c rest ih =>
    rcases h with _ | _ | ⟨hc, hcode, hrest⟩
    rw [joinUnits_plain, ← ih hrest]
    cases hcode with
    | plain => rfl
    | unit =>
      refine joinUnits_unit fun hhigh => ?_
      rw [isSurrogate_of_isHighSurrogate hhigh] at hc
      exact absurd hc (by simp)
    | pair _ hhigh hlow => exact joinUnits_pair ⟨hhigh, hlow⟩ _
  | case3 high low rest hpair ih =>
    rcases h with _ | ⟨_, _ | ⟨_, hrest⟩⟩
    rw [joinUnits_pair hpair, joinUnits_pair hpair, ih hrest]
  | case4 high low rest hpair ih =>
    rcases h with _ | ⟨_, hrest⟩
    have hjoin := ih hrest
    rcases hrest with _ | ⟨_, hrest⟩
    rw [joinUnits, if_neg hpair, joinUnits, if_neg hpair, hjoin]
  | case5 c rest hnot ih =>
    rcases h with _ | ⟨_, hrest⟩
    -- What follows began with no escape, so it begins with no low half now.
    have hnone : ∀ low rest', rest = .unit low :: rest' → low.isLowSurrogate = false :=
      fun low rest' heq => absurd heq (hnot low rest')
    rw [joinUnits_unit fun _ => hnone, joinUnits_unit fun _ low rest' => ?_, ih hrest]
    exact hrest.not_isLowSurrogate hnot

/-- The inside of a string is escaped part by part. -/
theorem PartsText.exists_respelled {t : Text} {parts : List StringPart} (h : PartsText t parts)
    (ht : Scalar t) :
    ∃ parts', PartsText (escapeNonAscii t) parts' ∧ Respelled parts parts' := by
  induction h with
  | nil => exact ⟨[], .nil, .nil⟩
  | @plain c t parts hc _ ih =>
    rw [scalar_cons] at ht
    obtain ⟨parts', hparts', hrest⟩ := ih ht.2
    obtain ⟨spelling, hspelling, hcode⟩ := exists_parts_escapeCodePoint hc
    exact ⟨spelling ++ parts', hspelling.append hparts', .plain ht.1 hcode hrest⟩
  | @short e c t parts he _ ih =>
    obtain ⟨he', hc⟩ : e.val < 0x7F ∧ c.isSurrogate = false :=
      (show ∀ p ∈ shortEscapes, p.1.val < 0x7F ∧ p.2.isSurrogate = false by decide) _ he
    obtain ⟨parts', hparts', hrest⟩ := ih (scalar_cons.mp (scalar_cons.mp ht).2).2
    rw [escapeNonAscii_cons (by decide), escapeNonAscii_cons he']
    exact ⟨_, .short he hparts', .plain hc (.plain fun _ => hc) hrest⟩
  | @unit w x y z n t parts hex _ ih =>
    have hrest : Scalar t := fun c hc => ht c (by simp [hc])
    obtain ⟨parts', hparts', hrest⟩ := ih hrest
    have hdigits : Ascii [ofChar '\\', ofChar 'u', w, x, y, z] := by
      have hhex : ∀ c ∈ [w, x, y, z], c.val < 0x7F := fun c hc => by
        obtain ⟨k, hk⟩ := hexValue?_of_hex4 hex c hc
        simp only [CodePoint.hexValue?, CodePoint.between, Bool.and_eq_true,
          decide_eq_true_eq] at hk
        split_ifs at hk <;> omega
      exact List.forall_mem_cons.mpr ⟨by decide, List.forall_mem_cons.mpr ⟨by decide, hhex⟩⟩
    refine ⟨_, ?_, .unit _ hrest⟩
    have htext : ofChar '\\' :: ofChar 'u' :: w :: x :: y :: z :: t =
        [ofChar '\\', ofChar 'u', w, x, y, z] ++ t := rfl
    rw [htext, escapeNonAscii_append, escapeNonAscii_of_ascii hdigits]
    exact .unit hex hparts'

/-! ## Values -/

/-- Where a text without surrogates is a value of this tree, escaping makes it a value of a tree
that denotes the same. -/
def Tree.Escapable (tree : Tree) : Prop :=
  ∀ t, ValueText t tree → Scalar t → ∃ tree', ValueText (escapeNonAscii t) tree' ∧
    ∀ levels, tree'.value? levels = tree.value? levels

/-- A text of ASCII is a value of the same tree afterwards. -/
theorem Tree.escapable_of_ascii {tree : Tree} (h : ∀ t, ValueText t tree → Ascii t) :
    tree.Escapable := fun t ht _ =>
  ⟨tree, (escapeNonAscii_of_ascii (h t ht)).symm ▸ ht, fun _ => rfl⟩

section Containers

variable {t : Text}

theorem ItemsText.exists_escaped {trees : List Tree} (h : ItemsText t trees)
    (hitem : ∀ tree ∈ trees, tree.Escapable) (ht : Scalar t) :
    ∃ trees', ItemsText (escapeNonAscii t) trees' ∧
      ∀ levels, itemsValue? levels trees' = itemsValue? levels trees := by
  induction trees generalizing t with
  | nil => cases h
  | cons tree trees ih =>
    rw [List.forall_mem_cons] at hitem
    cases h with
    | @last w t w' _ hw hv hw' =>
      simp only [scalar_append] at ht
      obtain ⟨tree', hv', hvalue⟩ := hitem.1 t hv ht.1.2
      refine ⟨[tree'], ?_, fun levels => ?_⟩
      · simpa only [escapeNonAscii_append, hw.escapeNonAscii, hw'.escapeNonAscii] using
          ItemsText.last hw hv' hw'
      · simp only [itemsValue?, hvalue]
    | @more w t w' ts _ _ hw hv hw' hrest =>
      simp only [scalar_append, scalar_cons] at ht
      obtain ⟨tree', hv', hvalue⟩ := hitem.1 t hv ht.1.1.2
      obtain ⟨trees', hrest', hvalues⟩ := ih hrest hitem.2 ht.2.2
      refine ⟨tree' :: trees', ?_, fun levels => ?_⟩
      · simpa only [escapeNonAscii_append, hw.escapeNonAscii, hw'.escapeNonAscii,
          escapeNonAscii_cons (show (ofChar ',').val < 0x7F by decide)] using
          ItemsText.more hw hv' hw' hrest'
      · simp only [itemsValue?, hvalue, hvalues]

theorem MemberText.exists_escaped {m : List StringPart × Tree} (h : MemberText t m)
    (hvalue : m.2.Escapable) (ht : Scalar t) :
    ∃ m', MemberText (escapeNonAscii t) m' ∧ joinUnits m'.1 = joinUnits m.1 ∧
      ∀ levels, m'.2.value? levels = m.2.value? levels := by
  cases h with
  | @mk w k w₁ w₂ t w' parts tree hw hk hw₁ hw₂ hv hw' =>
    simp only [scalar_append, scalar_cons] at ht
    obtain ⟨-, -, hscalar, -, -, -, ⟨-, hscalar'⟩, -⟩ := ht
    obtain ⟨parts', hk', hname⟩ := hk.exists_respelled hscalar
    obtain ⟨tree', hv', hvalue'⟩ := hvalue t hv hscalar'
    refine ⟨(parts', tree'), ?_, hname.joinUnits_eq, hvalue'⟩
    simpa only [escapeNonAscii_append, hw.escapeNonAscii, hw₁.escapeNonAscii, hw₂.escapeNonAscii,
      hw'.escapeNonAscii, escapeNonAscii_cons (show (ofChar '"').val < 0x7F by decide),
      escapeNonAscii_cons (show (ofChar ':').val < 0x7F by decide)] using
      MemberText.mk hw hk' hw₁ hw₂ hv' hw'

theorem MembersText.exists_escaped {members : List (List StringPart × Tree)}
    (h : MembersText t members) (hmember : ∀ m ∈ members, m.2.Escapable) (ht : Scalar t) :
    ∃ members', MembersText (escapeNonAscii t) members' ∧
      ∀ levels, membersValue? levels members' = membersValue? levels members := by
  induction members generalizing t with
  | nil => cases h
  | cons m members ih =>
    obtain ⟨name, tree⟩ := m
    rw [List.forall_mem_cons] at hmember
    cases h with
    | last hm =>
      obtain ⟨⟨name', tree'⟩, hm', hname, hvalue⟩ := hm.exists_escaped hmember.1 ht
      refine ⟨[(name', tree')], .last hm', fun levels => ?_⟩
      simp only [membersValue?, hvalue, hname]
    | @more t ts _ _ hm hrest =>
      simp only [scalar_append, scalar_cons] at ht
      obtain ⟨⟨name', tree'⟩, hm', hname, hvalue⟩ := hm.exists_escaped hmember.1 ht.1
      obtain ⟨members', hrest', hvalues⟩ := ih hrest hmember.2 ht.2.2
      refine ⟨(name', tree') :: members', ?_, fun levels => ?_⟩
      · rw [escapeNonAscii_append, escapeNonAscii_cons (by decide)]
        exact .more hm' hrest'
      · simp only [membersValue?, hvalue, hvalues, hname]

end Containers

/-- Something between brackets, escaped. -/
theorem escapeNonAscii_enclosed {opening closing : CodePoint} (hopening : opening.val < 0x7F)
    (hclosing : closing.val < 0x7F) (t : Text) :
    escapeNonAscii (opening :: (t ++ [closing])) = opening :: (escapeNonAscii t ++ [closing]) := by
  rw [escapeNonAscii_cons hopening, escapeNonAscii_append, escapeNonAscii_cons hclosing]
  rfl

theorem scalar_inside {opening closing : CodePoint} {t : Text}
    (h : Scalar (opening :: (t ++ [closing]))) : Scalar t :=
  (scalar_append.mp (scalar_cons.mp h).2).1

/-- **Any value can be escaped as it stands.** -/
theorem Tree.escapable (tree : Tree) : tree.Escapable := by
  induction tree using Tree.induction with
  | null =>
    refine escapable_of_ascii fun t ht => ?_
    cases ht
    decide
  | bool b =>
    refine escapable_of_ascii fun t ht => ?_
    cases ht <;> decide
  | number n =>
    refine escapable_of_ascii fun t ht => ?_
    cases ht with
    | number hn => exact hn.ascii
  | string parts =>
    rintro _ ⟨⟩ ht
    rename_i t hparts
    obtain ⟨parts', hparts', hjoin⟩ := hparts.exists_respelled (scalar_inside ht)
    rw [escapeNonAscii_enclosed (by decide) (by decide)]
    exact ⟨.string parts', .string hparts', fun levels => by
      rw [Tree.value?, Tree.value?, hjoin.joinUnits_eq]⟩
  | array trees ih =>
    intro t ht hscalar
    cases ht with
    | emptyArray hw =>
      rw [escapeNonAscii_enclosed (by decide) (by decide), hw.escapeNonAscii]
      exact ⟨.array [], .emptyArray hw, fun _ => rfl⟩
    | array hitems =>
      obtain ⟨trees', hitems', hvalues⟩ := hitems.exists_escaped ih (scalar_inside hscalar)
      rw [escapeNonAscii_enclosed (by decide) (by decide)]
      refine ⟨.array trees', .array hitems', fun levels => ?_⟩
      cases levels with
      | zero => rfl
      | succ levels => rw [Tree.value?, Tree.value?, hvalues]
  | object members ih =>
    intro t ht hscalar
    cases ht with
    | emptyObject hw =>
      rw [escapeNonAscii_enclosed (by decide) (by decide), hw.escapeNonAscii]
      exact ⟨.object [], .emptyObject hw, fun _ => rfl⟩
    | object hmembers =>
      obtain ⟨members', hmembers', hvalues⟩ := hmembers.exists_escaped ih (scalar_inside hscalar)
      rw [escapeNonAscii_enclosed (by decide) (by decide)]
      refine ⟨.object members', .object hmembers', fun levels => ?_⟩
      cases levels with
      | zero => rfl
      | succ levels => rw [Tree.value?, Tree.value?, hvalues]

/-! ## Documents -/

/-- **Escaping a text is safe.**  A document without surrogates of its own is the same document
afterwards, member by member, whatever escapes it holds already.  Of any text only ASCII is left,
and escaping again changes nothing. -/
theorem parseWithin_escapeNonAscii (t : Text) :
    (Scalar t → ∀ levels v, parseWithin levels t = .ok v →
      parseWithin levels (escapeNonAscii t) = .ok v) ∧
    (∀ c ∈ escapeNonAscii t, c.val < 0x7F) ∧
    escapeNonAscii (escapeNonAscii t) = escapeNonAscii t := by
  refine ⟨fun hscalar levels v h => ?_, ascii_escapeNonAscii t,
    escapeNonAscii_of_ascii (ascii_escapeNonAscii t)⟩
  obtain ⟨tree, htext, hvalue⟩ := parseWithin_sound h
  cases htext with
  | @mk w t w' _ hw ht hw' =>
    simp only [scalar_append] at hscalar
    obtain ⟨tree', ht', hvalue'⟩ := tree.escapable t ht hscalar.1.2
    have hdocument : DocumentText (escapeNonAscii (w ++ t ++ w')) tree' := by
      rw [escapeNonAscii_append, escapeNonAscii_append, hw.escapeNonAscii, hw'.escapeNonAscii]
      exact .mk hw ht' hw'
    rw [parseWithin_eq_ok_iff hdocument, ← tree'.value?_eq_some_iff, hvalue', hvalue]

/-- A lone high half, escaped, before a code point beyond FFFF, and a backslash before another one:
neither escape is read together with what comes up behind it. -/
theorem parseWithin_escapeNonAscii_lone :
    Scalar "[\"\\ud800😀\", \"\\\\é\"]" ∧
      escapeNonAscii "[\"\\ud800😀\", \"\\\\é\"]" = "[\"\\ud800\\ud83d\\ude00\", \"\\\\\\u00e9\"]" ∧
      parseWithin 1 (escapeNonAscii "[\"\\ud800😀\", \"\\\\é\"]") =
        .ok (.array [.string [⟨0xD800, by decide⟩, ⟨0x1F600, by decide⟩], .string "\\é"]) := by
  have hscalar : Scalar "[\"\\ud800😀\", \"\\\\é\"]" := by decide
  have hread : parseWithin 1 "[\"\\ud800😀\", \"\\\\é\"]" =
      .ok (.array [.string [⟨0xD800, by decide⟩, ⟨0x1F600, by decide⟩], .string "\\é"]) := by cbv
  exact ⟨hscalar, by cbv, (parseWithin_escapeNonAscii _).1 hscalar 1 _ hread⟩

end StructuredText.Json
