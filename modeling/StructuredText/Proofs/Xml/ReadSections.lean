/-
# The sections that are read

The sections of a text are found by their marks, and the check of a document reads sections too.  As
far as it reads an accepted document, these are the same: a section is found only where the check
reads one, and it ends where the check is through with it.

* `cut?_of_run`: where the check reads a section, it is read up to the first mark;
* `Stands`: a scan for sections comes to a place of the text, past sections that the check reads;
* `keeps_content`, `leaves_documentType` and `keeps_document` take such a scan along;
* `sections_of_checksTo` says it of a whole document, and `readIn_of_mem_sections` of one without
  errors.
-/
import Mathlib
import StructuredText.Proofs.Xml.Keeping
import StructuredText.Proofs.Xml.ReindentTwice
import StructuredText.Proofs.Xml.Sections

namespace StructuredText.Xml

open Text
open CodePoint (ofChar)

/-! ## Ends of sections -/

section Ends

variable {mark : Text} {s t r : Text}

/-- What is left behind a section is what is left behind the first mark. -/
theorem cut?_of_behind? {bar : Text} (h : behind? bar mark t = some r) :
    ∃ content, cut? mark t = some (content, r) := by
  induction t with
  | nil => exact absurd h (by simp [behind?])
  | cons c t ih =>
    rw [behind?] at h
    rw [cut?]
    split at h
    · next hmark =>
      rw [if_pos hmark, Option.some.inj h]
      exact ⟨[], rfl⟩
    · next hmark =>
      rw [if_neg hmark]
      split at h
      · exact absurd h (by simp)
      · split at h
        · obtain ⟨content, hcontent⟩ := ih h
          exact ⟨c :: content, by rw [hcontent]; rfl⟩
        · exact absurd h (by simp)

/-- Where a mark cannot begin it is looked for behind. -/
theorem cut?_append {c : CodePoint} {word content rest : Text} (hs : c ∉ s)
    (h : cut? (c :: word) t = some (content, rest)) :
    cut? (c :: word) (s ++ t) = some (s ++ content, rest) := by
  induction s with
  | nil => exact h
  | cons d s ih =>
    obtain ⟨hd, hs⟩ := not_or.mp (List.mem_cons.not.mp hs)
    have hne : Text.isPrefixOf (c :: word) (d :: (s ++ t)) = false :=
      Scan.isPrefixOf_eq_false rfl (Ne.symm hd)
    rw [List.cons_append, cut?, hne, ih hs]
    rfl

/-- A class without the first code point of the mark is passed. -/
theorem cut?_of_dropWhile {p : CodePoint → Bool} {c : CodePoint} {word : Text}
    (hmark : mark = c :: word) (hp : p c = false)
    (h : ∃ content, cut? mark (t.dropWhile p) = some (content, r)) :
    ∃ content, cut? mark t = some (content, r) := by
  subst hmark
  obtain ⟨content, hcontent⟩ := h
  have hnot : c ∉ t.takeWhile p := by
    intro hmem
    rw [List.mem_takeWhile_imp hmem] at hp
    exact absurd hp (by simp)
  have hcut := cut?_append hnot hcontent
  rw [List.takeWhile_append_dropWhile] at hcut
  exact ⟨_, hcut⟩

end Ends

namespace Scan

variable {j k : Journal} {t r : Text}

theorem run_plainName {name : Text} (h : run plainName j t = .ok (some name, r, k)) :
    r = t.dropWhile isColonNamePart := by
  unfold plainName nameOf at h
  rw [run_bind, run_peek, ok_bind] at h
  cases t with
  | nil => exact absurd h (by simp)
  | cons c t =>
    dsimp only [List.head?_cons] at h
    split at h
    · rw [run_bind, run_takeWhile, ok_bind, run_pure] at h
      exact (Prod.mk.inj (Prod.mk.inj (Except.ok.inj h)).2).1.symm
    · exact absurd h (by simp)

/-- Behind its name, no more of a target is passed. -/
theorem run_target {name : Text} (h : run target j t = .ok (name, r, k)) :
    r = t.dropWhile isColonNamePart := by
  obtain ⟨found, u, k', hname, h⟩ := run_bind_eq_ok h
  cases found with
  | none => exact absurd h (by simp)
  | some found =>
    rw [← run_plainName hname]
    dsimp only at h
    split_ifs at h <;> simp [ok_bind, error_bind] at h <;> exact h.2.1.symm

end Scan

/-- What the check passes behind the mark that begins a section. -/
def SectionKind.scan : SectionKind → Scan Unit
  | comment => Scan.comment
  | instruction => Scan.instruction
  | literal => Scan.literalSection

/-- **Where the check passes a section, it is the one that is found.** -/
theorem cut?_of_run {kind : SectionKind} {j k : Journal} {t r : Text}
    (h : Scan.run kind.scan j t = .ok ((), r, k)) :
    ∃ content, cut? kind.mark t = some (content, r) := by
  cases kind with
  | comment => exact cut?_of_behind? (Scan.comment_eq_ok.mp h).2
  | literal => exact cut?_of_behind? ((Scan.upTo_eq_ok (by decide) (by decide) _).mp h).2
  | instruction =>
    -- Neither the target nor the blanks behind it hold a question mark.
    obtain ⟨name, u, k', htarget, h⟩ := Scan.run_bind_eq_ok h
    obtain rfl := Scan.run_target htarget
    have hpart : isColonNamePart (ofChar '?') = false := by decide
    have hblank : isXmlBlank (ofChar '?') = false := by decide
    have hmark : ("?>" : Text) = [ofChar '?', ofChar '>'] := rfl
    refine cut?_of_dropWhile hmark hpart ?_
    generalize t.dropWhile isColonNamePart = u at h
    obtain ⟨found, v, k'', haccept, h⟩ := Scan.run_bind_eq_ok h
    rw [Scan.run_accept] at haccept
    split at haccept
    · next hends =>
      obtain ⟨rfl, rfl, rfl⟩ : true = found ∧ _ = v ∧ _ = k'' := by simpa using haccept
      obtain ⟨rfl, -⟩ : u.drop (List.length ("?>" : Text)) = r ∧ k' = k := by simpa using h
      cases u with
      | nil => exact absurd hends (by decide)
      | cons c u => exact ⟨[], by rw [SectionKind.mark, cut?, if_pos hends]⟩
    · obtain ⟨rfl, rfl, rfl⟩ : false = found ∧ u = v ∧ _ = k'' := by simpa using haccept
      obtain ⟨blank, x, k₂, hblanks, h⟩ := Scan.run_bind_eq_ok h
      obtain rfl : u.dropWhile isXmlBlank = x := by
        have hrun : Scan.run Scan.blanks k' u =
            .ok (!(u.takeWhile isXmlBlank).isEmpty, u.dropWhile isXmlBlank, k') := rfl
        rw [hrun] at hblanks
        exact (Prod.mk.inj (Prod.mk.inj (Except.ok.inj hblanks)).2).1
      refine cut?_of_dropWhile hmark hblank ?_
      cases blank with
      | false => exact absurd h (by simp [Scan.error_bind])
      | true => exact cut?_of_behind? ((Scan.upTo_eq_ok (by decide) (by decide) _).mp h).2

/-! ## Where a scan comes to -/

/-- The check reads a section from behind its opening mark to behind its closing one.  The
declaration of a document is found as an instruction. -/
def SectionKind.Reads (kind : SectionKind) (t r : Text) : Prop :=
  (∃ j k, Scan.run kind.scan j t = .ok ((), r, k)) ∨
    kind = .instruction ∧ ∃ u alone j k, t = ("xml" : Text) ++ u ∧
      Scan.run Scan.declaration j u = .ok (alone, r, k)

/-- A section that the check reads where it stands in a text. -/
def Section.ReadIn (s : Section) (t : Text) : Prop :=
  ∃ r, ofChar '<' :: (s.kind.opening ++ (s.content ++ (s.kind.mark ++ r))) <:+ t ∧
    s.kind.Reads (s.content ++ (s.kind.mark ++ r)) r

/-- A scan for sections comes from the front of a text to some rest of it, past sections that the
check reads. -/
inductive Reaches (t : Text) : List Section → Region → Text → Prop
  | start : Reaches t [] .content t
  | pass {found : List Section} {region : Region} {c : CodePoint} {r : Text}
      (h : Reaches t found region (c :: r)) (hopens : region.opens? c r = none) :
      Reaches t found (region.after c r) r
  | read {found : List Section} {region : Region} {kind : SectionKind} {c : CodePoint}
      {r content rest : Text} (h : Reaches t found region (c :: r))
      (hopens : region.opens? c r = some kind)
      (hcut : cut? kind.mark (r.drop kind.opening.length) = some (content, rest))
      (hread : kind.Reads (r.drop kind.opening.length) rest) :
      Reaches t (found ++ [⟨kind, content⟩]) region rest

section Reaches

variable {found : List Section} {region : Region} {t r : Text}

theorem Reaches.suffix (h : Reaches t found region r) : r <:+ t := by
  induction h with
  | start => exact List.suffix_refl t
  | pass h hopens ih => exact (List.suffix_cons _ _).trans ih
  | @read found region kind c r content rest h hopens hcut hread ih =>
    have hrest : rest <:+ r.drop kind.opening.length := by
      rw [append_of_cut? hcut, ← List.append_assoc]
      exact List.suffix_append _ _
    exact hrest.trans ((List.drop_suffix _ r).trans ((List.suffix_cons c r).trans ih))

/-- What was found up to a place, and what is found from there on. -/
theorem Reaches.sections_eq (h : Reaches t found region r) :
    sections t = found ++ sectionsFrom region 0 r := by
  induction h with
  | start => rfl
  | pass h hopens ih => rw [ih, sectionsFrom_passed hopens]
  | read h hopens hcut hread ih => rw [ih, sectionsFrom_closed hopens hcut, List.append_cons]

theorem Reaches.readIn (h : Reaches t found region r) : ∀ s ∈ found, s.ReadIn t := by
  induction h with
  | start => exact List.forall_mem_nil _
  | pass h hopens ih => exact ih
  | @read found region kind c r content rest h hopens hcut hread ih =>
    rw [List.forall_mem_append, List.forall_mem_singleton]
    obtain ⟨rfl, hopening⟩ := Region.isPrefixOf_of_opens? hopens
    rw [append_of_cut? hcut] at hread
    refine ⟨ih, rest, ?_, hread⟩
    rw [← append_of_cut? hcut, ← Scan.eq_append_of_isPrefixOf hopening]
    exact h.suffix

/-- A scan for sections comes to a place in some region, with whatever it finds. -/
def Stands (t : Text) (region : Region) (r : Text) : Prop := ∃ found, Reaches t found region r

theorem stands_start (t : Text) : Stands t .content t := ⟨[], .start⟩

theorem Stands.pass {after : Region} {c : CodePoint} (h : Stands t region (c :: r))
    (hopens : region.opens? c r = none) (hafter : region.after c r = after) : Stands t after r := by
  obtain ⟨found, h⟩ := h
  exact ⟨found, hafter ▸ h.pass hopens⟩

theorem mem_kinds_content (kind : SectionKind) : kind ∈ Region.content.kinds := by
  cases kind <;> decide

theorem Region.opens?_of_mem {kind : SectionKind} (hkind : kind ∈ region.kinds) (r : Text) :
    region.opens? (ofChar '<') (kind.opening ++ r) = some kind := by
  cases region <;> cases kind <;> first | rfl | simp [Region.kinds] at hkind

theorem Stands.read {kind : SectionKind} {content rest : Text} (hkind : kind ∈ region.kinds)
    (h : Stands t region (ofChar '<' :: (kind.opening ++ r)))
    (hcut : cut? kind.mark r = some (content, rest)) (hread : kind.Reads r rest) :
    Stands t region rest := by
  obtain ⟨found, h⟩ := h
  have hdrop : (kind.opening ++ r).drop kind.opening.length = r := List.drop_left ..
  rw [← hdrop] at hcut hread
  exact ⟨_, h.read (Region.opens?_of_mem hkind r) hcut hread⟩

end Reaches

/-! ## What leads nowhere -/

/-- A code point behind which a scan stands where it stood. -/
def Region.Idle : Region → CodePoint → Prop
  | .content, c => c ≠ ofChar '<'
  | .typeHead, c => c ≠ ofChar '[' ∧ c ≠ ofChar '>' ∧ ¬ Scan.IsQuote c
  | .typeBody, c => c ≠ ofChar ']' ∧ c ≠ ofChar '<'
  | .declaration, c => c ≠ ofChar '>' ∧ ¬ Scan.IsQuote c
  | .quoted double _, c => c ≠ ofChar (if double then '"' else '\'')

theorem Region.idle_of_unmarked (region : Region) {c : CodePoint} (hc : c ∉ Scan.marks) :
    region.Idle c := by
  have hne : ∀ d ∈ Scan.marks, c ≠ d := fun d hd h => hc (h ▸ hd)
  have hquote : ¬ Scan.IsQuote c := by
    rintro (rfl | rfl) <;> exact hc (by decide)
  cases region with
  | content => exact hne _ (by decide)
  | typeHead => exact ⟨hne _ (by decide), hne _ (by decide), hquote⟩
  | typeBody => exact ⟨hne _ (by decide), hne _ (by decide)⟩
  | declaration => exact ⟨hne _ (by decide), hquote⟩
  | quoted double inBody => cases double <;> exact hne _ (by decide)

theorem Region.Idle.opens? {region : Region} {c : CodePoint} (h : region.Idle c) (r : Text) :
    region.opens? c r = none := by
  cases region with
  | content => exact Region.opens?_of_ne _ h r
  | typeBody => exact Region.opens?_of_ne _ h.2 r
  | typeHead | declaration | quoted =>
    unfold Region.opens?
    split <;> rfl

theorem Region.Idle.after {region : Region} {c : CodePoint} (h : region.Idle c) (r : Text) :
    region.after c r = region := by
  have hquote (inBody : Bool) (hc : ¬ Scan.IsQuote c) : region.afterQuote inBody c = region := by
    rw [Region.afterQuote, if_neg fun h => hc (Or.inl h), if_neg fun h => hc (Or.inr h)]
  cases region with
  | content => exact if_neg fun hc => h hc.1
  | typeHead =>
    obtain ⟨hopening, hclosing, hnone⟩ := h
    rw [Region.after, if_neg hopening, if_neg hclosing, hquote _ hnone]
  | typeBody => rw [Region.after, if_neg h.1, if_neg h.2]
  | declaration => rw [Region.after, if_neg h.1, hquote _ h.2]
  | quoted double inBody => exact if_neg h

/-- Where a scan stands it stands behind idle code points too. -/
theorem outlives_stands (t : Text) (region : Region) :
    Scan.Outlives region.Idle (Stands t region) :=
  fun _ r hc h => h.pass (hc.opens? r) (hc.after r)

theorem outlives_unmarked (t : Text) (region : Region) :
    Scan.Outlives (· ∉ Scan.marks) (Stands t region) :=
  (outlives_stands t region).mono fun _ => region.idle_of_unmarked

section Quotes

variable {t r : Text} {quote : CodePoint} {inBody : Bool}

/-- Where literals may begin: in a document type or in one of its declarations. -/
def Region.unquoted (inBody : Bool) : Region := if inBody then declaration else typeHead

theorem Stands.inQuotes (hquote : Scan.IsQuote quote)
    (h : Stands t (.unquoted inBody) (quote :: r)) :
    Stands t (.quoted (quote == ofChar '"') inBody) r := by
  refine h.pass ?_ ?_
  · cases inBody <;> exact Region.opens?_of_ne _ hquote.ne_opening r
  · rcases hquote with rfl | rfl <;> cases inBody <;> rfl

theorem Stands.outOfQuotes (hquote : Scan.IsQuote quote)
    (h : Stands t (.quoted (quote == ofChar '"') inBody) (quote :: r)) :
    Stands t (.unquoted inBody) r := by
  refine h.pass (Region.opens?_of_ne _ hquote.ne_opening r) ?_
  rcases hquote with rfl | rfl <;> cases inBody <;> rfl

theorem Region.idle_quoted (hquote : Scan.IsQuote quote) {c : CodePoint} (hc : c ≠ quote) :
    (quoted (quote == ofChar '"') inBody).Idle c := by
  rcases hquote with rfl | rfl <;> exact hc

end Quotes

/-! ## Sections -/

namespace Scan

variable {t r : Text} {region : Region}

/-- A section that the check reads is found. -/
theorem leaves_section {kind : SectionKind} (hkind : kind ∈ region.kinds)
    (h : Stands t region (ofChar '<' :: (kind.opening ++ r))) :
    Leaves kind.scan r fun _ => Stands t region := by
  intro j a u k hrun
  obtain ⟨content, hcut⟩ := cut?_of_run hrun
  exact h.read hkind hcut (Or.inl ⟨j, k, hrun⟩)

theorem leaves_section_pure {α : Type} {kind : SectionKind} {u : Text} (a : α)
    (hkind : kind ∈ region.kinds) (h : Stands t region (ofChar '<' :: r))
    (hr : r = kind.opening ++ u) :
    Leaves (kind.scan >>= fun _ => pure a) u fun _ => Stands t region := by
  subst hr
  exact (leaves_section hkind h).bind fun _ u hu => leaves_pure hu

/-- A mark that leads into another region. -/
theorem leaves_expectMark {after : Region} {c : CodePoint} (hc : c ≠ ofChar '<')
    (hafter : ∀ u, region.after c u = after) (complaint : Complaint) (h : Stands t region r) :
    Leaves (expect [c] complaint) r fun _ => Stands t after := by
  refine leaves_expect _ ?_
  rintro u rfl
  exact h.pass (Region.opens?_of_ne _ hc u) (hafter u)

theorem keeps_miscellany : Keeps (Stands t .content) miscellany := by
  refine fun r hr => leaves_loop (fun _ c r h => ?_) hr
  refine .ite (fun hc => takes_some (leaves_pure ?_)) fun _ => ?_
  · exact outlives_unmarked t .content c r (unmarked_of_class (by decide) hc) h
  refine .ite (fun hnext => takes_some ?_) fun _ =>
    .ite (fun hnext => takes_some ?_) fun _ => takes_none
  · obtain ⟨rfl, hword⟩ := hnext
    obtain ⟨u, rfl⟩ : ∃ u, r = ("?" : Text) ++ u := ⟨_, eq_append_of_isPrefixOf hword⟩
    exact leaves_skip_bind (leaves_section (mem_kinds_content .instruction) h)
  · obtain ⟨rfl, -⟩ := hnext
    refine leaves_expect_bind ?_
    rintro u rfl
    exact leaves_section (mem_kinds_content .comment) h

/-! ## Content -/

/-- Behind an opening bracket that begins neither a section nor a document type. -/
theorem stands_tag {c : CodePoint} (hc : c ≠ ofChar '!' ∧ c ≠ ofChar '?')
    (h : Stands t .content (ofChar '<' :: c :: r)) : Stands t .content (c :: r) := by
  have hword {d : CodePoint} {word : Text} (hd : c ≠ d) :
      ¬ Text.isPrefixOf (d :: word) (c :: r) := by
    rw [isPrefixOf_eq_false rfl hd]
    exact Bool.false_ne_true
  refine h.pass ?_ (if_neg fun hnext => hword hc.1 hnext.2)
  rw [Region.opens?, if_pos rfl, List.find?_eq_none]
  intro kind _
  cases kind with
  | comment | literal => exact hword hc.1
  | instruction => exact hword hc.2

theorem leaves_startTag (entities : Entities) (progress : Progress) (opening : Text)
    (h : Stands t .content (ofChar '<' :: r)) :
    Leaves (startTag entities progress opening) r fun _ => Stands t .content := by
  by_cases hname : ∃ c ∈ r.head?, isColonNameStart c
  · obtain ⟨c, hhead, hc⟩ := hname
    obtain ⟨u, rfl⟩ := List.head?_eq_some_iff.mp hhead
    refine keeps_startTag (outlives_stands t .content) entities progress opening _ (stands_tag ?_ h)
    constructor <;> rintro rfl <;> exact absurd hc (by decide)
  · exact leaves_startTag_of_noName entities progress opening fun c hc hstart =>
      hname ⟨c, hc, hstart⟩

theorem leaves_markup (entities : Entities) (progress : Progress) (opening : Text)
    (h : Stands t .content (ofChar '<' :: r)) :
    Leaves (markup entities progress opening) r fun _ => Stands t .content := by
  have hsection (kind : SectionKind) {u : Text} (hu : r = kind.opening ++ u) :=
    leaves_section_pure progress (mem_kinds_content kind) h hu
  refine leaves_accept_bind (fun u hu => hsection .instruction hu) ?_
  refine leaves_accept_bind (fun u hu => hsection .comment hu) ?_
  refine leaves_accept_bind (fun u hu => hsection .literal hu) ?_
  refine leaves_accept_bind ?_ (leaves_startTag entities progress opening h)
  rintro u rfl
  have hslash : Stands t .content (ofChar '/' :: u) := stands_tag (by decide) h
  have hu : Stands t .content u := outlives_unmarked t .content _ _ (by decide) hslash
  obtain ⟨opened, identifiers⟩ := progress
  cases opened with
  | nil => exact leaves_fail _
  | cons innermost others =>
    refine (keeps_endTag (outlives_stands t .content) innermost u hu).bind fun _ v hv => ?_
    exact leaves_pure hv

theorem keeps_contentWith {isEntity : Bool}
    {follow : Text → EntityBody → Progress → Scan Progress}
    (hfollow : ∀ name body progress, Keeps (Stands t .content) (follow name body progress))
    (entities : Entities) (progress : Progress) :
    Keeps (Stands t .content) (contentWith isEntity follow entities progress) := by
  suffices hloop : Keeps (Stands t .content)
      (loop (contentTurn isEntity follow entities) progress) by
    refine hloop.bind fun left => ?_
    obtain ⟨opened, identifiers⟩ := left
    cases opened with
    | nil => exact keeps_pure _
    | cons => exact keeps_fail _
  refine fun r hr => leaves_loop (fun progress c r h => ?_) hr
  refine .ite (fun _ => takes_none) fun _ => .ite (fun hc => takes_some ?_) fun hc => ?_
  · subst hc
    exact leaves_markup entities progress _ h
  have hr : Stands t .content r := outlives_stands t .content c r hc h
  refine .ite (fun _ => takes_some ?_) fun _ => .ite (fun _ => takes_error _) fun _ => ?_
  · have hreference := keeps_reference (outlives_unmarked t .content) entities
    refine (hreference r hr).bind fun referent u hu => ?_
    cases referent with
    | plain text => exact leaves_pure hu
    | unknown => exact leaves_pure hu
    | entity name body => exact hfollow name body progress u hu
  · refine .ite (fun _ => takes_error _) fun _ => takes_some ?_
    have hplain : ∀ c, isPlain c → Region.content.Idle c := by
      rintro c hc rfl
      exact absurd hc (by decide)
    exact ((keeps_takeWhile (outlives_stands t .content) hplain).bind fun _ => keeps_pure _) r hr

theorem keeps_content (entities : Entities) (progress : Progress) :
    Keeps (Stands t .content) (content entities progress) :=
  (keeps_contentWith (keeps_entityInContent entities _ _) entities progress).bind fun _ =>
    keeps_pure ()

/-! ## Document types -/

/-- A literal behind its first quote. -/
theorem leaves_literal {quote : CodePoint} {inBody : Bool} (hquote : IsQuote quote)
    {p : CodePoint → Bool} (hp : ∀ c, p c → c ≠ quote) (complaint : Complaint)
    (h : Stands t (.quoted (quote == ofChar '"') inBody) r) :
    Leaves (do let _ ← takeWhile p; expect [quote] complaint) r fun _ =>
      Stands t (.unquoted inBody) := by
  have hidle : ∀ c, p c → (Region.quoted (quote == ofChar '"') inBody).Idle c :=
    fun c hc => Region.idle_quoted hquote (hp c hc)
  refine (keeps_takeWhile (outlives_stands t _) hidle r h).bind fun _ u hu => ?_
  refine leaves_expect _ fun v hv => ?_
  subst hv
  exact hu.outOfQuotes hquote

theorem keeps_requiredBlanks (region : Region) (explanation : Text) :
    Keeps (Stands t region) (requiredBlanks explanation) :=
  (keeps_blanks (outlives_unmarked t region)).bind fun _ =>
    .ite (fun _ => keeps_pure _) fun _ => keeps_fail _

theorem keeps_externalName (p : CodePoint → Bool) (inBody : Bool) :
    Keeps (Stands t (.unquoted inBody)) (externalName p) := by
  intro r hr
  refine (leaves_quoteOr _ r).bind ?_
  rintro quote u ⟨hquote, rfl⟩
  refine leaves_literal hquote (fun c hc => ?_) _ (hr.inQuotes hquote)
  rw [Bool.and_eq_true, bne_iff_ne] at hc
  exact hc.2

theorem keeps_externalPlace (inBody : Bool) :
    Keeps (Stands t (.unquoted inBody)) externalPlace := by
  have hunmarked := outlives_unmarked t (.unquoted inBody)
  have hblanks (explanation : Text) := keeps_requiredBlanks (t := t) (.unquoted inBody) explanation
  have hname (p : CodePoint → Bool) := keeps_externalName (t := t) p inBody
  refine (keeps_accept hunmarked (by decide)).bind fun _ => .ite (fun _ => ?_) fun _ => ?_
  · exact (hblanks _).bind fun _ => (hname _).bind fun _ => keeps_pure true
  · refine (keeps_accept hunmarked (by decide)).bind fun _ => .ite (fun _ => ?_) fun _ => ?_
    · refine (hblanks _).bind fun _ => (hname _).bind fun _ => ?_
      exact (hblanks _).bind fun _ => (hname _).bind fun _ => keeps_pure true
    · exact keeps_pure false

theorem keeps_externalBody : Keeps (Stands t .declaration) externalBody := by
  have hunmarked := outlives_unmarked t .declaration
  refine (keeps_externalPlace true).bind fun place => .unless (keeps_fail _) ?_
  refine (keeps_isNext _).bind fun last => .ite (fun _ => keeps_pure _) fun _ => ?_
  refine (keeps_requiredBlanks _ _).bind fun _ => ?_
  refine (keeps_accept hunmarked (by decide)).bind fun unparsed => .ite (fun _ => ?_) fun _ => ?_
  · refine (keeps_requiredBlanks _ _).bind fun _ => ?_
    exact (keeps_plainName hunmarked).bind fun _ => keeps_pure _
  · exact keeps_pure _

theorem keeps_entityBody : Keeps (Stands t .declaration) entityBody := by
  intro r hr
  refine leaves_peek_bind ?_
  cases r with
  | nil => exact keeps_externalBody [] hr
  | cons quote u =>
    refine .ite (fun hquote => leaves_skip_bind ?_) fun _ => keeps_externalBody _ hr
    have hquote : IsQuote quote := hquote
    have hstands : Stands t (.unquoted true) (quote :: u) := hr
    have hu := hstands.inQuotes hquote
    refine (keeps_moveColumns _ u hu).bind fun _ u hu => ?_
    have hidle : ∀ c, c != quote → (Region.quoted (quote == ofChar '"') true).Idle c :=
      fun c hc => Region.idle_quoted hquote (bne_iff_ne.mp hc)
    refine (keeps_takeWhile (outlives_stands t _) hidle u hu).bind fun literal u hu => ?_
    refine (keeps_countBytes literal u hu).bind fun _ u hu => ?_
    refine leaves_isNext_bind ?_ (leaves_fail_bind _)
    rintro v rfl
    -- While the literal is read once more, its closing quote is still to be passed.
    have hagain : Leaves (again literal entityText) ([quote] ++ v) fun _ w => w = [quote] ++ v :=
      keeps_readAt _ _ _ _ rfl
    refine hagain.bind ?_
    rintro _ w rfl
    exact leaves_skip_bind (leaves_pure (hu.outOfQuotes hquote))

theorem keeps_entityName : Keeps (Stands t .declaration) entityName := by
  refine (keeps_plainName (outlives_unmarked t .declaration)).bind fun name => ?_
  cases name with
  | none => exact keeps_fail _
  | some name =>
    refine .when (keeps_note _) ((keeps_requiredBlanks _ _).bind fun _ => keeps_pure name)

/-- Behind the bracket that ends a declaration. -/
theorem leaves_declarationClosed (complaint : Complaint) (h : Stands t .declaration r) :
    Leaves (expect ">" complaint) r fun _ => Stands t .typeBody := by
  exact leaves_expectMark (by decide) (fun _ => rfl) _ h

theorem leaves_entityDeclaration (entities : Entities) (h : Stands t .declaration r) :
    Leaves (entityDeclaration entities) r fun _ => Stands t .typeBody := by
  have hunmarked := outlives_unmarked t .declaration
  refine (keeps_requiredBlanks _ _ r h).bind fun _ r hr => ?_
  refine (keeps_accept hunmarked (by decide) r hr).bind fun isParameter r hr => ?_
  refine .when hr (keeps_requiredBlanks _ _) fun r hr => ?_
  refine (keeps_entityName r hr).bind fun name r hr => ?_
  refine (keeps_entityBody r hr).bind fun body r hr => ?_
  refine .ite (fun _ => leaves_fail_bind _) fun _ => ?_
  refine (keeps_blanks hunmarked r hr).bind fun _ r hr => ?_
  refine (leaves_declarationClosed _ hr).bind fun _ r hr => ?_
  exact .ite (fun _ => leaves_pure hr) fun _ => leaves_pure hr

theorem leaves_declarationRest (h : Stands t .declaration r) :
    Leaves declarationRest r fun _ => Stands t .typeBody := by
  suffices hloop : Leaves (loop _ ()) r fun _ => Stands t .declaration from
    hloop.bind fun _ r hr => leaves_declarationClosed _ hr
  refine leaves_loop (fun _ c r h => ?_) h
  refine .ite (fun _ => takes_none) fun hc => .ite (fun hquote => takes_some ?_) fun hquote => ?_
  · have hquote : IsQuote c := hquote
    have hstands : Stands t (.unquoted true) (c :: r) := h
    exact leaves_literal hquote (fun d hd => bne_iff_ne.mp hd) _ (hstands.inQuotes hquote)
  · exact takes_some (leaves_pure (outlives_stands t .declaration c r ⟨hc, hquote⟩ h))

/-- Behind the word that begins a declaration. -/
theorem stands_declaration {word : Text}
    (hword : word ∈ (["!ENTITY", "!ELEMENT", "!ATTLIST", "!NOTATION"] : List Text))
    (h : Stands t .typeBody (ofChar '<' :: (word ++ r))) : Stands t .declaration r := by
  have hunmarked : ∀ word ∈ (["!ENTITY", "!ELEMENT", "!ATTLIST", "!NOTATION"] : List Text),
      ∀ c ∈ word, c ∉ marks := by decide
  have hpass : Stands t .declaration (word ++ r) := by
    refine h.pass ?_ rfl
    simp only [List.mem_cons, List.not_mem_nil, or_false] at hword
    rcases hword with rfl | rfl | rfl | rfl <;> rfl
  exact (outlives_unmarked t .declaration).append (hunmarked word hword) hpass

theorem leaves_typeMarkup (entities : Entities) (h : Stands t .typeBody (ofChar '<' :: r)) :
    Leaves (typeMarkup entities) r fun _ => Stands t .typeBody := by
  have hsection (kind : SectionKind) (hkind : kind ∈ Region.typeBody.kinds) {u : Text}
      (hu : r = kind.opening ++ u) := leaves_section_pure entities hkind h hu
  refine leaves_accept_bind (fun u hu => hsection .instruction (by decide) hu) ?_
  refine leaves_accept_bind (fun u hu => hsection .comment (by decide) hu) ?_
  refine leaves_accept_bind ?_ ?_
  · rintro u rfl
    exact leaves_entityDeclaration entities (stands_declaration (by decide) h)
  · refine (leaves_acceptAny _ r).bind fun found u hu => ?_
    cases found with
    | false => exact leaves_fail_bind _
    | true =>
      obtain ⟨word, hword, rfl⟩ := hu
      have hstands := stands_declaration (List.mem_cons_of_mem _ hword) h
      exact (leaves_declarationRest hstands).bind fun _ u hu => leaves_pure hu

theorem keeps_parameterName : Keeps (Stands t .typeBody) parameterName := by
  have hunmarked := outlives_unmarked t .typeBody
  refine (keeps_plainName hunmarked).bind fun name => ?_
  cases name with
  | none => exact keeps_fail _
  | some name => exact (keeps_expect hunmarked (by decide) _).bind fun _ => keeps_pure name

theorem keeps_parameterReference (depth : ℕ) (inside : List Text) (entities : Entities) :
    Keeps (Stands t .typeBody) (parameterReference depth inside entities) := by
  refine keeps_parameterName.bind fun name => ?_
  dsimp only
  split
  · exact .when (keeps_fail _) ((keeps_charge _).bind fun _ => keeps_readAt _ _ _)
  · exact keeps_pure _
  · exact .when (keeps_fail _) (keeps_warn.bind fun _ => keeps_pure _)

theorem keeps_declarations (depth : ℕ) (inside : List Text) (entities : Entities) :
    Keeps (Stands t .typeBody) (declarations depth inside entities) := by
  cases depth with
  | zero => exact keeps_fail _
  | succ depth =>
    suffices hloop : Keeps (Stands t .typeBody) (loop (declarationsTurn depth inside) entities) from
      hloop
    refine fun r hr => leaves_loop (fun entities c r h => ?_) hr
    refine .ite (fun _ => takes_none) fun _ =>
      .ite (fun hc => takes_some (leaves_pure ?_)) fun _ => ?_
    · exact outlives_unmarked t .typeBody c r (unmarked_of_class (by decide) hc) h
    refine .ite (fun hc => takes_some ?_) fun _ => .ite (fun hc => takes_some ?_) fun _ =>
      takes_error _
    · subst hc
      have hr : Stands t .typeBody r := outlives_unmarked t .typeBody _ r (by decide) h
      exact keeps_parameterReference depth inside entities r hr
    · subst hc
      exact leaves_typeMarkup entities h

/-- **A document type**, behind its keyword. -/
theorem leaves_documentType (entities : Entities) (h : Stands t .typeHead r) :
    Leaves (documentType entities) r fun _ => Stands t .content := by
  have hunmarked := outlives_unmarked t .typeHead
  have hclosed (entities : Entities) {r : Text} (hr : Stands t .typeHead r) : Leaves (do
      expect ">" .documentType
      return entities) r fun _ => Stands t .content := by
    have hmark : Leaves (expect ">" .documentType) r fun _ => Stands t .content :=
      leaves_expectMark (by decide) (fun _ => rfl) _ hr
    exact hmark.bind fun _ u hu => leaves_pure hu
  refine (keeps_requiredBlanks _ _ r h).bind fun _ r hr => ?_
  refine (keeps_plainName hunmarked r hr).bind fun name r hr => ?_
  cases name with
  | none => exact leaves_fail _
  | some name =>
    refine (keeps_blanks hunmarked r hr).bind fun _ r hr => ?_
    refine (keeps_externalPlace false r hr).bind fun elsewhere r hr => ?_
    refine (keeps_blanks hunmarked r hr).bind fun _ r hr => ?_
    refine leaves_accept_bind ?_ (hclosed _ hr)
    rintro u rfl
    have hu : Stands t .typeBody u := Stands.pass hr (Region.opens?_of_ne _ (by decide) u) rfl
    refine (keeps_declarations _ _ _ u hu).bind fun declared u hu => ?_
    have hbracket : Leaves (expect "]" .documentType) u fun _ => Stands t .typeHead :=
      leaves_expectMark (by decide) (fun _ => rfl) _ hu
    refine hbracket.bind fun _ u hu => ?_
    exact (keeps_blanks hunmarked u hu).bind fun _ u hu => hclosed declared hu

/-! ## Documents -/

theorem keeps_rootAndRest (entities : Entities) :
    Keeps (Stands t .content) (rootAndRest entities) := by
  refine fun r hr => leaves_remaining_bind ?_
  refine leaves_expect_bind ?_
  rintro u rfl
  refine (leaves_startTag entities {} _ hr).bind fun progress u hu => ?_
  refine (keeps_content entities progress u hu).bind fun _ u hu => ?_
  exact (keeps_miscellany u hu).bind fun _ u hu => keeps_expectEnd _ u hu

theorem stands_typeHead (h : Stands t .content (("<!DOCTYPE" : Text) ++ r)) :
    Stands t .typeHead r := by
  have hword : ∀ c ∈ ("!DOCTYPE" : Text), c ∉ marks := by decide
  have hpass : Stands t .typeHead (("!DOCTYPE" : Text) ++ r) := Stands.pass h rfl rfl
  exact (outlives_unmarked t .typeHead).append hword hpass

theorem keeps_typeAndRest (alone : Bool) : Keeps (Stands t .content) (typeAndRest alone) := by
  refine keeps_miscellany.bind fun _ r hr => leaves_accept_bind ?_ (keeps_rootAndRest _ r hr)
  rintro u rfl
  refine (leaves_documentType _ (stands_typeHead hr)).bind fun entities u hu => ?_
  exact (keeps_miscellany u hu).bind fun _ u hu => keeps_rootAndRest entities u hu

/-- The declaration of a document is found as an instruction. -/
theorem leaves_declarationSection (h : Stands t .content (("<?xml" : Text) ++ r)) :
    Leaves declaration r fun _ => Stands t .content := by
  intro j alone rest k hrun
  have hpassed : Passes (· ≠ ofChar '?') r r := ⟨[], rfl, List.forall_mem_nil _⟩
  have hdeclaration := leaves_declaration (outlives_passes _ r) hpassed
  obtain ⟨s, rfl, hs⟩ := hdeclaration j alone rest k hrun
  have hnot : ofChar '?' ∉ ("xml" : Text) ++ s := by
    rw [List.mem_append, not_or]
    exact ⟨by decide, fun hmem => hs _ hmem rfl⟩
  have hmark : cut? ("?>" : Text) (("?>" : Text) ++ rest) = some ([], rest) := rfl
  have hcut := cut?_append hnot hmark
  rw [List.append_assoc] at hcut
  refine Stands.read (mem_kinds_content .instruction) h hcut (Or.inr ?_)
  exact ⟨rfl, _, alone, j, k, rfl, hrun⟩

theorem keeps_document : Keeps (Stands t .content) document := by
  refine fun r hr => leaves_remaining_bind ?_
  refine .ite (fun _ => leaves_fail_bind _) fun _ => ?_
  dsimp only
  refine .ite (fun _ => ?_) fun _ => ?_
  · refine leaves_expect_bind ?_
    rintro u rfl
    exact (leaves_declarationSection hr).bind fun alone u hu => keeps_typeAndRest alone u hu
  · exact (keeps_pure false r hr).bind fun alone u hu => keeps_typeAndRest alone u hu

end Scan

/-- A byte order mark begins no section. -/
theorem sections_withoutMark (t : Text) : sections (withoutMark t) = sections t := by
  unfold withoutMark
  split
  · next c r =>
    split
    · next hmark =>
      have hidle : Region.content.Idle c := by
        rintro rfl
        exact absurd hmark (by decide)
      rw [sections, sections, sectionsFrom_passed (hidle.opens? r), hidle.after]
    · rfl
  · rfl

/-- **The check of a document reads the sections that are found in it**, as far as it reads it. -/
theorem sections_of_checksTo {t rest : Text} {journal : Journal} (h : ChecksTo t rest journal) :
    ∃ found, sections t = found ++ sections rest ∧ (∀ s ∈ found, s.ReadIn t) ∧
      (rest.isEmpty ∨ journal.first.isSome) := by
  have hstart := stands_start (withoutMark t)
  obtain ⟨found, hreaches⟩ := Scan.keeps_document _ hstart {} () rest journal h
  refine ⟨found, ?_, fun s hs => ?_, Scan.isEmpty_or_isSome_first h⟩
  · rw [← sections_withoutMark, hreaches.sections_eq]
    rfl
  · obtain ⟨r, hsuffix, hread⟩ := hreaches.readIn s hs
    exact ⟨r, hsuffix.trans (withoutMark_suffix t), hread⟩

/-- Where no error is noted, every section is one that the check reads. -/
theorem readIn_of_mem_sections {t rest : Text} {journal : Journal} (h : ChecksTo t rest journal)
    (hfirst : journal.first = none) : ∀ s ∈ sections t, s.ReadIn t := by
  obtain ⟨found, hsections, hread, hend⟩ := sections_of_checksTo h
  obtain rfl : rest = [] := by simpa [hfirst] using hend
  rw [hsections, sections, sectionsFrom_nil, List.append_nil]
  exact hread

/-- Between quotes, in a document type, no section begins. -/
example : sections "<!DOCTYPE a SYSTEM '<!--' [<?b c?>]><a><![CDATA[d]]></a>" =
    [⟨.instruction, "b c"⟩, ⟨.literal, "d"⟩] := by decide

end StructuredText.Xml
