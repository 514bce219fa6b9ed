/-
# Where reading fails

Whatever surrounds it, a fault is told at a place up to which the text can still be completed to a
document.  The only other ways to fail are a value that is refused without a place, and a container
too many.

* `FailsWithin` is about a fault behind a beginning of texts of some kind;
* `Stops` gathers the ways in which the reading of a document can fail;
* `readValue_stops`: from a place where a value is due, the reader stops in one of them;
* `parseWithin_stops` is about whole documents.
-/
import Mathlib
import StructuredText.Json.Parser
import StructuredText.Proofs.Json.Acceptance
import StructuredText.Proofs.Json.Beginnings
import StructuredText.Proofs.Json.Unreadable
import StructuredText.Proofs.Json.WrittenStrings

namespace StructuredText.Json

open CodePoint (ofChar)

/-! ## Beginnings of strings and names -/

/-- A fault at a place of a text up to which it can be completed to a text of some kind. -/
def FailsWithin (kind : Text → Prop) (t : Text) (fault : Fault) : Prop :=
  ∃ complaint front rest after, fault = .located complaint rest ∧ t = front ++ rest ∧
    kind (front ++ after)

/-- A string with its quotes. -/
inductive StringText : Text → Prop
  | mk {t : Text} {parts : List StringPart} (h : PartsText t parts) :
      StringText (ofChar '"' :: (t ++ [ofChar '"']))

/-- A fault right behind some parts of a string. -/
theorem failsWithin_parts {body rest : Text} {parts : List StringPart} (h : PartsText body parts)
    (complaint : Complaint) :
    FailsWithin StringText (ofChar '"' :: (body ++ rest)) (.located complaint rest) :=
  ⟨complaint, ofChar '"' :: body, rest, [ofChar '"'], rfl, rfl, .mk h⟩

/-- **A string fails at its opening quote, or behind a beginning of a string.** -/
theorem readString_fault {opening t : Text} (before : t.length < opening.length) (read : Text)
    {fault : Fault} (h : readString opening t before read = .error fault) {body : Text}
    {parts : List StringPart} (hbody : PartsText body parts)
    (hopening : opening = ofChar '"' :: (body ++ t)) : FailsWithin StringText opening fault := by
  have hquote : FailsWithin StringText opening (.located .unterminatedString opening) :=
    ⟨_, [], opening, [ofChar '"', ofChar '"'], rfl, rfl, .mk .nil⟩
  -- Along the reader, with the parts that are behind it already.
  induction t, before, read using readString.induct generalizing body parts with
  | case1 read before _ =>
    rw [readString.eq_def] at h
    obtain rfl := Except.error.inj h
    exact hquote
  | case2 read r before _ =>
    have hread := readString_quote before read
    rw [h] at hread
    exact absurd hread (by simp)
  | case3 read hbackslash before _ =>
    rw [readString.eq_def] at h
    simp only [if_neg hbackslash, if_true] at h
    obtain rfl := Except.error.inj h
    exact hquote
  | case4 read r d r' hr hunit hbackslash before _ ih =>
    obtain ⟨before', hstep⟩ := readString_unit hunit before read
    obtain ⟨escape, units, htext, hunits, -⟩ := unicodeEscape?_takes hunit
    rw [hstep] at h
    rw [htext, ← List.append_assoc] at hopening
    exact ih h (hbody.append hunits) hopening
  | case5 read r hunit hbackslash before _ =>
    rw [readString.eq_def] at h
    simp only [if_neg hbackslash, if_true, hunit] at h
    obtain rfl := Except.error.inj h
    -- The letter may become another one, such as a quote.
    refine ⟨_, ofChar '"' :: (body ++ [ofChar '\\']), _, [ofChar '"', ofChar '"'], rfl, ?_, ?_⟩
    · simp [hopening]
    · have hquoted : PartsText (body ++ [ofChar '\\', ofChar '"']) _ :=
        hbody.append (.short (show (ofChar '"', ofChar '"') ∈ shortEscapes by decide) .nil)
      simpa using StringText.mk hquoted
  | case6 read e r he d hshort hbackslash before _ ih =>
    have hmem := (shortEscape?_eq_some_iff e d).mp hshort
    obtain ⟨before', hstep⟩ := readString_short hmem before read
    rw [hstep] at h
    exact ih h (hbody.append (.short hmem .nil)) (by simp [hopening])
  | case7 read e r he hshort hbackslash before _ =>
    rw [readString.eq_def] at h
    simp only [if_neg hbackslash, if_true, if_neg he, hshort] at h
    obtain rfl := Except.error.inj h
    exact hopening ▸ failsWithin_parts hbody _
  | case8 read c r before hnotQuote hbackslash hcontrol _ =>
    rw [readString.eq_def] at h
    simp only [if_neg hnotQuote, if_neg hbackslash, if_pos hcontrol] at h
    obtain rfl := Except.error.inj h
    exact hopening ▸ failsWithin_parts hbody _
  | case9 read c r before hnotQuote hbackslash hcontrol _ ih =>
    have hc : Unescaped c := ⟨not_lt.mp hcontrol, hnotQuote, hbackslash⟩
    obtain ⟨before', hstep⟩ := readString_plain hc before read
    rw [hstep] at h
    exact ih h (hbody.append (.plain hc .nil)) (by simp [hopening])

theorem StringText.key {s : Text} (h : StringText s) : KeyText (s ++ [ofChar ':']) := by
  obtain @⟨t, parts, h⟩ := h
  simpa using KeyText.mk h .nil

/-- **A name fails behind a beginning of a name with its colon.** -/
theorem readKey_fault {t : Text} {fault : Fault} (h : readKey t = .error fault) :
    FailsWithin KeyText t fault := by
  have hname : FailsWithin KeyText t (.located .nameExpected t) :=
    ⟨_, [], t, _, rfl, rfl, .mk .nil .nil⟩
  cases t with
  | nil => exact Except.error.inj h ▸ hname
  | cons c r =>
    rw [readKey.eq_def] at h
    simp only at h
    by_cases hc : c = ofChar '"'
    · subst hc
      rw [if_pos rfl] at h
      split at h
      · rename_i fault' hstring
        obtain rfl := Except.error.inj h
        obtain ⟨complaint, front, rest, after, hfault, htext, hkind⟩ :=
          readString_fault _ _ hstring .nil rfl
        refine ⟨complaint, front, rest, after ++ [ofChar ':'], hfault, htext, ?_⟩
        rw [← List.append_assoc]
        exact hkind.key
      · rename_i s r' shorter hstring
        obtain ⟨k, parts, rfl, hk, rfl⟩ :=
          (readString_eq_some_iff _ _ _).mp (outcome?_eq_some_iff.mpr ⟨shorter, hstring⟩)
        obtain ⟨w, hw, hr⟩ := exists_skipBlanks r'
        have hcolon : FailsWithin KeyText (ofChar '"' :: (k ++ ofChar '"' :: r'))
            (.located .colonExpected (skipBlanks r')) := by
          refine ⟨_, ofChar '"' :: (k ++ ofChar '"' :: w), _, [ofChar ':'], rfl, ?_, ?_⟩
          · rw [List.cons_append, List.append_assoc, List.cons_append, ← hr]
          · simpa using KeyText.mk hk hw
        split at h
        · rename_i hskip
          rw [hskip] at hcolon
          exact Except.error.inj h ▸ hcolon
        · rename_i d r'' hskip
          rw [hskip] at hcolon
          split at h
          · exact absurd h (by simp)
          · exact Except.error.inj h ▸ hcolon
    · rw [if_neg hc] at h
      exact Except.error.inj h ▸ hname

/-! ## Ways to fail -/

/-- A value that is refused without a place stands where a value is due. -/
def Meets (levels : ℕ) (text : Text) (fault : Fault) : Prop :=
  ∃ left before t, text = before ++ t ∧ Awaits levels left before ∧ Unreadable t fault

/-- The ways in which the reading of a text can fail, where at most so many containers may stand
inside each other. -/
inductive Stops (levels : ℕ) (text : Text) : Fault → Prop
  | placed {before rest : Text} (complaint : Complaint) (htext : text = before ++ rest)
      (h : Completable levels before) : Stops levels text (.located complaint rest)
  | meets {fault : Fault} (h : Meets levels text fault) : Stops levels text fault
  | tooDeep {before t : Text} {c : CodePoint} (htext : text = before ++ c :: t)
      (h : Awaits levels 0 before) : Stops levels text (.tooDeep c)

/-- What can be completed alone can be completed behind a text. -/
theorem FailsWithin.stops {kind : Text → Prop} {b t : Text} {fault : Fault} {levels : ℕ}
    (h : FailsWithin kind t fault) (hkind : ∀ s, kind s → Completable levels (b ++ s)) :
    Stops levels (b ++ t) fault := by
  obtain ⟨complaint, front, rest, after, rfl, rfl, hfront⟩ := h
  have hwhole := hkind _ hfront
  rw [← List.append_assoc] at hwhole
  exact .placed complaint (List.append_assoc b front rest).symm hwhole.of_append

/-- A reader of values stops in one of these ways wherever a value is due. -/
def Stopping (item : (t : Text) → Reading Value t) (levels left : ℕ) : Prop :=
  ∀ b t fault, Awaits levels left b → item t = .error fault → Stops levels (b ++ t) fault

theorem eq_error_of_map {ε α β : Type} {f : α → β} {x : Except ε α} {e : ε}
    (h : x.map f = .error e) : x = .error e := by
  cases x with
  | error e' => exact congrArg Except.error (Except.error.inj h)
  | ok a => exact absurd h (by simp [Except.map])

/-! ## Items -/

section Items

variable {item : (t : Text) → Reading Value t} {levels left : ℕ} {b opening t : Text}

/-- What is read is an item, with the white space after it. -/
theorem Sound.exists_items {r : Text} {v : Value} (hsound : Sound item left)
    (h : outcome? (item t) = some (v, r)) :
    ∃ body tree, t = body ++ skipBlanks r ∧ tree.Fits left ∧
      ∀ w, Blanks w → ItemsText (w ++ body) [tree] := by
  obtain ⟨front, tree, rfl, htree, hvalue⟩ := hsound t v r h
  obtain ⟨w', hw', hr⟩ := exists_skipBlanks r
  refine ⟨front ++ w', tree, ?_, ⟨v, hvalue⟩, fun w hw => ?_⟩
  · rw [List.append_assoc, ← hr]
  · rw [← List.append_assoc]
    exact .last hw htree hw'

/-- Behind an item a comma is due, and its place is behind a beginning of a document. -/
theorem Awaits.stops_behind_item (hb : Awaits levels (left + 1) b) (hsound : Sound item left)
    {v : Value} {r : Text} (h : outcome? (item t) = some (v, r)) {ts w : Text} {items : List Tree}
    (ahead : ItemsAhead ts items) (fits : ∀ tree ∈ items, tree.Fits left) (hw : Blanks w) :
    Stops levels (b ++ ofChar '[' :: (ts ++ w) ++ t) (.located .commaExpected (skipBlanks r)) := by
  obtain ⟨body, tree, htext, hfits, hbody⟩ := hsound.exists_items h
  refine .placed _ ?_ (hb.completable_items (ahead.append (hbody w hw))
    (List.forall_mem_append.mpr ⟨fits, List.forall_mem_singleton.mpr hfits⟩))
  rw [htext]
  simp

/-- **Items stop like the values in them**, or where a comma is due. -/
theorem readItems_stops (hitem : Stopping item levels left) (hsound : Sound item left)
    (hb : Awaits levels (left + 1) b) (before : t.length < opening.length) (read : List Value)
    {fault : Fault} (h : readItems item opening t before read = .error fault) {ts w : Text}
    {items : List Tree} (ahead : ItemsAhead ts items) (fits : ∀ tree ∈ items, tree.Fits left)
    (hw : Blanks w) : Stops levels (b ++ ofChar '[' :: (ts ++ w) ++ t) fault := by
  -- Along the reader, with the items that are behind it already.
  induction t, before, read using readItems.induct item opening generalizing ts w items with
  | case1 t before read fault' herror =>
    rw [readItems_of_error herror] at h
    obtain rfl := Except.error.inj h
    exact hitem _ _ _ (hb.inside (.item ahead fits hw)) herror
  | case2 t before read v r shorter hv hr =>
    have hread := outcome?_eq_some_iff.mpr ⟨shorter, hv⟩
    rw [readItems_of_other hread (by simp [hr])] at h
    obtain rfl := Except.error.inj h
    exact hr ▸ hb.stops_behind_item hsound hread ahead fits hw
  | case3 t before read v r shorter hv r' hr _ =>
    have hread := readItems_last (outcome?_eq_some_iff.mpr ⟨shorter, hv⟩) hr before read
    rw [h] at hread
    exact absurd hread (by simp)
  | case4 t before read v r shorter hv r' _ hr _ _ ih =>
    have hread := outcome?_eq_some_iff.mpr ⟨shorter, hv⟩
    obtain ⟨before', hstep⟩ := readItems_more hread hr before read
    rw [hstep] at h
    obtain ⟨body, tree, htext, hfits, hbody⟩ := hsound.exists_items hread
    obtain ⟨w', hw', hr'⟩ := exists_skipBlanks r'
    have hrest := ih h (.some (ahead.append (hbody w hw)))
      (List.forall_mem_append.mpr ⟨fits, List.forall_mem_singleton.mpr hfits⟩) hw'
    have hwhole : b ++ ofChar '[' :: (ts ++ w) ++ t =
        b ++ ofChar '[' :: (ts ++ (w ++ body) ++ [ofChar ','] ++ w') ++ skipBlanks r' := by
      rw [htext, hr]
      simp [← hr']
    rw [hwhole]
    exact hrest
  | case5 t before read v r shorter hv c r' hr _ hclose hcomma =>
    have hread := outcome?_eq_some_iff.mpr ⟨shorter, hv⟩
    rw [readItems_of_other hread (by simp [hr, hclose, hcomma])] at h
    obtain rfl := Except.error.inj h
    exact hr ▸ hb.stops_behind_item hsound hread ahead fits hw

theorem readArray_stops (hitem : Stopping item levels left) (hsound : Sound item left)
    (hb : Awaits levels (left + 1) b) {r : Text} {fault : Fault}
    (h : readArray item (ofChar '[') r = .error fault) :
    Stops levels (b ++ ofChar '[' :: r) fault := by
  obtain ⟨w, hw, hr⟩ := exists_skipBlanks r
  have htext : b ++ ofChar '[' :: r = b ++ ofChar '[' :: ([] ++ w) ++ skipBlanks r := by
    rw [List.nil_append, List.append_assoc, List.cons_append, ← hr]
  have hfirst := hb.inside (.item .none (by simp) hw)
  rw [htext]
  cases hskip : skipBlanks r with
  | nil =>
    rw [readArray_unfinished hskip] at h
    obtain rfl := Except.error.inj h
    exact .placed _ rfl hfirst.completable
  | cons c r' =>
    obtain ⟨_, before, hread⟩ := readArray_of_next hskip item (ofChar '[')
    rw [hread] at h
    split at h
    · exact absurd h (by simp)
    · exact readItems_stops hitem hsound hb _ _ (eq_error_of_map h) .none (by simp) hw

end Items

/-! ## Members -/

section Members

variable {item : (t : Text) → Reading Value t} {levels left : ℕ} {b opening t : Text}

/-- What is read is a member, with the white space after it. -/
theorem Sound.exists_members {m : Member} {r : Text} (hsound : Sound item left)
    (h : memberOutcome? item t = some (m, r)) :
    ∃ body member, t = body ++ skipBlanks r ∧ member.2.Fits left ∧
      ∀ w, Blanks w → MembersText (w ++ body) [member] := by
  obtain ⟨front, parts, tree, htext, hmember, -, hvalue⟩ := memberOutcome?_sound hsound h
  refine ⟨front, (parts, tree), htext, ⟨_, hvalue⟩, fun w hw => .last ?_⟩
  simpa using hmember.blanks_append hw .nil

/-- Where a member is due, reading stops at its name or at its value. -/
theorem Awaits.stops_at_member (hb : Awaits levels (left + 1) b) (hitem : Stopping item levels left)
    (hnone : memberOutcome? item t = none) (before : t.length < opening.length)
    (read : List Member) {fault : Fault} (h : readMembers item opening t before read = .error fault)
    {ts w : Text} {members : List (List StringPart × Tree)} (ahead : MembersAhead ts members)
    (fits : ∀ m ∈ members, m.2.Fits left) (hw : Blanks w) :
    Stops levels (b ++ ofChar '{' :: (ts ++ w) ++ t) fault := by
  cases hread : readKey t with
  | error fault' =>
    rw [readMembers_of_key_error hread] at h
    obtain rfl := Except.error.inj h
    exact (readKey_fault hread).stops fun k hk => hb.completable_key ahead fits hw hk
  | ok outcome =>
    obtain ⟨key, r, shorter⟩ := outcome
    have hkey := outcome?_eq_some_iff.mpr ⟨shorter, hread⟩
    rw [memberOutcome?_of_readKey hkey, Option.map_eq_none_iff] at hnone
    obtain ⟨fault', hvalue⟩ := outcome?_eq_none_iff.mp hnone
    rw [readMembers_of_error hkey hvalue] at h
    obtain rfl := Except.error.inj h
    obtain ⟨k, w₁, parts, rfl, hk, hw₁, -⟩ := readKey_sound hkey
    obtain ⟨w₂, hw₂, hr⟩ := exists_skipBlanks r
    have hstop := hitem _ _ _ (hb.inside (.member ahead fits hw (.mk hk hw₁) hw₂)) hvalue
    have hwhole : b ++ ofChar '{' :: (ts ++ w) ++
        ofChar '"' :: (k ++ ofChar '"' :: (w₁ ++ ofChar ':' :: r)) =
        b ++ ofChar '{' :: (ts ++ (w ++ (ofChar '"' :: (k ++ ofChar '"' ::
          (w₁ ++ [ofChar ':'])) ++ w₂))) ++ skipBlanks r := by
      conv_lhs => rw [hr]
      simp
    rw [hwhole]
    exact hstop

/-- Behind a member a comma is due, and its place is behind a beginning of a document. -/
theorem Awaits.stops_behind_member (hb : Awaits levels (left + 1) b) (hsound : Sound item left)
    {m : Member} {r : Text} (h : memberOutcome? item t = some (m, r)) {ts w : Text}
    {members : List (List StringPart × Tree)} (ahead : MembersAhead ts members)
    (fits : ∀ m ∈ members, m.2.Fits left) (hw : Blanks w) :
    Stops levels (b ++ ofChar '{' :: (ts ++ w) ++ t) (.located .commaExpected (skipBlanks r)) := by
  obtain ⟨body, member, htext, hfits, hbody⟩ := hsound.exists_members h
  refine .placed _ ?_ (hb.completable_members (ahead.append (hbody w hw))
    (List.forall_mem_append.mpr ⟨fits, List.forall_mem_singleton.mpr hfits⟩))
  rw [htext]
  simp

/-- **Members stop like the values in them**, at a name or where a comma is due. -/
theorem readMembers_stops (hitem : Stopping item levels left) (hsound : Sound item left)
    (hb : Awaits levels (left + 1) b) (before : t.length < opening.length) (read : List Member)
    {fault : Fault} (h : readMembers item opening t before read = .error fault) {ts w : Text}
    {members : List (List StringPart × Tree)} (ahead : MembersAhead ts members)
    (fits : ∀ m ∈ members, m.2.Fits left) (hw : Blanks w) :
    Stops levels (b ++ ofChar '{' :: (ts ++ w) ++ t) fault := by
  -- Along the reader, with the members that are behind it already.
  induction t, read using members_induction item generalizing ts w members with
  | none t read hread => exact hb.stops_at_member hitem hread before read h ahead fits hw
  | last t read m r r' hread hskip =>
    have hlast := readMembers_last hread hskip before read
    rw [h] at hlast
    exact absurd hlast (by simp)
  | more t read m r r' hread hskip ih =>
    obtain ⟨before', hstep⟩ := readMembers_more hread hskip before read
    rw [hstep] at h
    obtain ⟨body, member, htext, hfits, hbody⟩ := hsound.exists_members hread
    obtain ⟨w', hw', hr'⟩ := exists_skipBlanks r'
    have hrest := ih before' h (.some (ahead.append (hbody w hw)))
      (List.forall_mem_append.mpr ⟨fits, List.forall_mem_singleton.mpr hfits⟩) hw'
    have hwhole : b ++ ofChar '{' :: (ts ++ w) ++ t =
        b ++ ofChar '{' :: (ts ++ (w ++ body) ++ [ofChar ','] ++ w') ++ skipBlanks r' := by
      rw [htext, hskip]
      simp [← hr']
    rw [hwhole]
    exact hrest
  | other t read m r hread hother =>
    rw [readMembers_of_other hread hother] at h
    obtain rfl := Except.error.inj h
    exact hb.stops_behind_member hsound hread ahead fits hw

theorem readObject_stops (hitem : Stopping item levels left) (hsound : Sound item left)
    (hb : Awaits levels (left + 1) b) {r : Text} {fault : Fault}
    (h : readObject item (ofChar '{') r = .error fault) :
    Stops levels (b ++ ofChar '{' :: r) fault := by
  obtain ⟨w, hw, hr⟩ := exists_skipBlanks r
  have htext : b ++ ofChar '{' :: r = b ++ ofChar '{' :: ([] ++ w) ++ skipBlanks r := by
    rw [List.nil_append, List.append_assoc, List.cons_append, ← hr]
  have hfirst := hb.completable_key .none (by simp) hw (.mk .nil .nil)
  rw [htext]
  cases hskip : skipBlanks r with
  | nil =>
    rw [readObject_unfinished hskip] at h
    obtain rfl := Except.error.inj h
    exact .placed _ rfl hfirst.of_append
  | cons c r' =>
    obtain ⟨_, before, hread⟩ := readObject_of_next hskip item (ofChar '{')
    rw [hread] at h
    split at h
    · exact absurd h (by simp)
    · exact readMembers_stops hitem hsound hb _ _ (eq_error_of_map h) .none (by simp) hw

end Members

/-! ## Values -/

/-- A reader stops in one of these ways if it does so on containers. -/
theorem stopping_of_containers {levels left : ℕ}
    (hcontainer : ∀ b c r fault, Awaits levels left b → c = ofChar '[' ∨ c = ofChar '{' →
      readValue left (c :: r) = .error fault → Stops levels (b ++ c :: r) fault) :
    Stopping (readValue left) levels left := by
  intro b t fault hb h
  cases t with
  | nil =>
    rw [readValue.eq_def] at h
    obtain rfl := Except.error.inj h
    exact .placed _ rfl hb.completable
  | cons c r =>
    by_cases hquote : c = ofChar '"'
    · subst hquote
      rw [readValue.eq_def] at h
      simp only [if_true] at h
      have hstring := readString_fault _ _ (eq_error_of_map h) .nil rfl
      refine hstring.stops fun s hs => ?_
      obtain ⟨hparts⟩ := hs
      exact hb.complete (.string hparts) (fits_string left _)
    · by_cases hopening : c = ofChar '[' ∨ c = ofChar '{'
      · exact hcontainer b c r fault hb hopening h
      · obtain ⟨hbracket, hbrace⟩ := not_or.mp hopening
        rw [readValue_scalar left r hquote hbracket hbrace] at h
        rcases readScalar_fault h with rfl | hunreadable
        · exact .placed _ rfl hb.completable
        · exact .meets ⟨left, b, c :: r, rfl, hb, hunreadable⟩

/-- **From a place where a value is due, the reader stops** behind a beginning of a document, at a
value that is refused without a place, or at a container too many. -/
theorem readValue_stops (levels left : ℕ) : Stopping (readValue left) levels left := by
  induction left with
  | zero =>
    refine stopping_of_containers fun b c r fault hb hc h => ?_
    have hquote : c ≠ ofChar '"' := by rcases hc with rfl | rfl <;> decide
    rw [readValue.eq_def] at h
    simp only [if_neg hquote, if_pos hc] at h
    obtain rfl := Except.error.inj h
    exact .tooDeep rfl hb
  | succ left ih =>
    refine stopping_of_containers fun b c r fault hb hc h => ?_
    rcases hc with rfl | rfl
    · rw [readValue_array] at h
      exact readArray_stops ih (readValue_sound left) hb h
    · rw [readValue_object] at h
      exact readObject_stops ih (readValue_sound left) hb h

/-! ## Documents -/

/-- **A document stops in one of these ways**, if it is not read. -/
theorem parseWithin_stops {levels : ℕ} {text : Text} {fault : Fault}
    (h : parseWithin levels text = .error fault) : Stops levels text fault := by
  have hstart : Awaits levels levels [] := .start .nil
  unfold parseWithin at h
  split at h
  · obtain rfl := Except.error.inj h
    exact .placed _ (List.nil_append text).symm hstart.completable
  · obtain ⟨w, hw, htext⟩ := exists_skipBlanks text
    split at h
    · rename_i fault' hread
      obtain rfl := Except.error.inj h
      rw [htext]
      exact readValue_stops levels levels w _ _ (.start hw) hread
    · rename_i v r shorter hread
      obtain ⟨front, tree, hfront, htree, hvalue⟩ :=
        readValue_sound levels _ _ _ (outcome?_eq_some_iff.mpr ⟨shorter, hread⟩)
      obtain ⟨w', hw', hend⟩ := exists_skipBlanks r
      split at h
      · exact absurd h (by simp)
      · rename_i c r' hskip
        obtain rfl := Except.error.inj h
        refine .placed _ ?_ (completable_of_documentText (.mk hw htree hw') ⟨v, hvalue⟩)
        rw [htext, hfront, hend, hskip]
        simp

end StructuredText.Json
