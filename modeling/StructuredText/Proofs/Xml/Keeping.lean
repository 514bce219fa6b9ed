/-
# What scans keep

A scan leaves an end of its text, and much of what is known of the text is known of that end too, as
long as the scan passes nothing that matters.  What a scan keeps is put together from what its parts
keep.

* `Leaves` tells what a scan gives and leaves, `Keeps` that something stays so;
* `Outlives`: what stays so as long as code points of a class are passed;
* names and references pass none of the marks (`keeps_qualifiedName`, `keeps_reference`), attributes
  and tags no opening bracket (`keeps_attributes`, `keeps_endTag`), and a declaration no question
  mark but that of its end (`leaves_declaration`).
-/
import Mathlib
import StructuredText.Proofs.Xml.FollowingDocuments

namespace StructuredText.Xml.Scan

open Text CodePoint

variable {α β σ : Type} {t r : Text}

/-! ## What a scan leaves -/

/-- Whatever a scan gives and leaves of a text, it is so. -/
def Leaves (scan : Scan α) (t : Text) (post : α → Text → Prop) : Prop :=
  ∀ j a r k, run scan j t = .ok (a, r, k) → post a r

section Leaves

variable {scan : Scan α} {next : α → Scan β} {mid : α → Text → Prop} {post : β → Text → Prop}

theorem leaves_pure {b : β} (h : post b t) : Leaves (pure b) t post := by
  intro j b' r k hrun
  obtain ⟨rfl, rfl, -⟩ : b = b' ∧ t = r ∧ j = k := by simpa using hrun
  exact h

theorem leaves_fail (complaint : Complaint) : Leaves (fail complaint) t post :=
  fun _ _ _ _ hrun => absurd hrun (by simp)

theorem leaves_fail_bind (complaint : Complaint) : Leaves (fail complaint >>= next) t post :=
  fun _ _ _ _ hrun => absurd hrun (by simp [error_bind])

theorem Leaves.mono {post' : β → Text → Prop} {scan : Scan β} (h : Leaves scan t post)
    (hpost : ∀ b r, post b r → post' b r) : Leaves scan t post' :=
  fun j b r k hrun => hpost b r (h j b r k hrun)

theorem Leaves.bind (h : Leaves scan t mid) (hnext : ∀ a r, mid a r → Leaves (next a) r post) :
    Leaves (scan >>= next) t post := by
  intro j b u k hrun
  obtain ⟨a, r, k', hscan, hrest⟩ := run_bind_eq_ok hrun
  exact hnext a r (h j a r k' hscan) k' b u k hrest

theorem Leaves.ite {p : Prop} [Decidable p] {s u : Scan β} (hs : p → Leaves s t post)
    (hu : ¬ p → Leaves u t post) : Leaves (if p then s else u) t post := by
  split
  · exact hs ‹_›
  · exact hu ‹_›

theorem leaves_peek_bind {next : Option CodePoint → Scan β} (h : Leaves (next t.head?) t post) :
    Leaves (peek >>= next) t post := by
  intro j b r k hrun
  rw [run_bind, run_peek, ok_bind] at hrun
  exact h j b r k hrun

theorem leaves_remaining_bind {next : Text → Scan β} (h : Leaves (next t) t post) :
    Leaves (remaining >>= next) t post := by
  intro j b r k hrun
  rw [run_bind, run_remaining, ok_bind] at hrun
  exact h j b r k hrun

theorem leaves_skip_bind {c : CodePoint} {next : Unit → Scan β} (h : Leaves (next ()) r post) :
    Leaves (skip >>= next) (c :: r) post := by
  intro j b u k hrun
  rw [run_bind, run_skip, ok_bind] at hrun
  exact h j b u k hrun

theorem leaves_takeWhile {p : CodePoint → Bool} {post : Text → Text → Prop}
    (h : post (t.takeWhile p) (t.dropWhile p)) : Leaves (takeWhile p) t post := by
  intro j s r k hrun
  obtain ⟨rfl, rfl, -⟩ : t.takeWhile p = s ∧ t.dropWhile p = r ∧ j = k := by simpa using hrun
  exact h

theorem eq_append_of_isPrefixOf {word : Text} (h : word.isPrefixOf t) :
    t = word ++ t.drop word.length :=
  List.prefix_iff_eq_append.mp (List.isPrefixOf_iff_prefix.mp h) |>.symm

theorem leaves_accept_bind {word : Text} {next : Bool → Scan β}
    (hword : ∀ r, t = word ++ r → Leaves (next true) r post) (hother : Leaves (next false) t post) :
    Leaves (accept word >>= next) t post := by
  intro j b u k hrun
  rw [run_bind, run_accept] at hrun
  split at hrun
  · next h => exact hword _ (eq_append_of_isPrefixOf h) j b u k hrun
  · exact hother j b u k hrun

theorem leaves_expect {word : Text} (complaint : Complaint) {post : Unit → Text → Prop}
    (h : ∀ r, t = word ++ r → post () r) : Leaves (expect word complaint) t post := by
  refine leaves_accept_bind (fun r hr => ?_) (leaves_fail _)
  exact leaves_pure (h r hr)

theorem leaves_expect_bind {word : Text} {complaint : Complaint} {next : Unit → Scan β}
    (h : ∀ r, t = word ++ r → Leaves (next ()) r post) :
    Leaves (expect word complaint >>= next) t post := by
  have hword : Leaves (expect word complaint) t fun _ r => t = word ++ r :=
    leaves_expect _ fun _ hr => hr
  exact hword.bind fun _ r hr => h r hr

/-- Where one of some words is passed, the text begins with it. -/
theorem leaves_acceptAny (words : List Text) (t : Text) :
    Leaves (acceptAny words) t fun found r =>
      if found then ∃ word ∈ words, t = word ++ r else r = t := by
  induction words with
  | nil => exact leaves_pure rfl
  | cons word words ih =>
    refine leaves_accept_bind (fun r hr => leaves_pure ⟨word, List.mem_cons_self, hr⟩) ?_
    refine ih.mono fun found r h => ?_
    cases found with
    | false => exact h
    | true =>
      obtain ⟨word', hmem, hr⟩ := h
      exact ⟨word', List.mem_cons_of_mem word hmem, hr⟩

theorem leaves_isNext_bind {word : Text} {next : Bool → Scan β}
    (hword : ∀ r, t = word ++ r → Leaves (next true) t post) (hother : Leaves (next false) t post) :
    Leaves (isNext word >>= next) t post := by
  intro j b u k hrun
  rw [run_bind, run_isNext, ok_bind] at hrun
  cases hnext : word.isPrefixOf t with
  | true => exact hword _ (eq_append_of_isPrefixOf hnext) j b u k (hnext ▸ hrun)
  | false => exact hother j b u k (hnext ▸ hrun)

/-- What comes of a turn of a loop behind the code point that it passes, if it goes on. -/
def Takes (turn : Except Complaint (Option (Scan β))) (r : Text) (post : β → Text → Prop) : Prop :=
  ∀ scan, turn = .ok (some scan) → Leaves scan r post

theorem takes_error (complaint : Complaint) : Takes (.error complaint) r post :=
  fun _ h => absurd h (by simp)

theorem takes_none : Takes (.ok none) r post := fun _ h => absurd h (by simp)

theorem takes_some {scan : Scan β} (h : Leaves scan r post) : Takes (.ok (some scan)) r post := by
  intro scan' heq
  rwa [← Option.some.inj (Except.ok.inj heq)]

theorem Takes.ite {p : Prop} [Decidable p] {turn turn' : Except Complaint (Option (Scan β))}
    (hturn : p → Takes turn r post) (hturn' : ¬ p → Takes turn' r post) :
    Takes (if p then turn else turn') r post := by
  split
  · exact hturn ‹_›
  · exact hturn' ‹_›

/-- What the turns of a loop keep, the loop keeps. -/
theorem leaves_loop {next : σ → CodePoint → Text → Except Complaint (Option (Scan σ))}
    {inv : σ → Text → Prop} (hturn : ∀ s c r, inv s (c :: r) → Takes (next s c r) r inv) {s : σ}
    (h : inv s t) : Leaves (loop next s) t inv := by
  intro j s' u k hrun
  induction hlength : t.length using Nat.strong_induction_on generalizing s j t with
  | h n ih =>
    cases t with
    | nil =>
      obtain ⟨rfl, rfl, -⟩ : s = s' ∧ [] = u ∧ j = k := by simpa using hrun
      exact h
    | cons c r =>
      cases hnext : next s c r with
      | error complaint =>
        rw [run_loop_of_error hnext] at hrun
        exact absurd hrun (by simp)
      | ok turn =>
        cases turn with
        | none =>
          rw [run_loop_of_none hnext] at hrun
          obtain ⟨rfl, rfl, -⟩ : s = s' ∧ c :: r = u ∧ j = k := by simpa using hrun
          exact h
        | some scan =>
          rw [run_loop_of_some hnext] at hrun
          obtain ⟨s₁, r₁, k₁, hscan, hrest⟩ := run_bind_eq_ok hrun
          have hshorter : r₁.length < n := by
            have := length_run hscan
            rw [← hlength, List.length_cons]
            omega
          exact ih _ hshorter (hturn s c r h scan hnext j s₁ r₁ k₁ hscan) k₁ hrest rfl

end Leaves

/-! ## What a scan keeps -/

/-- What is so of a text is so of what the scan leaves of it. -/
def Keeps (inv : Text → Prop) (scan : Scan α) : Prop := ∀ t, inv t → Leaves scan t fun _ => inv

section Keeps

variable {inv : Text → Prop} {scan : Scan α} {next : α → Scan β}

theorem keeps_pure (a : α) : Keeps inv (pure a) := fun _ h => leaves_pure h

theorem keeps_fail (complaint : Complaint) : Keeps inv (fail complaint : Scan α) :=
  fun _ _ => leaves_fail complaint

theorem Keeps.bind (h : Keeps inv scan) (hnext : ∀ a, Keeps inv (next a)) :
    Keeps inv (scan >>= next) :=
  fun t ht => (h t ht).bind fun a r hr => hnext a r hr

theorem Keeps.ite {p : Prop} [Decidable p] {u : Scan α} (hscan : p → Keeps inv scan)
    (hu : ¬ p → Keeps inv u) : Keeps inv (if p then scan else u) :=
  fun t ht => .ite (fun hp => hscan hp t ht) fun hp => hu hp t ht

section When

variable {p : Prop} [Decidable p] {e : Scan Unit} {f : Unit → Scan α}

/-- What is done only sometimes, and what comes after it in any case. -/
theorem Leaves.when {post : α → Text → Prop} (ht : inv t) (he : Keeps inv e)
    (hf : ∀ r, inv r → Leaves (f ()) r post) : Leaves (if p then e >>= f else f ()) t post :=
  .ite (fun _ => (he t ht).bind fun _ r hr => hf r hr) fun _ => hf t ht

theorem Keeps.when (he : Keeps inv e) (hf : Keeps inv (f ())) :
    Keeps inv (if p then e >>= f else f ()) :=
  fun _ ht => .when ht he hf

theorem Keeps.unless (he : Keeps inv e) (hf : Keeps inv (f ())) :
    Keeps inv (if p then f () else e >>= f) :=
  .ite (fun _ => hf) fun _ => he.bind fun _ => hf

end When

/-- A scan that passes nothing keeps everything. -/
theorem keeps_of_run (h : ∀ j t a r k, run scan j t = .ok (a, r, k) → r = t) : Keeps inv scan := by
  intro t ht j a r k hrun
  rw [h j t a r k hrun]
  exact ht

theorem keeps_note (complaint : Complaint) : Keeps inv (note complaint) :=
  keeps_of_run fun j t a r k hrun => by simp_all

theorem keeps_warn : Keeps inv warn := keeps_of_run fun j t a r k hrun => by simp_all

theorem keeps_countBytes (text : Text) : Keeps inv (countBytes text) :=
  keeps_of_run fun j t a r k hrun => by simp_all

theorem keeps_moveColumns (n : ℤ) : Keeps inv (moveColumns n) :=
  keeps_of_run fun j t a r k hrun => by simp_all

theorem keeps_placeBefore (rest : Text) : Keeps inv (placeBefore rest) :=
  keeps_of_run fun j t a r k hrun => by simp_all [run_placeBefore]

theorem keeps_remaining : Keeps inv remaining := fun _ ht =>
  leaves_remaining_bind (leaves_pure ht)

theorem keeps_peek : Keeps inv peek := keeps_of_run fun j t a r k hrun => by simp_all

theorem keeps_isNext (word : Text) : Keeps inv (isNext word) :=
  keeps_of_run fun j t a r k hrun => by simp_all

theorem keeps_charge (n : ℕ) : Keeps inv (charge n) := by
  refine keeps_of_run fun j t a r k hrun => ?_
  rw [run_charge] at hrun
  split at hrun <;> simp_all

theorem keeps_expectEnd (complaint : Complaint) : Keeps inv (expectEnd complaint) := by
  refine keeps_of_run fun j t a r k hrun => ?_
  rw [run_expectEnd] at hrun
  split at hrun <;> simp_all

/-- Reading another text passes nothing of this one. -/
theorem keeps_readAt (place : Journal → Text → Place) (other : Text) (scan : Scan α) :
    Keeps inv (readAt place other scan) := by
  refine keeps_of_run fun j t a r k hrun => ?_
  rw [run_readAt] at hrun
  generalize run scan _ other = result at hrun
  cases result with
  | error fault => exact absurd hrun (by simp [Except.map])
  | ok out => exact (Prod.mk.inj (Prod.mk.inj (Except.ok.inj hrun)).2).1.symm

theorem keeps_readOnce (entity other : Text) (scan : Scan α) (otherwise : α) :
    Keeps inv (readOnce entity other scan otherwise) := by
  intro t ht j a r k hrun
  rw [run_readOnce] at hrun
  rcases hcost : j.knownCost? entity with _ | cost <;> rw [hcost] at hrun
  · have hread : Keeps inv (do
        let a ← within other scan
        charge (Utf8.byteCount other)
        return a) :=
      (keeps_readAt _ _ _).bind fun _ => (keeps_charge _).bind fun _ => keeps_pure _
    dsimp only at hrun
    generalize hfirst : run _ j t = first at hrun
    rcases first with fault | ⟨b, u, k'⟩
    · exact absurd hrun (by simp [Except.map])
    · obtain rfl : u = r := (Prod.mk.inj (Prod.mk.inj (Except.ok.inj hrun)).2).1
      exact hread t ht j b u k' hfirst
  · exact ((keeps_charge _).bind fun _ => keeps_pure otherwise) t ht j a r k hrun

end Keeps

/-! ## What may be passed -/

/-- What is so of a text stays so when a code point of a class is passed. -/
def Outlives (p : CodePoint → Prop) (inv : Text → Prop) : Prop := ∀ c r, p c → inv (c :: r) → inv r

/-- The marks of sections, of quotes and of what encloses declarations. -/
def marks : Text := "<>[]\"'?"

section Classes

variable {inv : Text → Prop} {p : CodePoint → Prop}

theorem Outlives.mono {q : CodePoint → Prop} (h : Outlives p inv) (hq : ∀ c, q c → p c) :
    Outlives q inv :=
  fun c r hc => h c r (hq c hc)

/-- Where only one of the marks matters, no other code point does. -/
theorem Outlives.unmarked {d : CodePoint} (h : Outlives (· ≠ d) inv) (hd : d ∈ marks) :
    Outlives (· ∉ marks) inv :=
  h.mono fun _ hc heq => hc (heq ▸ hd)

theorem Outlives.append (h : Outlives p inv) {s : Text} (hs : ∀ c ∈ s, p c) (ht : inv (s ++ r)) :
    inv r := by
  induction s with
  | nil => exact ht
  | cons c s ih =>
    obtain ⟨hc, hs⟩ := List.forall_mem_cons.mp hs
    exact ih hs (h c _ hc ht)

/-- A text is left behind code points of a class. -/
def Passes (p : CodePoint → Prop) (t r : Text) : Prop := ∃ s : Text, t = s ++ r ∧ ∀ c ∈ s, p c

theorem outlives_passes (p : CodePoint → Prop) (t : Text) : Outlives p (Passes p t) := by
  rintro c r hc ⟨s, rfl, hs⟩
  refine ⟨s ++ [c], List.append_cons s c r, ?_⟩
  rw [List.forall_mem_append, List.forall_mem_singleton]
  exact ⟨hs, hc⟩

theorem keeps_takeWhile (h : Outlives p inv) {q : CodePoint → Bool} (hq : ∀ c, q c → p c) :
    Keeps inv (takeWhile q) := by
  intro t ht
  refine leaves_takeWhile ?_
  rw [← List.takeWhile_append_dropWhile (p := q) (l := t)] at ht
  exact h.append (fun c hc => hq c (List.mem_takeWhile_imp hc)) ht

theorem keeps_accept (h : Outlives p inv) {word : Text} (hword : ∀ c ∈ word, p c) :
    Keeps inv (accept word) := by
  intro t ht j b r k hrun
  rw [run_accept] at hrun
  split at hrun
  · next hnext =>
    rw [eq_append_of_isPrefixOf hnext] at ht
    obtain ⟨-, rfl, -⟩ : true = b ∧ t.drop word.length = r ∧ j = k := by simpa using hrun
    exact h.append hword ht
  · obtain ⟨-, rfl, -⟩ : false = b ∧ t = r ∧ j = k := by simpa using hrun
    exact ht

theorem keeps_expect (h : Outlives p inv) {word : Text} (hword : ∀ c ∈ word, p c)
    (complaint : Complaint) : Keeps inv (expect word complaint) :=
  (keeps_accept h hword).bind fun _ => .ite (fun _ => keeps_pure _) fun _ => keeps_fail _

/-- A class of code points without marks. -/
theorem unmarked_of_class {q : CodePoint → Bool} (hq : ∀ d ∈ marks, q d = false) {c : CodePoint}
    (hc : q c) : c ∉ marks :=
  fun hmem => absurd hc (by rw [hq c hmem]; exact Bool.false_ne_true)

theorem keeps_class (h : Outlives (· ∉ marks) inv) {q : CodePoint → Bool}
    (hq : ∀ d ∈ marks, q d = false) : Keeps inv (takeWhile q) :=
  keeps_takeWhile h fun _ => unmarked_of_class hq

theorem keeps_blanks (h : Outlives (· ∉ marks) inv) : Keeps inv blanks :=
  (keeps_class h (by decide)).bind fun _ => keeps_pure _

end Classes

/-! ## Names and references -/

theorem keeps_numberedCharacter {inv : Text → Prop} (n : ℕ) : Keeps inv (numberedCharacter n) := by
  unfold numberedCharacter
  split
  · exact .ite (fun _ => keeps_pure _) fun _ => keeps_fail _
  · exact keeps_fail _

section Unmarked

variable {inv : Text → Prop} (h : Outlives (· ∉ marks) inv)
include h

theorem keeps_nameOf {start part : CodePoint → Bool} (hpart : ∀ d ∈ marks, part d = false) :
    Keeps inv (nameOf start part) := by
  refine keeps_peek.bind fun c => ?_
  cases c with
  | none => exact keeps_pure none
  | some c =>
    refine .ite (fun _ => ?_) fun _ => keeps_pure none
    exact (keeps_class h hpart).bind fun _ => keeps_pure _

theorem keeps_plainName : Keeps inv plainName := keeps_nameOf h (by decide)

theorem keeps_malformedName (start : Text) : Keeps inv (malformedName start) := by
  refine (keeps_class h (by decide)).bind fun _ => keeps_remaining.bind fun rest => ?_
  exact (keeps_note _).bind fun _ => keeps_pure _

theorem keeps_qualifiedNameAfter (first : CodePoint) (start : Text) :
    Keeps inv (qualifiedNameAfter first start) := by
  refine .ite (fun _ => keeps_malformedName h start) fun _ => ?_
  refine (keeps_class h (by decide)).bind fun rest => ?_
  refine (keeps_accept h (by decide)).bind fun colon => ?_
  refine .ite (fun _ => ?_) fun _ => keeps_pure _
  refine (keeps_nameOf h (by decide)).bind fun base => ?_
  cases base with
  | none => exact keeps_malformedName h start
  | some base =>
    refine (keeps_isNext _).bind fun another => ?_
    exact .ite (fun _ => keeps_malformedName h start) fun _ => keeps_pure _

theorem keeps_qualifiedName : Keeps inv qualifiedName := by
  intro t ht
  refine leaves_peek_bind ?_
  cases t with
  | nil => exact leaves_pure ht
  | cons c r =>
    refine .ite (fun hc => ?_) fun _ => leaves_pure ht
    refine leaves_remaining_bind (leaves_skip_bind ?_)
    have hr : inv r := h c r (unmarked_of_class (by decide) hc) ht
    exact ((keeps_qualifiedNameAfter h c _).bind fun _ => keeps_pure _) r hr

theorem keeps_characterNumber : Keeps inv characterNumber := by
  refine (keeps_accept h (by decide)).bind fun hexadecimal => .ite (fun _ => ?_) fun _ => ?_
  all_goals
    refine (keeps_class h (by decide)).bind fun digits => ?_
    exact (keeps_expect h (by decide) _).bind fun _ => keeps_numberedCharacter _

theorem keeps_referenceName : Keeps inv referenceName := by
  refine (keeps_plainName h).bind fun name => ?_
  cases name with
  | none => exact keeps_fail _
  | some name => exact (keeps_expect h (by decide) _).bind fun _ => keeps_pure name

theorem keeps_reference (entities : Entities) : Keeps inv (reference entities) := by
  refine (keeps_accept h (by decide)).bind fun number => .ite (fun _ => ?_) fun _ => ?_
  · exact (keeps_characterNumber h).bind fun _ => keeps_pure _
  · refine (keeps_referenceName h).bind fun name => ?_
    split
    · exact keeps_fail _
    · exact keeps_warn.bind fun _ => keeps_pure _
    · exact keeps_pure _

end Unmarked

/-- The texts of entities are read elsewhere. -/
theorem keeps_entityInValue {inv : Text → Prop} (entities : Entities) (depth : ℕ)
    (inside : List Text) (name : Text) (body : EntityBody) :
    Keeps inv (entityInValue entities depth inside name body) := by
  cases depth with
  | zero => exact keeps_fail _
  | succ depth =>
    cases body with
    | unparsed => exact keeps_fail _
    | external => exact keeps_fail _
    | internal text =>
      rw [entityInValue]
      refine .when (keeps_fail _) ((keeps_charge _).bind fun _ => ?_)
      exact (keeps_readAt _ _ _).bind fun _ => keeps_pure _

theorem keeps_entityInContent {inv : Text → Prop} (entities : Entities) (depth : ℕ)
    (inside : List Text) (name : Text) (body : EntityBody) (progress : Progress) :
    Keeps inv (entityInContent entities depth inside name body progress) := by
  cases depth with
  | zero => exact keeps_fail _
  | succ depth =>
    cases body with
    | unparsed => exact keeps_fail _
    | external => exact keeps_pure progress
    | internal text =>
      rw [entityInContent]
      exact .when (keeps_fail _) ((keeps_readOnce _ _ _ _).bind fun _ => keeps_pure _)

/-! ## Tags -/

section Judgements

variable {inv : Text → Prop}

theorem keeps_noteIf (complaint : Option Complaint) : Keeps inv (noteIf complaint) := by
  cases complaint with
  | none => exact keeps_pure ()
  | some complaint => exact keeps_note complaint

theorem keeps_forM {f : α → Scan Unit} (hf : ∀ a, Keeps inv (f a)) (l : List α) :
    Keeps inv (l.forM f) := by
  induction l with
  | nil => exact keeps_pure ()
  | cons a l ih => exact (hf a).bind fun _ => ih

theorem keeps_attributeNames (scope : Scope) (element : Text) (attributes : List Attribute) :
    Keeps inv (attributeNames scope element attributes) := by
  refine (keeps_forM keeps_note _).bind fun _ => ?_
  refine (keeps_forM (fun complaint => ?_) _).bind fun _ => ?_
  · split
    · exact keeps_fail _
    · exact keeps_note _
  · refine .ite (fun _ => ?_) fun _ => keeps_pure ()
    split
    · exact keeps_fail _
    · exact keeps_pure ()

theorem keeps_identifiers (given identifiers : List Text) :
    Keeps inv (Scan.identifiers given identifiers) := by
  induction identifiers generalizing given with
  | nil => exact keeps_pure given
  | cons identifier rest ih => exact .unless (keeps_note _) (.when (keeps_note _) (ih _))

theorem keeps_namespaceName (space name : Text) : Keeps inv (namespaceName space name) := by
  unfold namespaceName
  split
  · exact keeps_note _
  · exact .ite (fun _ => keeps_warn) fun _ => keeps_pure ()
  · exact keeps_pure ()

theorem keeps_bindNamespace (declaring : QualifiedName) (space name : Text) (declared : Scope) :
    Keeps inv (bindNamespace declaring space name declared) := by
  unfold bindNamespace
  split
  · exact (keeps_note _).bind fun _ => keeps_pure declared
  · refine .ite (fun _ => keeps_pure declared) fun _ => ?_
    exact (keeps_namespaceName space name).bind fun _ => .when (keeps_fail _) (keeps_pure _)

theorem keeps_blankTreatment (name : QualifiedName) (v : Text) :
    Keeps inv (blankTreatment name v) :=
  .ite (fun _ => keeps_warn) fun _ => keeps_pure ()

theorem keeps_atTagEnd : Keeps inv atTagEnd :=
  (keeps_isNext _).bind fun _ => (keeps_isNext _).bind fun _ => keeps_pure _

end Judgements

section NoOpening

variable {inv : Text → Prop} (h : Outlives (· ≠ ofChar '<') inv)
include h

theorem keeps_referenceInValue (entities : Entities) :
    Keeps inv (referenceInValue entities) := by
  refine (keeps_reference (h.unmarked (by decide)) entities).bind fun referent => ?_
  cases referent with
  | plain text => exact keeps_pure text
  | unknown => exact keeps_pure []
  | entity name body => exact keeps_entityInValue entities _ _ name body

theorem keeps_valueUpTo (entities : Entities) (quote : CodePoint) :
    Keeps inv (valueUpTo entities quote) := by
  suffices hloop : Keeps inv (loop _ []) from hloop.bind fun read => keeps_pure _
  refine fun t ht => leaves_loop (fun read c r ht => ?_) ht
  refine .ite (fun _ => takes_none) fun _ => .ite (fun _ => takes_error _) fun hopening => ?_
  have hr : inv r := h c r hopening ht
  refine .ite (fun _ => takes_some ?_) fun _ => .ite (fun _ => takes_error _) fun _ => ?_
  · exact ((keeps_referenceInValue h entities).bind fun _ => keeps_pure _) r hr
  · exact takes_some (keeps_pure _ r hr)

theorem keeps_value (entities : Entities) : Keeps inv (value entities) := by
  intro t ht
  refine leaves_peek_bind ?_
  cases t with
  | nil => exact leaves_fail _
  | cons quote r =>
    refine .ite (fun hquote => leaves_skip_bind ?_) fun _ => leaves_fail _
    have hquote : IsQuote quote := hquote
    have hr : inv r := h quote r hquote.ne_opening ht
    refine ((keeps_valueUpTo h entities quote).bind fun v => ?_) r hr
    exact (keeps_expect h (by simpa using hquote.ne_opening) _).bind fun _ => keeps_pure v

theorem keeps_attributeAfter (entities : Entities) (first : CodePoint) (start : Text)
    (state : TagState) : Keeps inv (attributeAfter entities first start state) := by
  have hunmarked := h.unmarked (by decide)
  refine (keeps_qualifiedNameAfter hunmarked first start).bind fun name => ?_
  refine (keeps_blanks hunmarked).bind fun _ => (keeps_expect h (by decide) _).bind fun _ => ?_
  refine (keeps_blanks hunmarked).bind fun _ => (keeps_value h entities).bind fun v => ?_
  refine (keeps_blankTreatment name v).bind fun _ => ?_
  have hend (state : TagState) : Keeps inv (do
      unless ← atTagEnd do
        unless ← blanks do fail .blankBetweenAttributes
      return state) := by
    refine keeps_atTagEnd.bind fun last => .ite (fun _ => keeps_pure state) fun _ => ?_
    refine (keeps_blanks hunmarked).bind fun blank => ?_
    exact .unless (keeps_fail _) (keeps_pure state)
  dsimp only
  split
  · refine (keeps_bindNamespace _ _ _ _).bind fun declared => ?_
    exact (keeps_pure _).bind hend
  · exact (keeps_pure _).bind hend

theorem keeps_attributes (entities : Entities) : Keeps inv (attributes entities) := by
  refine fun t ht => leaves_loop (fun state c r ht => ?_) ht
  refine .ite (fun _ => takes_none) fun _ =>
    .ite (fun hname => takes_some ?_) fun _ => takes_error _
  have hc : c ≠ ofChar '<' := by
    rintro rfl
    exact absurd hname (by decide)
  exact keeps_attributeAfter h entities c _ state r (h c r hc ht)

/-- A start tag behind its bracket, where a name begins. -/
theorem keeps_startTag (entities : Entities) (progress : Progress) (opening : Text) :
    Keeps inv (startTag entities progress opening) := by
  have hunmarked := h.unmarked (by decide)
  unfold startTag
  refine .when (keeps_fail _) ((keeps_placeBefore opening).bind fun place => ?_)
  refine (keeps_qualifiedName hunmarked).bind fun name => ?_
  cases name with
  | none => exact keeps_fail _
  | some name =>
    refine (keeps_blanks hunmarked).bind fun _ => (keeps_attributes h entities).bind fun state => ?_
    refine (keeps_attributeNames _ _ _).bind fun _ => (keeps_noteIf _).bind fun _ => ?_
    refine (keeps_identifiers _ _).bind fun given => ?_
    refine (keeps_accept h (by decide)).bind fun alone => ?_
    refine .ite (fun _ => keeps_pure _) fun _ => ?_
    exact (keeps_expect h (by decide) _).bind fun _ => keeps_pure _

omit h in
/-- Where no name begins there is no start tag. -/
theorem leaves_startTag_of_noName (entities : Entities) (progress : Progress) (opening : Text)
    {post : Progress → Text → Prop} (hname : ∀ c ∈ t.head?, ¬ isColonNameStart c) :
    Leaves (startTag entities progress opening) t post := by
  have hnone : Leaves qualifiedName t fun name _ => name = none := by
    refine leaves_peek_bind ?_
    cases t with
    | nil => exact leaves_pure rfl
    | cons c r => exact .ite (fun hc => absurd hc (hname c rfl)) fun _ => leaves_pure rfl
  have hplace : Leaves (placeBefore opening) t fun _ u => u = t := keeps_placeBefore opening t rfl
  unfold startTag
  refine .ite (fun _ => leaves_fail_bind _) fun _ => hplace.bind ?_
  rintro place u rfl
  refine hnone.bind ?_
  rintro _ u rfl
  exact leaves_fail _

theorem keeps_endName (name : QualifiedName) : Keeps inv (endName name) := by
  have hunmarked := h.unmarked (by decide)
  unfold endName
  split
  · exact (keeps_plainName hunmarked).bind fun _ => keeps_pure _
  · exact (keeps_qualifiedName hunmarked).bind fun _ => keeps_pure _

/-- The bracket after the name of an end tag, and the judgement on what was found as its name. -/
theorem keeps_judgement (element : OpenElement) (found : Option (Text × Text)) : Keeps inv (do
    let _ ← blanks
    expect ">" .endTagNotClosed
    match found with
    | none => fail (.endTagMismatch element.name.base element.opening "unparsable")
    | some (name, told) =>
      unless name = element.name.written do
        fail (.endTagMismatch element.name.base element.opening told)) := by
  refine (keeps_blanks (h.unmarked (by decide))).bind fun _ => ?_
  refine (keeps_expect h (by decide) _).bind fun _ => ?_
  cases found with
  | none => exact keeps_fail _
  | some found => exact .ite (fun _ => keeps_pure _) fun _ => keeps_fail _

theorem keeps_endTag (element : OpenElement) : Keeps inv (endTag element) := by
  have hjudged := keeps_judgement h element
  refine (keeps_endName h _).bind fun found => .ite (fun _ => ?_) fun _ => hjudged found
  refine keeps_peek.bind fun c => ?_
  cases c with
  | none => exact hjudged found
  | some c => exact .when (keeps_countBytes _) (hjudged found)

end NoOpening

/-! ## The declaration -/

theorem leaves_quoteOr (complaint : Complaint) (t : Text) :
    Leaves (quoteOr complaint) t fun c r => IsQuote c ∧ t = c :: r := by
  refine leaves_peek_bind ?_
  cases t with
  | nil => exact leaves_fail _
  | cons c r =>
    exact .ite (fun hc => leaves_skip_bind (leaves_pure ⟨hc, rfl⟩)) fun _ => leaves_fail _

theorem IsQuote.ne_question {c : CodePoint} (hc : IsQuote c) : c ≠ ofChar '?' := by
  rcases hc with rfl | rfl <;> decide

section NoQuestion

variable {inv : Text → Prop} (h : Outlives (· ≠ ofChar '?') inv)
include h

theorem keeps_equals : Keeps inv equals := by
  have hunmarked := h.unmarked (by decide)
  refine (keeps_blanks hunmarked).bind fun _ => (keeps_expect h (by decide) _).bind fun _ => ?_
  exact (keeps_blanks hunmarked).bind fun _ => keeps_pure _

theorem keeps_openingQuote_bind {next : CodePoint → Scan α}
    (hnext : ∀ quote, quote ≠ ofChar '?' → Keeps inv (next quote)) :
    Keeps inv (openingQuote >>= next) := by
  intro t ht
  refine (leaves_quoteOr _ t).bind ?_
  rintro quote r ⟨hquote, rfl⟩
  exact hnext quote hquote.ne_question r (h quote r hquote.ne_question ht)

theorem keeps_expectQuote {quote : CodePoint} (hquote : quote ≠ ofChar '?') :
    Keeps inv (expect [quote] .stringNotClosed) :=
  keeps_expect h (by simpa using hquote) _

theorem keeps_versionNumber : Keeps inv versionNumber := by
  intro t ht
  refine leaves_peek_bind ?_
  cases t with
  | nil => exact leaves_pure ht
  | cons c r =>
    refine .ite (fun hc => leaves_skip_bind ?_) fun _ => leaves_pure ht
    have hc : c ≠ ofChar '?' := by
      rintro rfl
      exact absurd hc (by decide)
    refine ((keeps_accept h (by decide)).bind fun point => .ite (fun _ => ?_) fun _ => ?_) r
      (h c r hc ht)
    · exact (keeps_class (h.unmarked (by decide)) (by decide)).bind fun _ => keeps_pure _
    · exact keeps_pure none

theorem keeps_version : Keeps inv version := by
  refine (keeps_expect h (by decide) _).bind fun _ => (keeps_equals h).bind fun _ => ?_
  refine keeps_openingQuote_bind h fun quote hquote => (keeps_versionNumber h).bind fun number => ?_
  refine (keeps_expectQuote h hquote).bind fun _ => ?_
  cases number with
  | none => exact keeps_fail _
  | some number => exact .unless (keeps_fail _) (.ite (fun _ => keeps_pure _) fun _ => keeps_warn)

theorem keeps_encoding : Keeps inv encoding := by
  refine (keeps_equals h).bind fun _ => keeps_openingQuote_bind h fun quote hquote => ?_
  refine (keeps_nameOf (h.unmarked (by decide)) (by decide)).bind fun name => ?_
  exact .when (keeps_fail _) (keeps_expectQuote h hquote)

theorem keeps_standaloneValue : Keeps inv standaloneValue := by
  refine (keeps_accept h (by decide)).bind fun yes => .ite (fun _ => keeps_pure _) fun _ => ?_
  refine (keeps_accept h (by decide)).bind fun no => .ite (fun _ => keeps_pure _) fun _ => ?_
  exact keeps_fail _

theorem keeps_standalone : Keeps inv standalone := by
  refine (keeps_equals h).bind fun _ => keeps_openingQuote_bind h fun quote hquote => ?_
  refine (keeps_standaloneValue h).bind fun answer => ?_
  exact (keeps_expectQuote h hquote).bind fun _ => keeps_pure answer

omit h in
/-- Where a declaration ends, what was so was so in front of its mark. -/
theorem leaves_declarationEnds (ht : inv t) :
    Leaves declarationEnds t fun ends r => inv (if ends then ("?>" : Text) ++ r else r) := by
  refine leaves_accept_bind (fun r hr => ?_) ?_
  · subst hr
    exact leaves_pure ht
  · refine leaves_peek_bind ?_
    cases t with
    | nil => exact leaves_fail _
    | cons c r => exact .ite (fun _ => leaves_pure ht) fun _ => leaves_fail _

theorem leaves_declarationTail (ht : inv t) :
    Leaves declarationTail t fun _ r => inv (("?>" : Text) ++ r) := by
  have hunmarked := h.unmarked (by decide)
  have hend (alone : Bool) {t : Text} (ht : inv t) : Leaves (do
      let _ ← blanks
      expect "?>" .declarationNotClosed
      return alone) t fun _ r => inv (("?>" : Text) ++ r) := by
    refine (keeps_blanks hunmarked t ht).bind fun _ r hr => ?_
    exact leaves_expect_bind fun u hu => leaves_pure (hu ▸ hr)
  refine (keeps_blanks hunmarked t ht).bind fun _ r hr => ?_
  refine (keeps_accept h (by decide) r hr).bind fun word u hu => .ite (fun _ => ?_) fun _ => ?_
  · exact (keeps_standalone h u hu).bind fun alone v hv => hend alone hv
  · exact (keeps_pure false u hu).bind fun alone v hv => hend alone hv

/-- **A declaration** holds no question mark but that of its end. -/
theorem leaves_declaration (ht : inv t) :
    Leaves declaration t fun _ r => inv (("?>" : Text) ++ r) := by
  have hunmarked := h.unmarked (by decide)
  refine (keeps_blanks hunmarked t ht).bind fun _ r hr => ?_
  refine (keeps_version h r hr).bind fun _ r hr => ?_
  refine (leaves_declarationEnds hr).bind fun ends r hr => ?_
  cases ends with
  | true => exact leaves_pure hr
  | false =>
    refine (keeps_blanks hunmarked r hr).bind fun _ r hr => ?_
    refine (keeps_accept h (by decide) r hr).bind fun word r hr => ?_
    refine .ite (fun _ => ?_) fun _ => leaves_declarationTail h hr
    refine (keeps_encoding h r hr).bind fun _ r hr => ?_
    refine (leaves_declarationEnds hr).bind fun ends r hr => ?_
    cases ends with
    | true => exact leaves_pure hr
    | false => exact leaves_declarationTail h hr

end NoQuestion

end StructuredText.Xml.Scan
