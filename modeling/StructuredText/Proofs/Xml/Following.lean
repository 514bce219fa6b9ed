/-
# Scans that follow one another

A document and the same document laid out are scanned side by side.  The first scan is known to
succeed; the second follows it if it then succeeds with a related result and leaves a related
text.  Two things may differ.  Entities cost more when blanks were written into them, so the second
scan may be given up for their cost.  And a scan that stops inside a gap is lost, since a blank it
stops at need not be one in the other text.

* `Journal.Alike` relates what the two scans have met so far;
* `Scan.FollowsOr` is the relation of scans, `Scan.Follows` the one without getting lost;
* `Scan.FollowsOr.bind` puts scans together, and each elementary scan has a rule of its own;
* `Scan.FollowsOr.loop` follows a loop, where `Scan.Move` and `Scan.Turn` say what one turn may be.
-/
import Mathlib
import StructuredText.Proofs.Xml.Regaps
import StructuredText.Proofs.Xml.Runs

namespace StructuredText.Xml

open Text CodePoint

/-! ## Journals -/

namespace Journal

/-- Journals with the same entries, wherever these were made and whatever the entities cost. -/
structure Alike (j j' : Journal) : Prop where
  errors : j.errors = j'.errors
  warnings : j.warnings = j'.warnings
  endsInError : j.endsInError = j'.endsInError
  first : j.first.isSome = j'.first.isSome
  known : j.known.map Prod.fst = j'.known.map Prod.fst
  cost : j.cost = 0 → j'.cost = 0

/-- A journal that goes on from another one, of which no error and no cost is forgotten. -/
structure Extends (j k : Journal) : Prop where
  first : k.first = none → j.first = none
  cost : k.cost = 0 → j.cost = 0

variable {j j' k l : Journal}

@[refl] theorem Alike.refl (j : Journal) : j.Alike j := ⟨rfl, rfl, rfl, rfl, rfl, id⟩

@[refl] theorem Extends.refl (j : Journal) : j.Extends j := ⟨id, id⟩

@[trans] theorem Extends.trans (h : j.Extends k) (h' : k.Extends l) : j.Extends l :=
  ⟨h.first ∘ h'.first, h.cost ∘ h'.cost⟩

theorem Alike.enterError (h : j.Alike j') (complaint complaint' : Complaint) (rest rest' : Text) :
    (j.enterError complaint rest).Alike (j'.enterError complaint' rest') := by
  unfold Journal.enterError
  by_cases hfull : j.errors < maxEntries
  · rw [if_pos hfull, if_pos (h.errors ▸ hfull)]
    exact ⟨congrArg (· + 1) h.errors, h.warnings, rfl, rfl, h.known, h.cost⟩
  · rw [if_neg hfull, if_neg (h.errors ▸ hfull)]
    exact h

theorem Alike.enterWarning (h : j.Alike j') : j.enterWarning.Alike j'.enterWarning := by
  unfold Journal.enterWarning
  by_cases hfull : j.warnings < maxEntries
  · rw [if_pos hfull, if_pos (h.warnings ▸ hfull)]
    exact ⟨h.errors, congrArg (· + 1) h.warnings, rfl, h.first, h.known, h.cost⟩
  · rw [if_neg hfull, if_neg (h.warnings ▸ hfull)]
    exact h

theorem moveColumns_eq (j : Journal) (n : ℤ) (rest : Text) :
    ∃ shift, j.moveColumns n rest = { j with shift := shift } := by
  unfold moveColumns
  split
  · exact ⟨j.shift, rfl⟩
  · exact ⟨_, rfl⟩

theorem Alike.moveColumns (h : j.Alike j') (n n' : ℤ) (rest rest' : Text) :
    (j.moveColumns n rest).Alike (j'.moveColumns n' rest') := by
  obtain ⟨shift, hshift⟩ := moveColumns_eq j n rest
  obtain ⟨shift', hshift'⟩ := moveColumns_eq j' n' rest'
  rw [hshift, hshift']
  exact ⟨h.errors, h.warnings, h.endsInError, h.first, h.known, h.cost⟩

theorem Alike.isSome_knownCost? (h : j.Alike j') (entity : Text) :
    (j.knownCost? entity).isSome = (j'.knownCost? entity).isSome := by
  have hfind : ∀ known : List (Text × ℕ),
      ((known.find? (·.1 = entity)).map Prod.snd).isSome ↔ entity ∈ known.map Prod.fst := by
    intro known
    simp
  rw [Bool.eq_iff_iff, knownCost?, knownCost?, hfind, hfind, h.known]

theorem extends_enterError (j : Journal) (complaint : Complaint) (rest : Text) :
    j.Extends (j.enterError complaint rest) := by
  unfold enterError
  split
  · exact ⟨fun h => absurd h (by simp), id⟩
  · exact .refl j

theorem extends_enterWarning (j : Journal) : j.Extends j.enterWarning := by
  unfold enterWarning
  split <;> exact ⟨id, id⟩

theorem extends_moveColumns (j : Journal) (n : ℤ) (rest : Text) :
    j.Extends (j.moveColumns n rest) := by
  obtain ⟨shift, hshift⟩ := moveColumns_eq j n rest
  rw [hshift]
  exact ⟨id, id⟩

end Journal

namespace Scan

variable {α β σ : Type} {lost : Text → Prop} {s s' : Scan α} {t t' : Text}

/-! ## Following -/

/-- What the second scan may do where the first has ended: end with a given result or, if entities
were charged, be given up for their cost, as is told unless there was an error before. -/
def Answers (a : α) (r : Text) (k : Journal) (answer : Except Fault (α × Text × Journal)) : Prop :=
  (∃ k', answer = .ok (a, r, k') ∧ k.Alike k') ∨
    k.cost ≠ 0 ∧
      ∃ fault, answer = .error fault ∧ (k.first = none → fault.complaint = .entitiesTooLong)

/-- Where the first scan succeeds, it is lost, or the second answers with a related result. -/
def FollowsOr (lost : Text → Prop) (s s' : Scan α) (t t' : Text)
    (post : α → α → Text → Text → Prop) : Prop :=
  ∀ ⦃j j' : Journal⦄, j.Alike j' → ∀ ⦃a r k⦄, run s j t = .ok (a, r, k) →
    lost r ∨ j.Extends k ∧ ∃ a' r', post a a' r r' ∧ Answers a' r' k (run s' j' t')

/-- Where the first scan succeeds, the second answers. -/
abbrev Follows (s s' : Scan α) (t t' : Text) (post : α → α → Text → Text → Prop) : Prop :=
  FollowsOr (fun _ => False) s s' t t' post

/-- The results are related, and so is what is left of the texts. -/
def Both (rel : α → α → Prop) (after : Bool) (a a' : α) (r r' : Text) : Prop :=
  rel a a' ∧ Regaps after r r'

variable {post : α → α → Text → Text → Prop}

theorem FollowsOr.mono {post' : α → α → Text → Text → Prop} (h : FollowsOr lost s s' t t' post)
    (himp : ∀ a a' r r', post a a' r r' → post' a a' r r') : FollowsOr lost s s' t t' post' := by
  intro j j' hj a r k hrun
  rcases h hj hrun with hlost | ⟨hk, a', r', hpost, hanswer⟩
  · exact Or.inl hlost
  · exact Or.inr ⟨hk, a', r', himp _ _ _ _ hpost, hanswer⟩

/-- A scan that never succeeds is followed by any. -/
theorem FollowsOr.of_fails (h : ∀ j out, run s j t ≠ .ok out) :
    FollowsOr lost s s' t t' post :=
  fun j _ _ _ _ _ hrun => absurd hrun (h j _)

/-- A scan that leaves the journal alone is followed by one that does so too. -/
theorem FollowsOr.of_silent
    (h : ∀ j a r k, run s j t = .ok (a, r, k) →
      k = j ∧ ∃ a' r', post a a' r r' ∧ ∀ j', run s' j' t' = .ok (a', r', j')) :
    FollowsOr lost s s' t t' post := by
  intro j j' hj a r k hrun
  obtain ⟨rfl, a', r', hpost, hrun'⟩ := h j a r k hrun
  exact Or.inr ⟨.refl k, a', r', hpost, Or.inl ⟨j', hrun' j', hj⟩⟩

/-- Scans that succeed alike, whatever the journal, follow one another. -/
theorem FollowsOr.of_run {a a' : α} {r r' : Text} (h : ∀ j, run s j t = .ok (a, r, j))
    (h' : ∀ j, run s' j t' = .ok (a', r', j)) (hpost : post a a' r r') :
    FollowsOr lost s s' t t' post := by
  refine .of_silent fun j _ _ _ hrun => ?_
  obtain ⟨rfl, rfl, rfl⟩ : a = _ ∧ r = _ ∧ j = _ := by
    simpa only [h, Except.ok.injEq, Prod.mk.injEq] using hrun
  exact ⟨rfl, a', r', hpost, h'⟩

/-! ## Putting scans together -/

section Bind

variable {mid : α → α → Text → Text → Prop} {post : β → β → Text → Text → Prop}
  {f f' : α → Scan β}

/-- One scan after another, where the first may be lost if the whole is lost with it.  What is left
after the first is no longer than before. -/
theorem FollowsOr.bind_lost {lost' : Text → Prop} (h : FollowsOr lost' s s' t t' mid)
    (hlost : ∀ a r j b u k, lost' r → run (f a) j r = .ok (b, u, k) → lost u)
    (hf : ∀ a a' r r', r.length ≤ t.length → mid a a' r r' →
      FollowsOr lost (f a) (f' a') r r' post) :
    FollowsOr lost (s >>= f) (s' >>= f') t t' post := by
  intro j j' hj b u k hrun
  obtain ⟨a, r, k₁, hs, hnext⟩ := run_bind_eq_ok hrun
  rcases h hj hs with hr | ⟨hjk, a', r', hmid, ⟨k₁', hs', hk₁⟩ | ⟨hcost, fault, hs', hfault⟩⟩
  · exact Or.inl (hlost a r k₁ b u k hr hnext)
  · rcases hf a a' r r' (length_run hs) hmid hk₁ hnext with hu | ⟨hk, hanswer⟩
    · exact Or.inl hu
    · refine Or.inr ⟨hjk.trans hk, ?_⟩
      rw [run_bind, hs']
      exact hanswer
  · -- The second scan was given up: what it would have given tells how the first goes on.
    rcases hf a a' r r' (length_run hs) hmid (.refl k₁) hnext with hu | ⟨hk, b', u', hpost, -⟩
    · exact Or.inl hu
    · refine Or.inr ⟨hjk.trans hk, b', u', hpost, Or.inr ⟨hcost ∘ hk.cost, fault, ?_,
        hfault ∘ hk.first⟩⟩
      rw [run_bind, hs']
      rfl

theorem FollowsOr.bind_le (h : Follows s s' t t' mid)
    (hf : ∀ a a' r r', r.length ≤ t.length → mid a a' r r' →
      FollowsOr lost (f a) (f' a') r r' post) :
    FollowsOr lost (s >>= f) (s' >>= f') t t' post :=
  FollowsOr.bind_lost h (fun _ _ _ _ _ _ hfalse => hfalse.elim) hf

/-- **One scan after another.** -/
theorem FollowsOr.bind (h : Follows s s' t t' mid)
    (hf : ∀ a a' r r', mid a a' r r' → FollowsOr lost (f a) (f' a') r r' post) :
    FollowsOr lost (s >>= f) (s' >>= f') t t' post :=
  FollowsOr.bind_le h fun a a' r r' _ hmid => hf a a' r r' hmid

/-- One scan after another, where the first gives the same result in both texts. -/
theorem FollowsOr.bind_same {after : Bool} (h : Follows s s' t t' (Both Eq after))
    (hf : ∀ a r r', Regaps after r r' → FollowsOr lost (f a) (f' a) r r' post) :
    FollowsOr lost (s >>= f) (s' >>= f') t t' post :=
  FollowsOr.bind h fun a a' r r' ⟨ha, hr⟩ => by
    subst ha
    exact hf a r r' hr

end Bind

theorem FollowsOr.ite {p : Prop} [Decidable p] {u u' : Scan α}
    (hs : p → FollowsOr lost s s' t t' post) (hu : ¬ p → FollowsOr lost u u' t t' post) :
    FollowsOr lost (if p then s else u) (if p then s' else u') t t' post := by
  by_cases hp : p
  · rw [if_pos hp, if_pos hp]
    exact hs hp
  · rw [if_neg hp, if_neg hp]
    exact hu hp

section When

variable {p : Prop} [Decidable p] {after : Bool} {e e' : Scan Unit} {f f' : Unit → Scan α}

/-- What is done only sometimes, and what comes after it in any case. -/
theorem FollowsOr.when (he : p → Follows e e' t t' (Both Eq after)) (h : Regaps after t t')
    (hf : ∀ r r', Regaps after r r' → FollowsOr lost (f ()) (f' ()) r r' post) :
    FollowsOr lost (if p then e >>= f else f ()) (if p then e' >>= f' else f' ()) t t' post :=
  .ite (fun hp => FollowsOr.bind_same (he hp) fun _ r r' hr => hf r r' hr) fun _ => hf t t' h

theorem FollowsOr.unless (he : ¬ p → Follows e e' t t' (Both Eq after)) (h : Regaps after t t')
    (hf : ∀ r r', Regaps after r r' → FollowsOr lost (f ()) (f' ()) r r' post) :
    FollowsOr lost (if p then f () else e >>= f) (if p then f' () else e' >>= f') t t' post :=
  .ite (fun _ => hf t t' h) fun hp => FollowsOr.bind_same (he hp) fun _ r r' hr => hf r r' hr

end When

/-! ## Single steps -/

section Steps

variable {after : Bool} {a a' : α}

theorem follows_pure (h : post a a' t t') : FollowsOr lost (pure a) (pure a') t t' post :=
  .of_run (fun _ => rfl) (fun _ => rfl) h

theorem follows_fail (complaint : Complaint) :
    FollowsOr lost (fail complaint : Scan α) s' t t' post :=
  .of_fails fun _ _ => by simp

/-- A failure, whatever would come after it. -/
theorem follows_fail_bind (complaint : Complaint) (f : β → Scan α) :
    FollowsOr lost (fail complaint >>= f) s' t t' post :=
  .of_fails fun j out hrun => by
    obtain ⟨a, r, k, hfail, -⟩ := run_bind_eq_ok hrun
    exact absurd hfail (by simp)

/-- Scans that only make entries follow one another if the entries are alike. -/
theorem FollowsOr.of_entry {s s' : Scan Unit} {post : Unit → Unit → Text → Text → Prop}
    {e e' : Journal → Journal} (h : ∀ j, run s j t = .ok ((), t, e j))
    (h' : ∀ j, run s' j t' = .ok ((), t', e' j)) (hextends : ∀ j : Journal, j.Extends (e j))
    (halike : ∀ j j', j.Alike j' → (e j).Alike (e' j')) (hpost : post () () t t') :
    FollowsOr lost s s' t t' post := by
  intro j j' hj a r k hrun
  obtain ⟨rfl, rfl⟩ : t = r ∧ e j = k := by simpa [h] using hrun
  exact Or.inr ⟨hextends j, (), t', hpost, Or.inl ⟨e' j', h' j', halike j j' hj⟩⟩

variable {mark : Unit → Unit → Text → Text → Prop}

theorem follows_note (complaint complaint' : Complaint) (h : mark () () t t') :
    FollowsOr lost (note complaint) (note complaint') t t' mark :=
  .of_entry (fun _ => rfl) (fun _ => rfl) (fun j => j.extends_enterError _ _)
    (fun _ _ hj => hj.enterError _ _ _ _) h

theorem follows_warn (h : mark () () t t') : FollowsOr lost warn warn t t' mark :=
  .of_entry (fun _ => rfl) (fun _ => rfl) Journal.extends_enterWarning
    (fun _ _ hj => hj.enterWarning) h

theorem follows_moveColumns (n n' : ℤ) (h : mark () () t t') :
    FollowsOr lost (moveColumns n) (moveColumns n') t t' mark :=
  .of_entry (fun _ => rfl) (fun _ => rfl) (fun j => j.extends_moveColumns _ _)
    (fun _ _ hj => hj.moveColumns _ _ _ _) h

theorem follows_countBytes (x x' : Text) (h : mark () () t t') :
    FollowsOr lost (countBytes x) (countBytes x') t t' mark :=
  .of_entry (fun _ => rfl) (fun _ => rfl) (fun j => j.extends_moveColumns _ _)
    (fun _ _ hj => hj.moveColumns _ _ _ _) h

/-- A charge may be too much for the second scan only. -/
theorem follows_charge {n n' : ℕ} (hn : n = 0 → n' = 0) (h : mark () () t t') :
    FollowsOr lost (charge n) (charge n') t t' mark := by
  intro j j' hj _ _ k hrun
  rw [run_charge] at hrun
  split at hrun
  · exact absurd hrun (by simp)
  · obtain ⟨rfl, rfl⟩ : t = _ ∧ { j with cost := j.cost + n } = k := by simpa using hrun
    have hzero : j.cost + n = 0 → j'.cost + n' = 0 := by
      intro h
      have hcost := hj.cost (by omega)
      have hcharge := hn (by omega)
      omega
    refine Or.inr ⟨⟨id, fun (h : j.cost + n = 0) => by omega⟩, (), t', h, ?_⟩
    rw [run_charge]
    split
    · next hover =>
      refine Or.inr ⟨fun h => ?_, _, rfl, fun hfirst => ?_⟩
      · rw [hzero h] at hover
        exact absurd hover (by decide)
      · have hnone : j'.first = none := by
          have hsome := hj.first
          rw [show j.first = none from hfirst] at hsome
          simpa using hsome.symm
        unfold Journal.firstOr
        rw [hnone]
        dsimp only
        split <;> rfl
    · exact Or.inl ⟨_, rfl, ⟨hj.errors, hj.warnings, hj.endsInError, hj.first, hj.known, hzero⟩⟩

/-- A reference is never free. -/
theorem follows_chargeReference (n n' : ℕ) (h : mark () () t t') :
    FollowsOr lost (charge (n + Journal.referenceCost)) (charge (n' + Journal.referenceCost)) t t'
      mark :=
  follows_charge (fun hn => absurd hn (by simp [Journal.referenceCost])) h

/-- Another text is read in between, of which nothing is left to read afterwards. -/
theorem follows_readAt {place : Journal → Text → Place} {x x' : Text}
    (h : Follows s s' x x' fun b b' _ _ => post b b' t t') :
    FollowsOr lost (readAt place x s) (readAt place x' s') t t' post := by
  intro j j' hj a r k hrun
  rw [run_readAt] at hrun
  rcases hs : run s { j with inside := some (place j t, x) } x with fault | ⟨b, u, k₁⟩
  · rw [hs] at hrun
    exact absurd hrun (by simp [Except.map])
  · rw [hs] at hrun
    obtain ⟨rfl, rfl, rfl⟩ : b = a ∧ t = r ∧ { k₁ with inside := j.inside } = k := by
      simpa [Except.map] using hrun
    have hinside : Journal.Alike { j with inside := some (place j t, x) }
        { j' with inside := some (place j' t', x') } :=
      ⟨hj.errors, hj.warnings, hj.endsInError, hj.first, hj.known, hj.cost⟩
    rcases h hinside hs with hfalse | ⟨hk, b', u', hpost, hanswer⟩
    · exact hfalse.elim
    · refine Or.inr ⟨⟨hk.first, hk.cost⟩, b', t', hpost, ?_⟩
      rw [run_readAt]
      rcases hanswer with ⟨k₁', hs', hk⟩ | ⟨hcost, fault, hs', hfault⟩
      · rw [hs']
        exact Or.inl ⟨_, rfl,
          ⟨hk.errors, hk.warnings, hk.endsInError, hk.first, hk.known, hk.cost⟩⟩
      · rw [hs']
        exact Or.inr ⟨hcost, fault, rfl, hfault⟩

theorem byteCount_eq_zero {x : Text} (h : Utf8.byteCount x = 0) : x = [] := by
  cases x with
  | nil => rfl
  | cons c x =>
    have hc : Utf8.encodeCodePoint c ≠ [] := by
      unfold Utf8.encodeCodePoint
      dsimp only
      split_ifs <;> simp
    have hlength := List.length_pos_of_ne_nil hc
    rw [Utf8.byteCount, List.flatMap_cons, List.length_append] at h
    omega

/-- The text of an entity is read, and charged for. -/
theorem follows_readCharged {x x' : Text} (h : Regaps false x x')
    (hx : Follows s s' x x' fun b b' _ _ => post b b' t t') :
    FollowsOr lost (do let b ← within x s; charge (Utf8.byteCount x); return b)
      (do let b ← within x' s'; charge (Utf8.byteCount x'); return b) t t' post := by
  refine FollowsOr.bind (follows_readAt hx) fun b b' r r' hb => ?_
  have hempty : Utf8.byteCount x = 0 → Utf8.byteCount x' = 0 := by
    intro hzero
    rw [byteCount_eq_zero hzero] at h
    cases h
    rfl
  have hcharge : Follows (charge (Utf8.byteCount x)) (charge (Utf8.byteCount x')) r r'
      fun _ _ u u' => post b b' u u' := follows_charge hempty hb
  exact hcharge.bind fun _ _ _ _ hb => follows_pure hb

/-- Both scans have read the same entities before. -/
theorem follows_readOnce {entity x x' : Text} (h : Regaps false x x')
    (hx : Follows s s' x x' fun b b' _ _ => post b b' t t') (ha : post a a' t t') :
    FollowsOr lost (readOnce entity x s a) (readOnce entity x' s' a') t t' post := by
  intro j j' hj b r k hrun
  have hknown := hj.isSome_knownCost? entity
  rw [run_readOnce] at hrun ⊢
  rcases hcost : j.knownCost? entity with _ | cost <;>
    rcases hcost' : j'.knownCost? entity with _ | cost'
  · -- The entity is read by both.
    rw [hcost] at hrun
    dsimp only at hrun ⊢
    generalize hscan : run _ j t = first at hrun
    rcases first with fault | ⟨c, u, k₁⟩
    · exact absurd hrun (by simp [Except.map])
    · simp only [Except.map, Except.ok.injEq, Prod.mk.injEq] at hrun
      obtain ⟨rfl, rfl, rfl⟩ := hrun
      have hcharged : k₁.cost + Journal.referenceCost ≠ 0 := by simp [Journal.referenceCost]
      rcases follows_readCharged h hx hj hscan with hlost | ⟨hjk, b', r', hpost, hanswer⟩
      · exact Or.inl hlost
      · refine Or.inr ⟨⟨hjk.first, fun hzero => absurd hzero hcharged⟩, b', r', hpost, ?_⟩
        rcases hanswer with ⟨k', hrun', hk⟩ | ⟨-, fault, hrun', hfault⟩
        · rw [hrun']
          exact Or.inl ⟨_, rfl, ⟨hk.errors, hk.warnings, hk.endsInError, hk.first,
            congrArg (entity :: ·) hk.known, fun hzero => absurd hzero hcharged⟩⟩
        · rw [hrun']
          exact Or.inr ⟨hcharged, fault, rfl, hfault⟩
  · rw [hcost, hcost'] at hknown
    exact absurd hknown (by simp)
  · rw [hcost, hcost'] at hknown
    exact absurd hknown (by simp)
  · -- The entity is charged to both.
    rw [hcost] at hrun
    have hcharge : Follows (charge (cost + Journal.referenceCost))
        (charge (cost' + Journal.referenceCost)) t t' fun _ _ r r' => post a a' r r' :=
      follows_chargeReference _ _ ha
    exact (hcharge.bind fun _ _ _ _ hr => follows_pure hr) hj hrun

theorem follows_placeBefore (rest rest' : Text) {after : Bool} (h : Regaps after t t') :
    FollowsOr lost (placeBefore rest) (placeBefore rest') t t' (Both (fun _ _ => True) after) := by
  intro j j' hj a r k hrun
  obtain ⟨rfl, rfl, rfl⟩ : j.placeBefore rest = a ∧ t = r ∧ j = k := by
    simpa [run_placeBefore] using hrun
  exact Or.inr ⟨.refl _, j'.placeBefore rest', t', ⟨trivial, h⟩, Or.inl ⟨j', rfl, hj⟩⟩

theorem follows_expectEnd (complaint complaint' : Complaint) (h : t.isEmpty = t'.isEmpty)
    (hpost : mark () () t t') :
    FollowsOr lost (expectEnd complaint) (expectEnd complaint') t t' mark := by
  intro j j' hj a r k hrun
  rw [run_expectEnd] at hrun
  split at hrun
  · next hend =>
    obtain ⟨rfl, rfl⟩ : t = r ∧ j = k := by simpa using hrun
    refine Or.inr ⟨.refl _, (), t', hpost, Or.inl ⟨j', ?_, hj⟩⟩
    rw [run_expectEnd, if_pos (by rwa [← h, ← hj.first])]
  · exact absurd hrun (by simp)

end Steps

/-! ## Reading -/

/-- A word that holds no closing bracket but perhaps as its last code point. -/
def IsWord (after : Bool) (word : Text) : Prop :=
  word ≠ [] ∧ (∀ c ∈ word.dropLast, c ≠ ofChar '>') ∧ (word.getLast? == some (ofChar '>')) = after

instance (after : Bool) (word : Text) : Decidable (IsWord after word) :=
  inferInstanceAs (Decidable (_ ∧ _ ∧ _))

theorem isWord_singleton {c : CodePoint} (hc : c ≠ ofChar '>') : IsWord false [c] := by
  refine ⟨by simp, by simp, ?_⟩
  simpa using hc

section Reading

variable (after : Bool) {word : Text} {p : CodePoint → Bool}

theorem follows_remaining_bind {f f' : Text → Scan α}
    (hf : FollowsOr lost (f t) (f' t') t t' post) :
    FollowsOr lost (remaining >>= f) (remaining >>= f') t t' post := by
  have hremaining : Follows remaining remaining t t' fun a a' r r' =>
      a = t ∧ a' = t' ∧ r = t ∧ r' = t' :=
    .of_run (fun _ => rfl) (fun _ => rfl) ⟨rfl, rfl, rfl, rfl⟩
  refine hremaining.bind ?_
  rintro _ _ _ _ ⟨rfl, rfl, rfl, rfl⟩
  exact hf

theorem follows_peek_bind {f f' : Option CodePoint → Scan α} (h : Regaps false t t')
    (hend : t = [] → t' = [] → FollowsOr lost (f none) (f' none) [] [] post)
    (hnext : ∀ c r r', t = c :: r → t' = c :: r' → Regaps (c == ofChar '>') r r' →
      FollowsOr lost (f (some c)) (f' (some c)) (c :: r) (c :: r') post) :
    FollowsOr lost (peek >>= f) (peek >>= f') t t' post := by
  have hpeek : Follows peek peek t t' fun c c' r r' => c = t.head? ∧ c = c' ∧ r = t ∧ r' = t' :=
    .of_run (fun _ => rfl) (fun _ => rfl) ⟨rfl, h.head?_eq, rfl, rfl⟩
  refine hpeek.bind ?_
  rintro _ _ _ _ ⟨rfl, rfl, rfl, rfl⟩
  rcases h.aligned_cases with ⟨rfl, rfl⟩ | ⟨c, r, r', rfl, rfl, hr⟩
  · exact hend rfl rfl
  · exact hnext c r r' rfl rfl hr

theorem follows_skip_bind {f f' : Unit → Scan α} {c : CodePoint} {r r' : Text}
    (hf : FollowsOr lost (f ()) (f' ()) r r' post) :
    FollowsOr lost (skip >>= f) (skip >>= f') (c :: r) (c :: r') post := by
  have hskip : Follows skip skip (c :: r) (c :: r') fun _ _ u u' => u = r ∧ u' = r' :=
    .of_run (fun _ => rfl) (fun _ => rfl) ⟨rfl, rfl⟩
  refine hskip.bind ?_
  rintro _ _ _ _ ⟨rfl, rfl⟩
  exact hf

/-- The same is taken from both texts. -/
theorem follows_takeWhile_passed (hp : p (ofChar '>') = false) (h : Regaps false t t') :
    FollowsOr lost (takeWhile p) (takeWhile p) t t' fun a a' r r' =>
      a = a' ∧ Regaps false r r' ∧ t = a ++ r ∧ t' = a ++ r' := by
  obtain ⟨htake, hdrop⟩ := h.takeWhile_eq hp
  refine .of_run (fun _ => rfl) (fun _ => rfl) ⟨htake, hdrop, ?_, ?_⟩
  · exact List.takeWhile_append_dropWhile.symm
  · rw [htake]
    exact List.takeWhile_append_dropWhile.symm

theorem follows_takeWhile (hp : p (ofChar '>') = false) (h : Regaps false t t') :
    FollowsOr lost (takeWhile p) (takeWhile p) t t' (Both Eq false) :=
  (follows_takeWhile_passed hp h).mono fun _ _ _ _ ⟨ha, hr, _⟩ => ⟨ha, hr⟩

theorem follows_blanks (h : Regaps false t t') :
    FollowsOr lost blanks blanks t t' (Both Eq false) :=
  FollowsOr.bind_same (follows_takeWhile (by decide) h) fun _ _ _ hr => follows_pure ⟨rfl, hr⟩

/-- A word is passed in both texts or stays where it is in both. -/
theorem follows_accept (hword : IsWord after word) (h : Regaps false t t') :
    FollowsOr lost (accept word) (accept word) t t' fun a a' r r' =>
      a = a' ∧ if a then t = word ++ r ∧ t' = word ++ r' ∧ Regaps after r r'
        else r = t ∧ r' = t' := by
  obtain ⟨hne, hinner, rfl⟩ := hword
  obtain ⟨heq, hdrop⟩ := h.isPrefixOf hinner
  have hrun : ∀ (u : Text) (j : Journal), word.isPrefixOf u →
      run (accept word) j u = .ok (true, u.drop word.length, j) :=
    fun u j hu => by rw [run_accept, if_pos hu]
  have hstay : ∀ (u : Text) (j : Journal), ¬ word.isPrefixOf u →
      run (accept word) j u = .ok (false, u, j) :=
    fun u j hu => by rw [run_accept, if_neg hu]
  have hword : ∀ u : Text, word.isPrefixOf u → u = word ++ u.drop word.length :=
    fun u hu => (List.prefix_iff_eq_append.mp (List.isPrefixOf_iff_prefix.mp hu)).symm
  by_cases hnext : word.isPrefixOf t
  · have hnext' : word.isPrefixOf t' := by rwa [← heq]
    exact .of_run (fun j => hrun t j hnext) (fun j => hrun t' j hnext')
      ⟨rfl, hword t hnext, hword t' hnext', hdrop hne hnext⟩
  · have hnext' : ¬ word.isPrefixOf t' := by rwa [← heq]
    exact .of_run (fun j => hstay t j hnext) (fun j => hstay t' j hnext') ⟨rfl, rfl, rfl⟩

theorem follows_accept_same (hword : IsWord false word) (h : Regaps false t t') :
    FollowsOr lost (accept word) (accept word) t t' (Both Eq false) := by
  refine (follows_accept false hword h).mono ?_
  rintro a _ r r' ⟨rfl, hr⟩
  cases a with
  | false =>
    obtain ⟨rfl, rfl⟩ := hr
    exact ⟨rfl, h⟩
  | true => exact ⟨rfl, hr.2.2⟩

theorem follows_accept_bind {f f' : Bool → Scan α} (hword : IsWord after word)
    (h : Regaps false t t')
    (hyes : ∀ r r', t = word ++ r → t' = word ++ r' → Regaps after r r' →
      FollowsOr lost (f true) (f' true) r r' post)
    (hno : FollowsOr lost (f false) (f' false) t t' post) :
    FollowsOr lost (accept word >>= f) (accept word >>= f') t t' post := by
  refine FollowsOr.bind (follows_accept after hword h) ?_
  rintro a _ r r' ⟨rfl, hr⟩
  cases a with
  | false =>
    obtain ⟨rfl, rfl⟩ := hr
    exact hno
  | true => exact hyes r r' hr.1 hr.2.1 hr.2.2

theorem follows_isNext_bind {f f' : Bool → Scan α} (hword : IsWord after word)
    (h : Regaps false t t')
    (hf : ∀ a, word.isPrefixOf t = a → FollowsOr lost (f a) (f' a) t t' post) :
    FollowsOr lost (isNext word >>= f) (isNext word >>= f') t t' post := by
  have hnext : Follows (isNext word) (isNext word) t t' fun a a' r r' =>
      word.isPrefixOf t = a ∧ a = a' ∧ r = t ∧ r' = t' :=
    .of_run (fun _ => rfl) (fun _ => rfl) ⟨rfl, (h.isPrefixOf hword.2.1).1, rfl, rfl⟩
  refine hnext.bind ?_
  rintro a _ _ _ ⟨ha, rfl, rfl, rfl⟩
  exact hf a ha

theorem follows_expect (hword : IsWord after word) (complaint complaint' : Complaint)
    (h : Regaps false t t') :
    FollowsOr lost (expect word complaint) (expect word complaint') t t' (Both Eq after) :=
  follows_accept_bind after hword h (fun _ _ _ _ hr => follows_pure ⟨rfl, hr⟩)
    (follows_fail complaint)

theorem follows_acceptAny {words : List Text} (hwords : ∀ word ∈ words, IsWord false word)
    (h : Regaps false t t') :
    FollowsOr lost (acceptAny words) (acceptAny words) t t' (Both Eq false) := by
  induction words with
  | nil => exact follows_pure ⟨rfl, h⟩
  | cons word words ih =>
    obtain ⟨hword, hwords⟩ := List.forall_mem_cons.mp hwords
    exact follows_accept_bind false hword h (fun _ _ _ _ hr => follows_pure ⟨rfl, hr⟩) (ih hwords)

end Reading

/-! ## Loops -/

section Loops

variable (lost : Text → Prop) (inv : Bool → σ → σ → Prop) (post : σ → σ → Text → Text → Prop)

/-- What a loop does at one code point of two texts: it fails in the first, it stops in both, or it
passes the code point in both and scans on. -/
inductive Move (s s' : σ) (c : CodePoint) (r r' : Text) :
    Except Complaint (Option (Scan σ)) → Except Complaint (Option (Scan σ)) → Prop
  | fails (complaint : Complaint) (move' : Except Complaint (Option (Scan σ))) :
      Move s s' c r r' (.error complaint) move'
  | stops (hpost : post s s' (c :: r) (c :: r')) : Move s s' c r r' (.ok none) (.ok none)
  | passes {scan scan' : Scan σ}
      (hscan : Follows scan scan' r r' fun v v' u u' =>
        ∃ after, inv after v v' ∧ Regaps after u u') :
      Move s s' c r r' (.ok (some scan)) (.ok (some scan'))

/-- One turn of a loop in two texts: it ends in both, makes a move in both, or the loops go on as
they would from a later place; or else the first is lost. -/
inductive Turn (next next' : σ → CodePoint → Text → Except Complaint (Option (Scan σ)))
    (after : Bool) (s s' : σ) : Text → Text → Prop
  | ends (hpost : post s s' [] []) : Turn next next' after s s' [] []
  | stays {t t' : Text} (h : ∀ j, run (loop next s) j t = .ok (s, t, j))
      (h' : ∀ j, run (loop next' s') j t' = .ok (s', t', j)) (hpost : post s s' t t') :
      Turn next next' after s s' t t'
  | strays {t t' : Text} (h : ∀ j a r k, run (loop next s) j t = .ok (a, r, k) → lost r) :
      Turn next next' after s s' t t'
  | moves {c : CodePoint} {r r' : Text}
      (h : Move inv post s s' c r r' (next s c r) (next' s' c r')) :
      Turn next next' after s s' (c :: r) (c :: r')
  | jumps {t t' r r' : Text} {after' : Bool} {v v' : σ}
      (hshorter : 2 * r.length + after'.toNat < 2 * t.length + after.toNat)
      (h : ∀ j out, run (loop next s) j t = .ok out → run (loop next v) j r = .ok out)
      (h' : ∀ j, run (loop next' s') j t' = run (loop next' v') j r')
      (hinv : inv after' v v') (hr : Regaps after' r r') : Turn next next' after s s' t t'

variable {lost inv post}

namespace Move

variable {s s' v v' : σ} {c : CodePoint} {r r' : Text} {p q : Prop} [Decidable p] [Decidable q]
  {x x' y y' : Except Complaint (Option (Scan σ))}

theorem ite_congr (hpq : p ↔ q) (hx : p → Move inv post s s' c r r' x x')
    (hy : ¬ p → Move inv post s s' c r r' y y') :
    Move inv post s s' c r r' (if p then x else y) (if q then x' else y') := by
  by_cases hp : p
  · rw [if_pos hp, if_pos (hpq.mp hp)]
    exact hx hp
  · rw [if_neg hp, if_neg fun hq => hp (hpq.mpr hq)]
    exact hy hp

theorem ite (hx : p → Move inv post s s' c r r' x x')
    (hy : ¬ p → Move inv post s s' c r r' y y') :
    Move inv post s s' c r r' (if p then x else y) (if p then x' else y') :=
  .ite_congr Iff.rfl hx hy

/-- A code point is passed, and the state changes alike. -/
theorem steps {after : Bool} (hinv : inv after v v') (hr : Regaps after r r') :
    Move inv post s s' c r r' (.ok (some (pure v))) (.ok (some (pure v'))) :=
  .passes (follows_pure ⟨after, hinv, hr⟩)

end Move

/-- A gap is passed by a loop that passes the blanks of XML, or the loop comes to another blank. -/
theorem Turn.gap {next next' : σ → CodePoint → Text → Except Complaint (Option (Scan σ))}
    {s s' : σ} {p : CodePoint → Bool} (hopening : ¬ p (ofChar '<'))
    (hblank : ∀ c, isXmlBlank c → p c)
    (hpass : ∀ c r, p c → next s c r = .ok (some (pure s)))
    (hpass' : ∀ c r, p c → next' s' c r = .ok (some (pure s'))) (hinv : inv false s s')
    (h : Regaps true t t')
    (hstuck : ∀ c r, c.isBlank → ¬ p c →
      ∀ j a u k, run (loop next s) j (c :: r) = .ok (a, u, k) → lost u) :
    Turn lost inv post next next' true s s' t t' := by
  rcases h.dropWhile_gap hopening hblank with hr | ⟨c, r, hr, hc, hp⟩
  · refine .jumps ?_ (fun j out hrun => ?_) (fun j => run_loop_dropWhile hpass' j t') hinv hr
    · have := (List.dropWhile_sublist (l := t) p).length_le
      rw [Bool.toNat_false, Bool.toNat_true]
      omega
    · rwa [run_loop_dropWhile hpass] at hrun
  · refine .strays fun j a u k hrun => ?_
    rw [run_loop_dropWhile hpass, hr] at hrun
    exact hstuck c r hc hp j a u k hrun

/-- **Loops follow one another** if each turn of the one has its turn of the other. -/
theorem FollowsOr.loop (inv : Bool → σ → σ → Prop)
    {next next' : σ → CodePoint → Text → Except Complaint (Option (Scan σ))}
    (turn : ∀ after s s' t t', inv after s s' → Regaps after t t' →
      Turn lost inv post next next' after s s' t t')
    {after : Bool} {s s' : σ} (hinv : inv after s s') (h : Regaps after t t') :
    FollowsOr lost (loop next s) (loop next' s') t t' post := by
  -- A loop may go on from the same place, but only to take the gap there as passed.
  induction hn : 2 * t.length + after.toNat using Nat.strong_induction_on
    generalizing after s s' t t' with
  | h n ih =>
    cases turn after s s' t t' hinv h with
    | ends hpost => exact .of_run (fun _ => run_loop_nil _ _) (fun _ => run_loop_nil _ _) hpost
    | stays hs hs' hpost => exact .of_run hs hs' hpost
    | strays hlost => exact fun j j' _ a r k hrun => Or.inl (hlost j a r k hrun)
    | @moves c r r' hmove =>
      generalize hx : next s c r = x at hmove
      generalize hx' : next' s' c r' = x' at hmove
      cases hmove with
      | fails =>
        refine .of_fails fun j out hrun => ?_
        rw [run_loop_of_error hx] at hrun
        exact absurd hrun (by simp)
      | stops hpost => exact .of_run (run_loop_of_none hx) (run_loop_of_none hx') hpost
      | @passes scan scan' hscan =>
        have hbind : FollowsOr lost (scan >>= Scan.loop next) (scan' >>= Scan.loop next') r r'
            post := by
          refine FollowsOr.bind_le hscan fun v v' u u' hle ⟨after', hinv', hu⟩ => ?_
          refine ih _ ?_ hinv' hu rfl
          rw [← hn, List.length_cons]
          have := Bool.toNat_le after'
          omega
        intro j j' hj a u k hrun
        rw [run_loop_of_some hx] at hrun
        rw [run_loop_of_some hx']
        exact hbind hj hrun
    | jumps hshorter hs hs' hinv' hr =>
      intro j j' hj a u k hrun
      rw [hs']
      exact ih _ (hn ▸ hshorter) hinv' hr rfl hj (hs j _ hrun)

end Loops

end Scan

end StructuredText.Xml
