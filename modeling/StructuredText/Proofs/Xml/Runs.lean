/-
# Running scans

What a scan gives and leaves, without the proof that what it leaves is an end of the text.  Scans
are compared by their runs, and the equations here are all that is needed to tell one.

* `Scan.run` runs a scan, `Scan.run_bind` puts two runs together;
* `Scan.run_loop` takes one turn of a loop;
* `Scan.suffix_run` says that what is left is an end of the text, so nothing grows.
-/
import Mathlib
import StructuredText.Xml.Scan

namespace StructuredText.Xml

namespace Scan

variable {α β σ : Type}

/-- What a scan gives, what it leaves of the text, and the journal afterwards. -/
def run (scan : Scan α) (j : Journal) (t : Text) : Except Fault (α × Text × Journal) :=
  (scan j t).map fun result => (result.1, result.2.1.1, result.2.2)

theorem ok_bind {ε : Type} (a : α) (f : α → Except ε β) : (Except.ok a >>= f) = f a := rfl

theorem error_bind {ε : Type} (e : ε) (f : α → Except ε β) : (Except.error e >>= f) = .error e := rfl

@[simp] theorem run_pure (a : α) (j : Journal) (t : Text) :
    run (pure a) j t = .ok (a, t, j) := rfl

@[simp] theorem run_bind (scan : Scan α) (next : α → Scan β) (j : Journal) (t : Text) :
    run (scan >>= next) j t =
      run scan j t >>= fun result => run (next result.1) result.2.2 result.2.1 := by
  unfold run
  simp only [bind]
  rcases scan j t with fault | ⟨a, ⟨r, h⟩, k⟩
  · rfl
  · dsimp only [Except.map, Except.bind]
    rcases next a k r with fault | ⟨b, r', k'⟩ <;> rfl

theorem run_bind_eq_ok {scan : Scan α} {next : α → Scan β} {j : Journal} {t : Text}
    {out : β × Text × Journal} (h : run (scan >>= next) j t = .ok out) :
    ∃ a r k, run scan j t = .ok (a, r, k) ∧ run (next a) k r = .ok out := by
  rw [run_bind] at h
  rcases hscan : run scan j t with fault | ⟨a, r, k⟩
  · rw [hscan] at h
    exact absurd h (by simp [bind, Except.bind])
  · rw [hscan] at h
    exact ⟨a, r, k, rfl, h⟩

/-- What a scan leaves is an end of what it was given. -/
theorem suffix_run {scan : Scan α} {j k : Journal} {t r : Text} {a : α}
    (h : run scan j t = .ok (a, r, k)) : r <:+ t := by
  unfold run at h
  rcases hscan : scan j t with fault | ⟨a', ⟨r', hr⟩, k'⟩
  · rw [hscan] at h
    exact absurd h (by simp [Except.map])
  · rw [hscan] at h
    obtain ⟨-, rfl, -⟩ : a' = a ∧ r' = r ∧ k' = k := by simpa [Except.map] using h
    exact hr

/-- What a scan leaves is no longer than what it was given. -/
theorem length_run {scan : Scan α} {j k : Journal} {t r : Text} {a : α}
    (h : run scan j t = .ok (a, r, k)) : r.length ≤ t.length := (suffix_run h).length_le

/-! ## Single steps -/

section Steps

variable (j : Journal) (t : Text)

@[simp] theorem run_fail (complaint : Complaint) :
    run (fail complaint : Scan α) j t = .error (j.firstOr complaint t) := rfl

@[simp] theorem run_note (complaint : Complaint) :
    run (note complaint) j t = .ok ((), t, j.enterError complaint t) := rfl

@[simp] theorem run_warn : run warn j t = .ok ((), t, j.enterWarning) := rfl

@[simp] theorem run_countBytes (text : Text) :
    run (countBytes text) j t = .ok ((), t, j.countBytes text t) := rfl

@[simp] theorem run_moveColumns (n : Int) :
    run (moveColumns n) j t = .ok ((), t, j.moveColumns n t) := rfl

theorem run_charge (n : ℕ) :
    run (charge n) j t =
      if Journal.maxCost < j.cost + n then .error (j.firstOr .entitiesTooLong t)
      else .ok ((), t, { j with cost := j.cost + n }) := by
  unfold run charge
  split <;> rfl

theorem run_readAt (place : Journal → Text → Place) (other : Text) (scan : Scan α) :
    run (readAt place other scan) j t =
      (run scan { j with inside := some (place j t, other) } other).map fun result =>
        (result.1, t, { result.2.2 with inside := j.inside }) := by
  unfold run readAt
  rcases scan { j with inside := some (place j t, other) } other with fault | ⟨a, r, k⟩ <;> rfl

theorem run_placeBefore (rest : Text) :
    run (placeBefore rest) j t = .ok (j.placeBefore rest, t, j) := rfl

theorem run_expectEnd (complaint : Complaint) :
    run (expectEnd complaint) j t =
      if t.isEmpty ∨ j.first.isSome then .ok ((), t, j) else .error (j.firstOr complaint t) := by
  unfold run expectEnd
  split <;> rfl

@[simp] theorem run_remaining : run remaining j t = .ok (t, t, j) := rfl

@[simp] theorem run_peek : run peek j t = .ok (t.head?, t, j) := rfl

@[simp] theorem run_skip : run skip j t = .ok ((), t.drop 1, j) := rfl

@[simp] theorem run_takeWhile (p : CodePoint → Bool) :
    run (takeWhile p) j t = .ok (t.takeWhile p, t.dropWhile p, j) := rfl

theorem run_accept (word : Text) :
    run (accept word) j t =
      if word.isPrefixOf t then .ok (true, t.drop word.length, j) else .ok (false, t, j) := by
  unfold run accept
  split <;> rfl

@[simp] theorem run_isNext (word : Text) :
    run (isNext word) j t = .ok (word.isPrefixOf t, t, j) := rfl

theorem run_expect (word : Text) (complaint : Complaint) :
    run (expect word complaint) j t =
      if word.isPrefixOf t then .ok ((), t.drop word.length, j)
      else .error (j.firstOr complaint t) := by
  rw [expect, run_bind, run_accept]
  split <;> rfl

end Steps

/-- An entity is read as part of the text or, if its cost is known, only charged. -/
theorem run_readOnce (entity other : Text) (scan : Scan α) (otherwise : α) (j : Journal)
    (t : Text) :
    run (readOnce entity other scan otherwise) j t =
      match j.knownCost? entity with
      | some cost => run (do charge (cost + Journal.referenceCost); return otherwise) j t
      | none =>
        (run (do let a ← within other scan; charge (Utf8.byteCount other); return a) j t).map
          fun result => (result.1, result.2.1, { result.2.2 with
            cost := result.2.2.cost + Journal.referenceCost
            known := (entity, result.2.2.cost - j.cost) :: result.2.2.known }) := by
  conv_lhs => unfold run readOnce
  rcases j.knownCost? entity with _ | cost
  · dsimp only
    unfold run
    generalize (do let a ← within other scan; charge (Utf8.byteCount other); return a :
      Scan α) j t = result
    rcases result with fault | ⟨a, ⟨r, hr⟩, k⟩ <;> rfl
  · rfl

/-! ## Loops -/

variable {next : σ → CodePoint → Text → Except Complaint (Option (Scan σ))}

theorem run_loopFrom (whole : Text) (s : σ) (j : Journal) (t : Text) (h : t <:+ whole) :
    (loopFrom next whole s j t h).map (fun result => (result.1, result.2.1.1, result.2.2)) =
      run (loop next s) j t := by
  -- The whole text is only kept for the proof that what is left is an end of it.
  induction hn : t.length using Nat.strong_induction_on generalizing whole s j t with
  | h n ih =>
    unfold run loop
    cases t with
    | nil => rw [loopFrom, loopFrom]; rfl
    | cons c r =>
      rw [loopFrom, loopFrom]
      rcases next s c r with complaint | _ | scan
      · rfl
      · rfl
      · dsimp only
        rcases scan j r with fault | ⟨s', ⟨r', h'⟩, k⟩
        · rfl
        · have hlt : r'.length < n := by
            rw [← hn, List.length_cons]
            exact Nat.lt_succ_of_le h'.length_le
          exact (ih _ hlt whole s' k r' _ rfl).trans (ih _ hlt (c :: r) s' k r' _ rfl).symm

@[simp] theorem run_loop_nil (s : σ) (j : Journal) :
    run (loop next s) j [] = .ok (s, [], j) := by
  unfold run loop
  rw [loopFrom]
  rfl

/-- **One turn of a loop.** -/
theorem run_loop_cons (s : σ) (j : Journal) (c : CodePoint) (r : Text) :
    run (loop next s) j (c :: r) =
      match next s c r with
      | .error complaint => .error (j.firstOr complaint (c :: r))
      | .ok none => .ok (s, c :: r, j)
      | .ok (some scan) =>
        run scan j r >>= fun result => run (loop next result.1) result.2.2 result.2.1 := by
  conv_lhs => unfold run loop
  rw [loopFrom]
  rcases next s c r with complaint | _ | scan
  · rfl
  · rfl
  · dsimp only
    unfold run
    rcases scan j r with fault | ⟨s', ⟨r', h'⟩, k⟩
    · rfl
    · exact run_loopFrom (c :: r) s' k r' _

section Turns

variable {s : σ} {c : CodePoint} {r : Text}

theorem run_loop_of_error {complaint : Complaint} (h : next s c r = .error complaint)
    (j : Journal) : run (loop next s) j (c :: r) = .error (j.firstOr complaint (c :: r)) := by
  rw [run_loop_cons, h]

theorem run_loop_of_none (h : next s c r = .ok none) (j : Journal) :
    run (loop next s) j (c :: r) = .ok (s, c :: r, j) := by
  rw [run_loop_cons, h]

theorem run_loop_of_some {scan : Scan σ} (h : next s c r = .ok (some scan)) (j : Journal) :
    run (loop next s) j (c :: r) = run (scan >>= loop next) j r := by
  rw [run_loop_cons, h, run_bind]

theorem run_loop_of_pure {v : σ} (h : next s c r = .ok (some (pure v))) (j : Journal) :
    run (loop next s) j (c :: r) = run (loop next v) j r := by
  rw [run_loop_of_some h, run_bind, run_pure]
  rfl

/-- Code points of a class that leave a loop as it is are passed at once. -/
theorem run_loop_dropWhile {p : CodePoint → Bool}
    (hpass : ∀ c r, p c → next s c r = .ok (some (pure s))) (j : Journal) (t : Text) :
    run (loop next s) j t = run (loop next s) j (t.dropWhile p) := by
  induction t with
  | nil => rfl
  | cons c t ih =>
    by_cases hc : p c
    · rw [run_loop_of_pure (hpass c t hc), List.dropWhile_cons_of_pos hc, ih]
    · rw [List.dropWhile_cons_of_neg hc]

/-- Code points that a loop gathers are gathered at once. -/
theorem run_loop_gather {next : Text → CodePoint → Text → Except Complaint (Option (Scan Text))}
    {w : Text} (hpass : ∀ read, ∀ c ∈ w, ∀ r, next read c r = .ok (some (pure (c :: read))))
    (read : Text) (j : Journal) (t : Text) :
    run (loop next read) j (w ++ t) = run (loop next (w.reverse ++ read)) j t := by
  induction w generalizing read with
  | nil => rfl
  | cons c w ih =>
    rw [List.cons_append, run_loop_of_pure (hpass read c List.mem_cons_self _),
      ih fun read d hd => hpass read d (List.mem_cons_of_mem _ hd), List.reverse_cons,
      List.append_assoc]
    rfl

/-- A loop does not come past a code point that it never passes, if all that stands before it is
passed at once or not at all. -/
theorem run_loop_ne_ok {w : Text}
    (hpass : ∀ s, ∀ d ∈ w, ∀ r, (∃ e, next s d r = .error e) ∨
      ∃ v, next s d r = .ok (some (pure v)))
    (hbar : ∀ s r, ∃ e, next s c r = .error e) (j : Journal) (out : σ × Text × Journal) :
    run (loop next s) j (w ++ c :: r) ≠ .ok out := by
  induction w generalizing s with
  | nil =>
    obtain ⟨e, he⟩ := hbar s r
    rw [List.nil_append, run_loop_of_error he]
    simp
  | cons d w ih =>
    obtain ⟨hd, hw⟩ : (∀ s, ∀ r, (∃ e, next s d r = .error e) ∨
        ∃ v, next s d r = .ok (some (pure v))) ∧ _ :=
      ⟨fun s => hpass s d List.mem_cons_self, fun s e he => hpass s e (List.mem_cons_of_mem _ he)⟩
    rw [List.cons_append]
    rcases hd s (w ++ c :: r) with ⟨e, he⟩ | ⟨v, hv⟩
    · rw [run_loop_of_error he]
      simp
    · rw [run_loop_of_pure hv]
      exact ih hw

end Turns

end Scan

end StructuredText.Xml
