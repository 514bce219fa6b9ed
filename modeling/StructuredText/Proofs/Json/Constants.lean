/-
# Names of numbers that JSON does not have

The grammar has no `NaN` and no `Infinity`.  Strings may hold any words, so a text is followed from
its beginning to tell what stands inside a string and what does not.

* `Place.run` follows a text, `Place.bare` keeps what stands outside strings;
* `DocumentText.not_constant`: no document has the name of a constant outside its strings.
-/
import Mathlib
import StructuredText.Json.Parser
import StructuredText.Proofs.Json.Containers
import StructuredText.Proofs.Json.Grammar
import StructuredText.Proofs.Json.Numbers

namespace StructuredText.Json

open CodePoint (ofChar)

/-! ## Inside and outside of strings -/

/-- Where a code point stands in a text. -/
inductive Place
  | outside
  | inside
  /-- Inside a string, after a backslash. -/
  | escaped
deriving DecidableEq

namespace Place

/-- Where the next code point stands. -/
def after : Place → CodePoint → Place
  | outside, c => if c = ofChar '"' then inside else outside
  | inside, c => if c = ofChar '"' then outside else if c = ofChar '\\' then escaped else inside
  | escaped, _ => inside

/-- Where a text ends. -/
def run (p : Place) (t : Text) : Place := t.foldl after p

/-- What stands outside strings. -/
def bare : Place → Text → Text
  | _, [] => []
  | p, c :: t => (if p = outside then [c] else []) ++ bare (p.after c) t

theorem run_append (p : Place) (s t : Text) : p.run (s ++ t) = (p.run s).run t :=
  List.foldl_append

theorem bare_append (p : Place) (s t : Text) :
    p.bare (s ++ t) = p.bare s ++ (p.run s).bare t := by
  induction s generalizing p with
  | nil => rfl
  | cons c s ih => simp [bare, run, ih]

end Place

/-- A text that ends outside of strings and has neither of two letters there. -/
structure Ordinary (t : Text) : Prop where
  closed : Place.outside.run t = .outside
  letters : ∀ c ∈ Place.outside.bare t, c ≠ ofChar 'N' ∧ c ≠ ofChar 'I'

/-- A code point that is none of three. -/
def OrdinaryCode (c : CodePoint) : Prop := c ≠ ofChar '"' ∧ c ≠ ofChar 'N' ∧ c ≠ ofChar 'I'

instance (c : CodePoint) : Decidable (OrdinaryCode c) :=
  inferInstanceAs (Decidable (_ ∧ _ ∧ _))

theorem Ordinary.nil : Ordinary [] := ⟨rfl, by simp [Place.bare]⟩

theorem Ordinary.append {s t : Text} (hs : Ordinary s) (ht : Ordinary t) : Ordinary (s ++ t) := by
  constructor
  · rw [Place.run_append, hs.closed, ht.closed]
  · intro c hc
    rw [Place.bare_append, hs.closed] at hc
    rcases List.mem_append.mp hc with hc | hc
    · exact hs.letters c hc
    · exact ht.letters c hc

theorem Ordinary.cons {c : CodePoint} {t : Text} (hc : OrdinaryCode c) (ht : Ordinary t) :
    Ordinary (c :: t) := by
  have hone : Ordinary [c] := by
    constructor
    · simp [Place.run, Place.after, hc.1]
    · simpa [Place.bare] using hc.2
  exact hone.append ht

theorem ordinary_of_codes {t : Text} (h : ∀ c ∈ t, OrdinaryCode c) : Ordinary t := by
  induction t with
  | nil => exact .nil
  | cons c t ih =>
    exact .cons (h c List.mem_cons_self) (ih fun c' hc' => h c' (List.mem_cons_of_mem c hc'))

/-! ## The texts of the grammar -/

theorem ordinaryCode_of_isDigit {c : CodePoint} (h : c.isDigit) : OrdinaryCode c :=
  ⟨ne_of_isDigit h (by decide), ne_of_isDigit h (by decide), ne_of_isDigit h (by decide)⟩

theorem ordinaryCode_of_isJsonBlank {c : CodePoint} (h : isJsonBlank c) : OrdinaryCode c := by
  simp only [isJsonBlank, Bool.or_eq_true, beq_iff_eq] at h
  rcases h with ((rfl | rfl) | rfl) | rfl <;>
  exact ⟨by decide, by decide, by decide⟩

theorem Blanks.ordinary {w : Text} (h : Blanks w) : Ordinary w :=
  ordinary_of_codes fun c hc => ordinaryCode_of_isJsonBlank (h c hc)

theorem NumberText.ordinary {t : Text} {n : Numeral} (h : NumberText t n) : Ordinary t :=
  ordinary_of_codes (h.forall_mem (fun _ hc => ordinaryCode_of_isDigit hc) (by decide))

/-- A hexadecimal digit neither ends a string nor begins an escape. -/
theorem after_inside_of_hex {x : CodePoint} {n : ℕ} (h : x.hexValue? = some n) :
    Place.inside.after x = .inside := by
  have hquote : x ≠ ofChar '"' := by
    rintro rfl
    exact absurd h (by simp [CodePoint.hexValue?, CodePoint.between, ofChar])
  have hbackslash : x ≠ ofChar '\\' := by
    rintro rfl
    exact absurd h (by simp [CodePoint.hexValue?, CodePoint.between, ofChar])
  simp [Place.after, hquote, hbackslash]

theorem hexValue?_of_hex4 {a b c d : CodePoint} {n : ℕ} (h : Text.hexValue? [a, b, c, d] = some n) :
    ∀ x ∈ [a, b, c, d], ∃ k, x.hexValue? = some k := by
  simp only [Text.hexValue?, List.foldlM_cons, List.foldlM_nil, Option.bind_eq_bind,
    Option.bind_eq_some_iff, Option.map_eq_some_iff] at h
  obtain ⟨_, ⟨_, ha, -⟩, _, ⟨_, hb, -⟩, _, ⟨_, hc, -⟩, _, ⟨_, hd, -⟩, -⟩ := h
  simp [ha, hb, hc, hd]

theorem after_backslash : Place.inside.after (ofChar '\\') = .escaped := by decide

theorem after_escaped (c : CodePoint) : Place.escaped.after c = .inside := rfl

/-- The parts of a string stay inside it. -/
theorem PartsText.inside {t : Text} {parts : List StringPart} (h : PartsText t parts) :
    Place.inside.run t = .inside ∧ Place.inside.bare t = [] := by
  induction h with
  | nil => exact ⟨rfl, rfl⟩
  | plain hc _ ih => simpa [Place.run, Place.bare, Place.after, hc.2.1, hc.2.2] using ih
  | short _ _ ih =>
    simpa [Place.run, Place.bare, after_backslash, after_escaped] using ih
  | @unit a b c d n t parts hex _ ih =>
    have hdigits : ∀ x ∈ [a, b, c, d], Place.inside.after x = .inside := by
      intro x hx
      obtain ⟨k, hk⟩ := hexValue?_of_hex4 hex x hx
      exact after_inside_of_hex hk
    simp only [List.mem_cons, List.not_mem_nil, or_false, forall_eq_or_imp, forall_eq] at hdigits
    obtain ⟨ha, hb, hc, hd⟩ := hdigits
    simpa [Place.run, Place.bare, after_backslash, after_escaped, ha, hb, hc, hd] using ih

/-- A string between its quotes. -/
theorem PartsText.ordinary {t : Text} {parts : List StringPart} (h : PartsText t parts) :
    Ordinary (ofChar '"' :: (t ++ [ofChar '"'])) := by
  have hopen : Place.outside.after (ofChar '"') = .inside := by decide
  have hclose : Place.inside.after (ofChar '"') = .outside := by decide
  constructor
  · rw [← List.cons_append, Place.run_append]
    simp [Place.run, hopen, show t.foldl Place.after .inside = .inside from h.inside.1, hclose]
  · rw [Place.bare, hopen, Place.bare_append, h.inside.1, h.inside.2]
    simp only [Place.bare, if_true, List.append_nil, reduceCtorEq, if_false, List.mem_singleton,
      forall_eq]
    decide

/-! ## Values -/

theorem ItemsText.ordinary {items : List Tree}
    (hitem : ∀ tree ∈ items, ∀ t, ValueText t tree → Ordinary t) {t : Text}
    (h : ItemsText t items) : Ordinary t := by
  induction items generalizing t with
  | nil => cases h
  | cons tree trees ih =>
    cases h with
    | last hw hv hw' =>
      exact (hw.ordinary.append (hitem tree List.mem_cons_self _ hv)).append hw'.ordinary
    | more hw hv hw' hrest =>
      have htrees := ih (fun tree' h' => hitem tree' (List.mem_cons_of_mem tree h')) hrest
      exact ((hw.ordinary.append (hitem tree List.mem_cons_self _ hv)).append hw'.ordinary).append
        (.cons (by decide) htrees)

theorem MemberText.ordinary {parts : List StringPart} {tree : Tree}
    (hitem : ∀ t, ValueText t tree → Ordinary t) {t : Text} (h : MemberText t (parts, tree)) :
    Ordinary t := by
  cases h with
  | @mk w k w₁ w₂ t w' _ _ hw hk hw₁ hw₂ hv hw' =>
    have hvalue : Ordinary (w₂ ++ t ++ w') := (hw₂.ordinary.append (hitem t hv)).append hw'.ordinary
    have hafter := hw₁.ordinary.append (.cons (c := ofChar ':') (by decide) hvalue)
    simpa using (hw.ordinary.append hk.ordinary).append hafter

theorem MembersText.ordinary {members : List (List StringPart × Tree)}
    (hitem : ∀ m ∈ members, ∀ t, ValueText t m.2 → Ordinary t) {t : Text}
    (h : MembersText t members) : Ordinary t := by
  induction members generalizing t with
  | nil => cases h
  | cons m members ih =>
    cases h with
    | last hm => exact MemberText.ordinary (hitem m List.mem_cons_self) hm
    | more hm hrest =>
      have hmembers := ih (fun m' h' => hitem m' (List.mem_cons_of_mem m h')) hrest
      exact (MemberText.ordinary (hitem m List.mem_cons_self) hm).append
        (.cons (by decide) hmembers)

/-- A text between brackets or braces. -/
theorem Ordinary.enclosed {c d : CodePoint} {t : Text} (hc : OrdinaryCode c) (ht : Ordinary t)
    (hd : OrdinaryCode d) : Ordinary (c :: (t ++ [d])) :=
  .cons hc (ht.append (.cons hd .nil))

theorem ValueText.ordinary {tree : Tree} {t : Text} (h : ValueText t tree) : Ordinary t := by
  induction tree using Tree.induction generalizing t with
  | null =>
    cases h
    exact ordinary_of_codes (by decide)
  | bool b =>
    cases h
    · exact ordinary_of_codes (by decide)
    · exact ordinary_of_codes (by decide)
  | number n =>
    cases h with
    | number hn => exact hn.ordinary
  | string parts =>
    cases h with
    | string hparts => exact hparts.ordinary
  | array items ih =>
    cases h with
    | emptyArray hw => exact .enclosed (by decide) hw.ordinary (by decide)
    | array hitems =>
      exact .enclosed (by decide) (ItemsText.ordinary (fun tree h _ => ih tree h) hitems)
        (by decide)
  | object members ih =>
    cases h with
    | emptyObject hw => exact .enclosed (by decide) hw.ordinary (by decide)
    | object hmembers =>
      exact .enclosed (by decide) (MembersText.ordinary (fun m h _ => ih m h) hmembers) (by decide)

/-- The names of the numbers that JSON does not have. -/
def constants : List Text := ["NaN", "Infinity", "-Infinity"]

/-- **No document has the name of a constant outside its strings.** -/
theorem DocumentText.not_constant {front constant rest : Text} {tree : Tree}
    (hfront : Place.outside.run front = .outside) (hconstant : constant ∈ constants)
    (h : DocumentText (front ++ constant ++ rest) tree) : False := by
  -- Each constant shows a letter outside of strings that no document shows there.
  have hletters : ∀ constant ∈ constants, ∃ c ∈ Place.outside.bare constant,
      c = ofChar 'N' ∨ c = ofChar 'I' := by decide
  obtain ⟨c, hc, hletter⟩ := hletters constant hconstant
  have hordinary : Ordinary (front ++ constant ++ rest) := by
    generalize front ++ constant ++ rest = text at h
    cases h with
    | mk hw hv hw' => exact (hw.ordinary.append hv.ordinary).append hw'.ordinary
  have hmem : c ∈ Place.outside.bare (front ++ constant ++ rest) := by
    rw [Place.bare_append, Place.bare_append, hfront]
    exact List.mem_append_left _ (List.mem_append_right _ hc)
  obtain ⟨hN, hI⟩ := hordinary.letters c hmem
  exact hletter.elim hN hI

end StructuredText.Json
