/-
# The characters of a written value

Outside of its strings and names a value is written in printable ASCII, with line feeds between the
lines.  So what holds of these characters holds of all that is written if it holds of the strings.

* `forall_mem_render_iff` says so of any property of characters;
* `return_not_mem_renderWith`: no carriage return is ever written.
-/
import Mathlib
import StructuredText.Json.Printer
import StructuredText.Proofs.Json.Sorting
import StructuredText.Proofs.Json.WellFormed
import StructuredText.Proofs.Json.WrittenNumbers
import StructuredText.Proofs.Json.WrittenStrings

namespace StructuredText.Json

open CodePoint (ofChar)

/-! ## Numbers -/

theorem NumberText.printable {t : Text} {n : Numeral} (h : NumberText t n) :
    ∀ c ∈ t, Printable c := by
  refine h.forall_mem (fun c hc => ?_) (by decide)
  simp only [CodePoint.isDigit, CodePoint.between, Bool.and_eq_true, decide_eq_true_eq] at hc
  exact ⟨by omega, by omega⟩

theorem printable_toText (x : Double) : ∀ c ∈ x.toText, Printable c :=
  toText_induction (fun h => h.printable) (by decide) x

/-! ## Pieces -/

/-- What holds of all between the separators, if it holds of the separators. -/
theorem forall_mem_flatten_intersperse {α : Type} {p : α → Prop} {separator : List α}
    (hseparator : ∀ x ∈ separator, p x) (xs : List (List α)) :
    (∀ x ∈ (xs.intersperse separator).flatten, p x) ↔ ∀ l ∈ xs, ∀ x ∈ l, p x := by
  induction xs with
  | nil => simp
  | cons l xs ih =>
    cases xs with
    | nil => simp
    | cons l' xs =>
      rw [List.intersperse_cons_cons, List.flatten_cons, List.flatten_cons, List.forall_mem_append,
        List.forall_mem_append, ih, List.forall_mem_cons (l := l' :: xs)]
      exact and_congr_right fun _ => and_iff_right hseparator

/-- What holds of all characters of a token, and of anything else. -/
def Piece.All (p : CodePoint → Prop) : Piece → Prop
  | token text => ∀ c ∈ text, p c
  | lineBreak _ => True
  | gap => True

theorem mem_itemPieces {depth : ℕ} {items : List Value} {pieces : List Piece} :
    pieces ∈ itemPieces depth items ↔ ∃ v ∈ items, pieces = v.pieces depth := by
  induction items with
  | nil => simp [itemPieces]
  | cons v items ih => simp [itemPieces, ih]

theorem mem_memberPieces {depth : ℕ} {members : List Member} {pieces : List Piece} :
    pieces ∈ memberPieces depth members ↔ ∃ m ∈ members,
      pieces = .token (quote m.1) :: .token ":" :: .gap :: m.2.pieces depth := by
  induction members with
  | nil => simp [memberPieces]
  | cons m members ih => simp [memberPieces, ih]

section Printable

variable {p : CodePoint → Prop} (hp : ∀ c, Printable c → p c)
include hp

theorem all_token {text : Text} (h : ∀ c ∈ text, Printable c) : (Piece.token text).All p :=
  fun c hc => hp c (h c hc)

theorem all_enclose (depth : ℕ) {opening closing : Text} (hopening : ∀ c ∈ opening, Printable c)
    (hclosing : ∀ c ∈ closing, Printable c) (items : List (List Piece)) :
    (∀ piece ∈ Piece.enclose depth opening closing items, piece.All p) ↔
      ∀ pieces ∈ items, ∀ piece ∈ pieces, piece.All p := by
  cases items with
  | nil =>
    have hboth : (Piece.token (opening ++ closing)).All p :=
      all_token hp (List.forall_mem_append.mpr ⟨hopening, hclosing⟩)
    simpa [Piece.enclose] using hboth
  | cons pieces items =>
    have hseparator : ∀ piece ∈ [Piece.token ",", .lineBreak (depth + 1)], piece.All p := by
      simp only [List.forall_mem_cons]
      exact ⟨all_token hp (by decide), trivial, by simp⟩
    have hends : ∀ piece ∈ [Piece.lineBreak depth, .token closing], piece.All p := by
      simp only [List.forall_mem_cons]
      exact ⟨trivial, all_token hp hclosing, by simp⟩
    have hbetween := forall_mem_flatten_intersperse hseparator (pieces :: items)
    rw [Piece.enclose, List.forall_mem_cons, List.forall_mem_cons, List.forall_mem_append,
      List.intercalate, hbetween]
    · exact ⟨fun h => h.2.2.1, fun h => ⟨all_token hp hopening, trivial, h, hends⟩⟩
    · simp

theorem forall_mem_pieces_iff (v : Value) (depth : ℕ) :
    (∀ piece ∈ v.pieces depth, piece.All p) ↔ ∀ s ∈ v.strings, ∀ c ∈ quote s, p c := by
  have hplain {text : Text} (h : ∀ c ∈ text, Printable c) :
      (∀ piece ∈ [Piece.token text], piece.All p) ↔ ∀ s ∈ ([] : List Text), ∀ c ∈ quote s, p c :=
    iff_of_true (by simpa using all_token hp h) (by simp)
  induction v using Value.induction generalizing depth with
  | null => exact hplain (by decide)
  | bool b => cases b <;> exact hplain (by decide)
  | int n => exact hplain (numberText_ofInt n).printable
  | float x => exact hplain (printable_toText x)
  | string s =>
    rw [Value.pieces, Value.strings, List.forall_mem_singleton, List.forall_mem_singleton]
    rfl
  | array items ih =>
    rw [Value.pieces, Value.strings, all_enclose hp depth (by decide) (by decide)]
    constructor
    · intro h s hs
      obtain ⟨v, hv, hs⟩ := mem_stringsOfItems.mp hs
      exact (ih v hv (depth + 1)).mp (h _ (mem_itemPieces.mpr ⟨v, hv, rfl⟩)) s hs
    · intro h pieces hpieces
      obtain ⟨v, hv, rfl⟩ := mem_itemPieces.mp hpieces
      exact (ih v hv (depth + 1)).mpr fun s hs => h s (mem_stringsOfItems.mpr ⟨v, hv, hs⟩)
  | object members ih =>
    have hcolon : (Piece.token ":").All p := all_token hp (by decide)
    have hmember (m : Member) :
        (∀ piece ∈ Piece.token (quote m.1) :: .token ":" :: .gap :: m.2.pieces (depth + 1),
          piece.All p) ↔
          (∀ c ∈ quote m.1, p c) ∧ ∀ piece ∈ m.2.pieces (depth + 1), piece.All p := by
      rw [List.forall_mem_cons, List.forall_mem_cons, List.forall_mem_cons]
      exact and_congr_right fun _ => ⟨fun h => h.2.2, fun h => ⟨hcolon, trivial, h⟩⟩
    rw [Value.pieces, Value.strings, all_enclose hp depth (by decide) (by decide)]
    constructor
    · intro h s hs
      obtain ⟨m, hm, hs⟩ := mem_stringsOfMembers.mp hs
      obtain ⟨hname, hvalue⟩ := (hmember m).mp (h _ (mem_memberPieces.mpr ⟨m, hm, rfl⟩))
      rcases hs with rfl | hs
      · exact hname
      · exact (ih m hm (depth + 1)).mp hvalue s hs
    · intro h pieces hpieces
      obtain ⟨m, hm, rfl⟩ := mem_memberPieces.mp hpieces
      refine (hmember m).mpr ⟨h _ (mem_stringsOfMembers.mpr ⟨m, hm, Or.inl rfl⟩), ?_⟩
      exact (ih m hm (depth + 1)).mpr fun s hs =>
        h s (mem_stringsOfMembers.mpr ⟨m, hm, Or.inr hs⟩)

theorem forall_mem_write_iff (hfeed : p '\n') (l : Layout) (piece : Piece) :
    (∀ c ∈ l.write piece, p c) ↔ piece.All p := by
  have hblank : p ' ' := hp ' ' (by decide)
  cases piece with
  | token text => cases l <;> exact Iff.rfl
  | lineBreak depth =>
    refine iff_of_true ?_ trivial
    cases l with
    | minified => simp [Layout.write]
    | indented columns =>
      refine List.forall_mem_cons.mpr ⟨hfeed, fun c hc => ?_⟩
      rw [List.eq_of_mem_replicate hc]
      exact hblank
  | gap =>
    refine iff_of_true ?_ trivial
    cases l with
    | minified => simp [Layout.write]
    | indented columns => exact List.forall_mem_singleton.mpr hblank

/-- **What is written has a property of printable characters if the quoted strings have it.** -/
theorem forall_mem_render_iff (hfeed : p '\n') (l : Layout) (v : Value) :
    (∀ c ∈ v.render l, p c) ↔ ∀ s ∈ v.strings, ∀ c ∈ quote s, p c := by
  rw [Value.render, List.forall_mem_flatMap, ← forall_mem_pieces_iff hp v 0]
  exact forall₂_congr fun piece _ => forall_mem_write_iff hp hfeed l piece

end Printable

/-! ## Carriage returns -/

theorem not_printable_return : ¬ Printable (ofChar '\r') := by decide

theorem return_not_mem_quote (s : Text) : ofChar '\r' ∉ quote s := by
  have hescape (c : CodePoint) : ofChar '\r' ∉ escapeInString c := by
    unfold escapeInString
    split_ifs with h₁ h₂ h₃ hreturn
    · decide
    · decide
    · decide
    · decide
    · decide
    · decide
    · decide
    · exact fun h => not_printable_return (printable_unicodeEscape _ _ h)
    · exact fun h => hreturn (List.mem_singleton.mp h).symm
  simp only [quote, List.mem_cons, List.mem_append, List.mem_flatMap, not_or, not_exists, not_and]
  exact ⟨by decide, fun c _ => hescape c, by decide, by simp⟩

/-- **No carriage return is ever written.** -/
theorem return_not_mem_renderWith (o : FormatOptions) (v : Value) :
    ofChar '\r' ∉ renderWith o v := by
  have hne (c : CodePoint) (hc : Printable c) : c ≠ ofChar '\r' := fun h =>
    not_printable_return (h ▸ hc)
  have hrender : ∀ c ∈ v.render o.layout, c ≠ ofChar '\r' := by
    refine (forall_mem_render_iff hne (by decide) o.layout v).mpr fun s _ c hc hreturn => ?_
    exact return_not_mem_quote s (hreturn ▸ hc)
  unfold renderWith
  simp only
  split
  · intro h
    obtain ⟨c, hc, hmem⟩ := List.mem_flatMap.mp h
    unfold escapeCodePoint at hmem
    split_ifs at hmem with hascii hsmall
    · exact hrender c hc (List.mem_singleton.mp hmem).symm
    · exact not_printable_return (printable_unicodeEscape _ _ hmem)
    · rcases List.mem_append.mp hmem with h | h
      · exact not_printable_return (printable_unicodeEscape _ _ h)
      · exact not_printable_return (printable_unicodeEscape _ _ h)
  · exact fun h => hrender _ h rfl

end StructuredText.Json
