/-
# The grammar of JSON texts

The texts that RFC 8259 derives, each with the syntax tree of its derivation, and the value that
a tree denotes.  Nothing here reads a text from left to right: a text is cut wherever a
production allows it.

* `DocumentText` derives whole documents, `ValueText` values;
* `Tree.numerals` are the numbers written in a tree, `Numeral.InRange` says which of them a value
  can hold;
* `Tree.Denotes` relates a tree to its value, where `joinUnits` reads strings and `Merges` members
  with repeated names.
-/
import Mathlib
import StructuredText.Json.Value
import StructuredText.Json.Parser
import StructuredText.Proofs.Double.Nearest

namespace StructuredText.Json

open CodePoint (ofChar)

/-! ## Syntax trees -/

/-- A part of a string as it is written. -/
inductive StringPart
  /-- A code point that stands for itself or has a one-letter escape. -/
  | plain (c : CodePoint)
  /-- A numbered escape. -/
  | unit (c : CodePoint)
deriving DecidableEq

/-- A number as it is written. -/
structure Numeral where
  negative : Bool
  /-- The digits before the point. -/
  whole : Text
  /-- The digits after the point; none if there is no fraction. -/
  fraction : Text
  /-- The value of the exponent, if there is one. -/
  exponent : Option ℤ

/-- A value as it is written. -/
inductive Tree
  | null
  | bool (b : Bool)
  | number (n : Numeral)
  | string (parts : List StringPart)
  | array (items : List Tree)
  | object (members : List (List StringPart × Tree))

/-- What holds of a tree if it holds of every tree that directly holds it only. -/
theorem Tree.induction {motive : Tree → Prop} (null : motive null) (bool : ∀ b, motive (bool b))
    (number : ∀ n, motive (number n)) (string : ∀ parts, motive (string parts))
    (array : ∀ items, (∀ t ∈ items, motive t) → motive (array items))
    (object : ∀ members, (∀ m ∈ members, motive m.2) → motive (object members))
    (tree : Tree) : motive tree :=
  match tree with
  | .null => null
  | .bool b => bool b
  | .number n => number n
  | .string parts => string parts
  | .array items => array items fun t _ => Tree.induction null bool number string array object t
  | .object members =>
    object members fun m _ => Tree.induction null bool number string array object m.2
termination_by sizeOf tree
decreasing_by
  · simp_wf
    have := List.sizeOf_lt_of_mem ‹_ ∈ _›
    omega
  · simp_wf
    have := List.sizeOf_lt_of_mem ‹_ ∈ _›
    have : sizeOf m = 1 + sizeOf m.1 + sizeOf m.2 := by cases m; rfl
    omega

/-! ## Numbers and strings -/

/-- White space. -/
def Blanks (t : Text) : Prop := ∀ c ∈ t, isJsonBlank c

/-- One or more digits. -/
def Digits (t : Text) : Prop := t ≠ [] ∧ ∀ c ∈ t, c.isDigit

/-- The whole part of a number: a zero, or digits of which the first is no zero. -/
def WholeText (t : Text) : Prop := t = [ofChar '0'] ∨ Digits t ∧ t.head? ≠ some (ofChar '0')

/-- A fraction that may be missing, with its digits. -/
inductive FractionText : Text → Text → Prop
  | absent : FractionText [] []
  | present {ds : Text} (digits : Digits ds) : FractionText (ofChar '.' :: ds) ds

/-- The letter of an exponent. -/
def ExponentLetter (c : CodePoint) : Prop := c = ofChar 'e' ∨ c = ofChar 'E'

instance (c : CodePoint) : Decidable (ExponentLetter c) := inferInstanceAs (Decidable (_ ∨ _))

/-- An exponent that may be missing, with its value. -/
inductive ExponentText : Text → Option ℤ → Prop
  | absent : ExponentText [] none
  | unsigned {e : CodePoint} {ds : Text} (letter : ExponentLetter e) (digits : Digits ds) :
      ExponentText (e :: ds) (some (Text.digitsValue ds))
  | plus {e : CodePoint} {ds : Text} (letter : ExponentLetter e) (digits : Digits ds) :
      ExponentText (e :: ofChar '+' :: ds) (some (Text.digitsValue ds))
  | minus {e : CodePoint} {ds : Text} (letter : ExponentLetter e) (digits : Digits ds) :
      ExponentText (e :: ofChar '-' :: ds) (some (-Text.digitsValue ds))

/-- The sign of a negative number. -/
def minusSign (negative : Bool) : Text := if negative then [ofChar '-'] else []

/-- A number. -/
inductive NumberText : Text → Numeral → Prop
  | mk {negative : Bool} {whole f fraction x : Text} {exponent : Option ℤ}
      (hwhole : WholeText whole) (hfraction : FractionText f fraction)
      (hexponent : ExponentText x exponent) :
      NumberText (minusSign negative ++ whole ++ (f ++ x)) ⟨negative, whole, fraction, exponent⟩

/-- The one-letter escapes, each with what it stands for. -/
def shortEscapes : List (CodePoint × CodePoint) :=
  [(ofChar '"', ofChar '"'), (ofChar '\\', ofChar '\\'), (ofChar '/', ofChar '/'),
    (ofChar 'b', ofChar '\x08'), (ofChar 'f', ofChar '\x0c'), (ofChar 'n', ofChar '\n'),
    (ofChar 'r', ofChar '\r'), (ofChar 't', ofChar '\t')]

/-- A code point that may stand in a string as it is. -/
def Unescaped (c : CodePoint) : Prop := 0x20 ≤ c.val ∧ c ≠ ofChar '"' ∧ c ≠ ofChar '\\'

/-- The parts of a string between its quotes. -/
inductive PartsText : Text → List StringPart → Prop
  | nil : PartsText [] []
  | plain {c : CodePoint} {t : Text} {parts : List StringPart} (hc : Unescaped c)
      (rest : PartsText t parts) : PartsText (c :: t) (.plain c :: parts)
  | short {e c : CodePoint} {t : Text} {parts : List StringPart} (he : (e, c) ∈ shortEscapes)
      (rest : PartsText t parts) : PartsText (ofChar '\\' :: e :: t) (.plain c :: parts)
  | unit {a b c d : CodePoint} {n : ℕ} {t : Text} {parts : List StringPart}
      (hex : Text.hexValue? [a, b, c, d] = some n) (rest : PartsText t parts) :
      PartsText (ofChar '\\' :: ofChar 'u' :: a :: b :: c :: d :: t)
        (.unit (CodePoint.ofNat n) :: parts)

/-! ## Values -/

mutual

/-- A value. -/
inductive ValueText : Text → Tree → Prop
  | null : ValueText ("null" : String) .null
  | true : ValueText ("true" : String) (.bool true)
  | false : ValueText ("false" : String) (.bool false)
  | number {t : Text} {n : Numeral} (h : NumberText t n) : ValueText t (.number n)
  | string {t : Text} {parts : List StringPart} (h : PartsText t parts) :
      ValueText (ofChar '"' :: (t ++ [ofChar '"'])) (.string parts)
  | emptyArray {w : Text} (hw : Blanks w) :
      ValueText (ofChar '[' :: (w ++ [ofChar ']'])) (.array [])
  | array {t : Text} {items : List Tree} (h : ItemsText t items) :
      ValueText (ofChar '[' :: (t ++ [ofChar ']'])) (.array items)
  | emptyObject {w : Text} (hw : Blanks w) :
      ValueText (ofChar '{' :: (w ++ [ofChar '}'])) (.object [])
  | object {t : Text} {members : List (List StringPart × Tree)} (h : MembersText t members) :
      ValueText (ofChar '{' :: (t ++ [ofChar '}'])) (.object members)

/-- The items of an array, one or more, with white space around each. -/
inductive ItemsText : Text → List Tree → Prop
  | last {w t w' : Text} {tree : Tree} (hw : Blanks w) (h : ValueText t tree) (hw' : Blanks w') :
      ItemsText (w ++ t ++ w') [tree]
  | more {w t w' ts : Text} {tree : Tree} {trees : List Tree} (hw : Blanks w)
      (h : ValueText t tree) (hw' : Blanks w') (rest : ItemsText ts trees) :
      ItemsText (w ++ t ++ w' ++ ofChar ',' :: ts) (tree :: trees)

/-- The members of an object, one or more, with white space around each name and each value. -/
inductive MembersText : Text → List (List StringPart × Tree) → Prop
  | last {t : Text} {member : List StringPart × Tree} (h : MemberText t member) :
      MembersText t [member]
  | more {t ts : Text} {member : List StringPart × Tree}
      {members : List (List StringPart × Tree)} (h : MemberText t member)
      (rest : MembersText ts members) : MembersText (t ++ ofChar ',' :: ts) (member :: members)

/-- A member of an object with the white space around it. -/
inductive MemberText : Text → List StringPart × Tree → Prop
  | mk {w k w₁ w₂ t w' : Text} {parts : List StringPart} {tree : Tree} (hw : Blanks w)
      (hk : PartsText k parts) (hw₁ : Blanks w₁) (hw₂ : Blanks w₂) (h : ValueText t tree)
      (hw' : Blanks w') :
      MemberText (w ++ ofChar '"' :: (k ++ ofChar '"' :: (w₁ ++ ofChar ':' :: (w₂ ++ t ++ w'))))
        (parts, tree)

end

/-- A whole document: a value with white space around it. -/
inductive DocumentText : Text → Tree → Prop
  | mk {w t w' : Text} {tree : Tree} (hw : Blanks w) (h : ValueText t tree) (hw' : Blanks w') :
      DocumentText (w ++ t ++ w') tree

/-! ## Limits -/

mutual

/-- The numbers written in a tree. -/
def Tree.numerals : Tree → List Numeral
  | .number n => [n]
  | .array items => numeralsOfItems items
  | .object members => numeralsOfMembers members
  | _ => []
termination_by structural tree => tree

/-- The numbers written in some items. -/
def numeralsOfItems : List Tree → List Numeral
  | [] => []
  | tree :: rest => tree.numerals ++ numeralsOfItems rest
termination_by structural items => items

/-- The numbers written in some members. -/
def numeralsOfMembers : List (List StringPart × Tree) → List Numeral
  | [] => []
  | (_, tree) :: rest => tree.numerals ++ numeralsOfMembers rest
termination_by structural members => members

end

mutual

/-- How many containers stand inside each other. -/
def Tree.levels : Tree → ℕ
  | .array items => levelsOfTrees items + 1
  | .object members => levelsOfNamedTrees members + 1
  | _ => 0
termination_by structural tree => tree

/-- The most levels of any item. -/
def levelsOfTrees : List Tree → ℕ
  | [] => 0
  | tree :: rest => max tree.levels (levelsOfTrees rest)
termination_by structural items => items

/-- The most levels of any member. -/
def levelsOfNamedTrees : List (List StringPart × Tree) → ℕ
  | [] => 0
  | (_, tree) :: rest => max tree.levels (levelsOfNamedTrees rest)
termination_by structural members => members

end

namespace Numeral

/-- A number without fraction and exponent is an integer. -/
def IsInteger (n : Numeral) : Prop := n.fraction = [] ∧ n.exponent = none

instance (n : Numeral) : Decidable n.IsInteger := inferInstanceAs (Decidable (_ ∧ _))

/-- The power of ten of the last digit. -/
def lastExponent (n : Numeral) : ℤ := n.exponent.getD 0 - n.fraction.length

/-- The exact absolute value of a number. -/
def size (n : Numeral) : ℚ := Text.digitsValue (n.whole ++ n.fraction) * 10 ^ n.lastExponent

/-- An integer has at most so many digits as are read, and any other number is below the limit
from which on numbers are beyond every finite double. -/
def InRange (n : Numeral) : Prop :=
  if n.IsInteger then n.whole.length ≤ maxIntegerDigits else n.size < Magnitude.limit

/-- The integer of a number without fraction and exponent. -/
def integer (n : Numeral) : ℤ :=
  if n.negative then -Text.digitsValue n.whole else Text.digitsValue n.whole

/-- What a number denotes: its integer, or a double of its sign nearest to its exact value. -/
inductive Denotes (n : Numeral) : Value → Prop
  | int (h : n.IsInteger) : Denotes n (.int n.integer)
  | float {m : Magnitude} (h : ¬ n.IsInteger) (near : Magnitude.IsNearest n.size m) :
      Denotes n (.float (.finite n.negative m))

end Numeral

/-! ## Denotation -/

/-- The string of some parts.  The escape of a high surrogate directly before that of a low one
is one code point with it; anything else stands for itself. -/
def joinUnits : List StringPart → Text
  | [] => []
  | .plain c :: rest => c :: joinUnits rest
  | .unit high :: .unit low :: rest =>
    if high.isHighSurrogate ∧ low.isLowSurrogate then .ofSurrogates high low :: joinUnits rest
    else high :: joinUnits (.unit low :: rest)
  | .unit c :: rest => c :: joinUnits rest

/-- The names of members. -/
def namesOf (members : List Member) : List Text := members.map Prod.fst

/-- Members as an object has them, from all that were written: every name once, in the order of
first appearance, with the value written last. -/
structure Merges (written members : List Member) : Prop where
  names : namesOf members = (namesOf written).eraseDups
  last : ∀ m ∈ members, ∃ before after : List Member,
    written = before ++ m :: after ∧ m.1 ∉ namesOf after

mutual

/-- What a tree denotes. -/
inductive Tree.Denotes : Tree → Value → Prop
  | null : Tree.Denotes .null .null
  | bool (b : Bool) : Tree.Denotes (.bool b) (.bool b)
  | number {n : Numeral} {v : Value} (h : n.Denotes v) : Tree.Denotes (.number n) v
  | string (parts : List StringPart) : Tree.Denotes (.string parts) (.string (joinUnits parts))
  | array {items : List Tree} {values : List Value} (h : ItemsDenote items values) :
      Tree.Denotes (.array items) (.array values)
  | object {members : List (List StringPart × Tree)} {written merged : List Member}
      (h : MembersDenote members written) (merges : Merges written merged) :
      Tree.Denotes (.object members) (.object merged)

/-- What items denote, one by one. -/
inductive ItemsDenote : List Tree → List Value → Prop
  | nil : ItemsDenote [] []
  | cons {tree : Tree} {v : Value} {trees : List Tree} {values : List Value}
      (h : tree.Denotes v) (rest : ItemsDenote trees values) :
      ItemsDenote (tree :: trees) (v :: values)

/-- What members denote, one by one. -/
inductive MembersDenote : List (List StringPart × Tree) → List Member → Prop
  | nil : MembersDenote [] []
  | cons {name : List StringPart} {tree : Tree} {v : Value}
      {members : List (List StringPart × Tree)} {written : List Member} (h : tree.Denotes v)
      (rest : MembersDenote members written) :
      MembersDenote ((name, tree) :: members) ((joinUnits name, v) :: written)

end

/-- Every number written in a tree is in range. -/
def Tree.WithinLimits (tree : Tree) : Prop := ∀ n ∈ tree.numerals, n.InRange

end StructuredText.Json
