/-
# Code points and texts

A text is a list of Unicode code points.  Lone surrogates are code points like any
other: a JSON string may hold them, so a text is not a list of `Char`.

* `CodePoint.ofChar` is injective, so a character literal stands for one code point;
* `Text.ofString` writes a literal text.
-/

namespace StructuredText

/-- A Unicode code point, surrogates included. -/
structure CodePoint where
  /-- Its number. -/
  val : Nat
  /-- Unicode ends at 10FFFF. -/
  lt : val < 0x110000
deriving DecidableEq

namespace CodePoint

@[ext] theorem ext {a b : CodePoint} (h : a.val = b.val) : a = b := by
  cases a; cases b; simp_all

/-- The code point of a character. -/
def ofChar (c : Char) : CodePoint where
  val := c.toNat
  lt := by
    rcases c.valid with h | h
    · exact Nat.lt_trans h (by decide)
    · exact h.2

instance : Coe Char CodePoint := ⟨ofChar⟩

instance : LT CodePoint := ⟨fun a b => a.val < b.val⟩

instance (a b : CodePoint) : Decidable (a < b) := inferInstanceAs (Decidable (a.val < b.val))

/-- The code point numbered `n`; past the end of Unicode, the replacement character. -/
def ofNat (n : Nat) : CodePoint := if h : n < 0x110000 then ⟨n, h⟩ else ⟨0xFFFD, by decide⟩

/-- Whether a code point lies between two others, ends included. -/
def between (c : CodePoint) (low high : Nat) : Bool := low ≤ c.val && c.val ≤ high

/-- One half of a surrogate pair. -/
def isSurrogate (c : CodePoint) : Bool := c.between 0xD800 0xDFFF

/-- The first half of a surrogate pair. -/
def isHighSurrogate (c : CodePoint) : Bool := c.between 0xD800 0xDBFF

/-- The second half of a surrogate pair. -/
def isLowSurrogate (c : CodePoint) : Bool := c.between 0xDC00 0xDFFF

/-- The code point above FFFF that a surrogate pair stands for. -/
def ofSurrogates (high low : CodePoint) : CodePoint :=
  ofNat (0x10000 + (high.val - 0xD800) * 0x400 + (low.val - 0xDC00))

/-- An ASCII letter. -/
def isAsciiLetter (c : CodePoint) : Bool := c.between 0x41 0x5A || c.between 0x61 0x7A

/-- The lower-case form of an ASCII letter; anything else stays as it is. -/
def toAsciiLower (c : CodePoint) : CodePoint :=
  if c.between 0x41 0x5A then ofNat (c.val + 0x20) else c

/-- The character of a code point; a lone surrogate has none and gives the replacement
character. -/
def toChar (c : CodePoint) : Char :=
  if h : c.val.isValidChar then ⟨c.val.toUInt32, by
    have : c.val < UInt32.size := Nat.lt_trans c.lt (by decide)
    simpa [UInt32.isValidChar, Nat.mod_eq_of_lt this] using h⟩ else '\uFFFD'

end CodePoint

/-- A text: code points in order. -/
abbrev Text := List CodePoint

namespace Text

/-- The text of characters given one by one. -/
def ofChars (cs : List Char) : Text := cs.map CodePoint.ofChar

/-- A literal text. -/
def ofString (s : String) : Text := ofChars s.toList

instance : Coe String Text := ⟨ofString⟩

/-- The pieces one after another. -/
def concat (pieces : List Text) : Text := pieces.flatten

/-- The pieces one after another, with a separator between each two. -/
def join (separator : Text) (pieces : List Text) : Text := (pieces.intersperse separator).flatten

/-- A text several times over.  An empty text stays empty, however often it is taken. -/
def times (n : Nat) (t : Text) : Text := if t.isEmpty then [] else (List.replicate n t).flatten

/-- A run of spaces. -/
def spaces (n : Nat) : Text := List.replicate n ' '

/-- Whether one text is the beginning of another. -/
abbrev isPrefixOf (start t : Text) : Bool := List.isPrefixOf start t

/-- What follows a given beginning, if the text begins so. -/
def afterStart? : Text → Text → Option Text
  | [], t => some t
  | _ :: _, [] => none
  | p :: ps, c :: t => if c = p then afterStart? ps t else none

/-- Whether the text begins in a given way. -/
def beginsWith (start t : Text) : Bool := (afterStart? start t).isSome

/-- The string of a text without lone surrogates. -/
def toString (t : Text) : String := String.ofList (t.map CodePoint.toChar)

end Text

end StructuredText
