/-
# Reading JSON

A strict reader of JSON documents.  Each reading step returns what it read together with
what is left of the text, and the proof that something was read; so every loop ends, and the
place of a fault is told by what is left there.

* `readString` reads a string after its opening quote;
* `readNumber` takes the longest number that the text begins with;
* `readValue` reads a value with at most a given number of containers inside each other;
* `parse` reads a whole document.
-/
import StructuredText.Json.Value
import StructuredText.Json.Fault

namespace StructuredText.Json

/-- A proper remainder of a text. -/
abbrev Rest (t : Text) := { r : Text // r.length < t.length }

/-- The result of reading something from the front of a text. -/
abbrev Reading (α : Type) (t : Text) := Except Fault (α × Rest t)

/-! ## Blanks -/

/-- The four blanks of JSON. -/
def isJsonBlank (c : CodePoint) : Bool :=
  c == ' ' || c == '\t' || c == '\n' || c == '\r'

/-- The text from its first code point that is no blank of JSON. -/
def skipBlanks (t : Text) : Text := t.dropWhile isJsonBlank

theorem length_skipBlanks_le (t : Text) : (skipBlanks t).length ≤ t.length :=
  (List.dropWhile_suffix isJsonBlank).length_le

/-! ## Strings -/

/-- Four hexadecimal digits with something after them, as one code point. -/
def hex4? : (t : Text) → Option (CodePoint × Rest t)
  | a :: b :: c :: d :: next :: r =>
    (Text.hexValue? [a, b, c, d]).map fun n => (.ofNat n, ⟨next :: r, by simp⟩)
  | _ => none

/-- The second half of a surrogate pair, if the text begins with its escape. -/
def lowSurrogate? : (t : Text) → Option (CodePoint × Rest t)
  | c :: u :: r =>
    if c = '\\' ∧ u = 'u' then
      match hex4? r with
      | some (low, ⟨r', h⟩) =>
        if low.isLowSurrogate then some (low, ⟨r', by simp; omega⟩) else none
      | none => none
    else none
  | _ => none

/-- The code point of a numbered escape, given what stands after its letter.  An escaped
surrogate pair is one code point; any other surrogate stands for itself. -/
def unicodeEscape? (t : Text) : Option (CodePoint × Rest t) :=
  match hex4? t with
  | none => none
  | some (c, ⟨r, h⟩) =>
    if c.isHighSurrogate then
      match lowSurrogate? r with
      | some (low, ⟨r', h'⟩) => some (.ofSurrogates c low, ⟨r', Nat.lt_trans h' h⟩)
      | none => some (c, ⟨r, h⟩)
    else some (c, ⟨r, h⟩)

/-- What a one-letter escape stands for. -/
def shortEscape? (c : CodePoint) : Option CodePoint :=
  if c = '"' then some '"'
  else if c = '\\' then some '\\'
  else if c = '/' then some '/'
  else if c = 'b' then some '\x08'
  else if c = 'f' then some '\x0c'
  else if c = 'n' then some '\n'
  else if c = 'r' then some '\r'
  else if c = 't' then some '\t'
  else none

/-- Reads the rest of a string whose first quote opens the text `opening`.  What was read so
far is kept in reverse. -/
def readString (opening : Text) (t : Text) (before : t.length < opening.length)
    (read : Text) : Reading Text opening :=
  match t with
  | [] => .error (.located .unterminatedString opening)
  | c :: r =>
    if c = '"' then .ok (read.reverse, ⟨r, by simp only [List.length_cons] at before; omega⟩)
    else if c = '\\' then
      match r with
      | [] => .error (.located .unterminatedString opening)
      | e :: r' =>
        if e = 'u' then
          match unicodeEscape? r' with
          | some (d, ⟨r'', h⟩) =>
            readString opening r'' (by simp only [List.length_cons] at before; omega) (d :: read)
          | none => .error (.located .invalidUnicodeEscape (e :: r'))
        else
          match shortEscape? e with
          | some d =>
            readString opening r' (by simp only [List.length_cons] at before; omega) (d :: read)
          | none => .error (.located .invalidEscape (c :: e :: r'))
    else if c.val < 0x20 then .error (.located .controlCharacter (c :: r))
    else readString opening r (by simp only [List.length_cons] at before; omega) (c :: read)
termination_by t.length
decreasing_by all_goals (subst_vars; simp only [List.length_cons]; omega)

/-! ## Numbers -/

/-- A fraction at the front of a text: a point and at least one digit. -/
def splitFraction : Text → Text × Text
  | point :: d :: r =>
    if point = '.' ∧ d.isDigit then
      (point :: d :: r.takeWhile CodePoint.isDigit, r.dropWhile CodePoint.isDigit)
    else ([], point :: d :: r)
  | t => ([], t)

/-- A sign at the front of a text. -/
def splitSign : Text → Text × Text
  | c :: r => if c = '+' ∨ c = '-' then ([c], r) else ([], c :: r)
  | [] => ([], [])

/-- An exponent at the front of a text: the letter, perhaps a sign, and at least one digit. -/
def splitExponent : Text → Text × Text
  | e :: r =>
    let (sign, r') := splitSign r
    let digits := r'.takeWhile CodePoint.isDigit
    if (e = 'e' ∨ e = 'E') ∧ digits ≠ [] then
      (e :: sign ++ digits, r'.dropWhile CodePoint.isDigit)
    else ([], e :: r)
  | [] => ([], [])

/-- The digits of an integer at the front of a text: a single zero, or digits that do not
begin with zero. -/
def splitInteger : Text → Text × Text
  | d :: r =>
    if d = '0' then ([d], r)
    else if d.isDigit then
      (d :: r.takeWhile CodePoint.isDigit, r.dropWhile CodePoint.isDigit)
    else ([], d :: r)
  | [] => ([], [])

/-- A minus sign at the front of a text. -/
def splitMinus : Text → Text × Text
  | c :: r => if c = '-' then ([c], r) else ([], c :: r)
  | [] => ([], [])

theorem length_splitFraction_le (t : Text) : (splitFraction t).2.length ≤ t.length := by
  unfold splitFraction
  split
  · split
    · have := (List.dropWhile_suffix (l := ‹Text›) CodePoint.isDigit).length_le
      simp; omega
    · simp
  · simp

theorem length_splitSign_le (t : Text) : (splitSign t).2.length ≤ t.length := by
  unfold splitSign
  split
  · split <;> simp
  · simp

theorem length_splitExponent_le (t : Text) : (splitExponent t).2.length ≤ t.length := by
  unfold splitExponent
  split
  · rename_i e r
    have h₁ := length_splitSign_le r
    have h₂ := (List.dropWhile_suffix (l := (splitSign r).2) CodePoint.isDigit).length_le
    simp only
    split
    · simp; omega
    · simp
  · simp

theorem length_splitMinus_le (t : Text) : (splitMinus t).2.length ≤ t.length := by
  unfold splitMinus
  split
  · split <;> simp
  · simp

theorem length_splitInteger_lt (t : Text) (h : (splitInteger t).1 ≠ []) :
    (splitInteger t).2.length < t.length := by
  unfold splitInteger at *
  split at h
  · split
    · simp
    · split
      · have := (List.dropWhile_suffix (l := ‹Text›) CodePoint.isDigit).length_le
        simp; omega
      · simp_all
  · simp at h

/-- The value of a number from its parts.  Without fraction and exponent it is an integer,
and its digits are counted; otherwise it is a double, which has to be finite. -/
def numberValue (minus digits tail : Text) : Except Fault Value :=
  if tail = [] then
    if maxIntegerDigits < digits.length then .error (.tooManyDigits digits.length)
    else
      let n := Text.digitsValue digits
      .ok (.int (if minus = [] then n else -n))
  else
    let literal := minus ++ digits ++ tail
    let x := Double.ofLiteral literal
    if x.isFinite then .ok (.float x) else .error (.outOfRange literal)

/-- The longest number that a text begins with, cut into its parts.  Without digits there
is no number. -/
structure NumberParts where
  minus : Text
  digits : Text
  /-- Fraction and exponent. -/
  tail : Text
  /-- What follows the number. -/
  rest : Text

/-- Cuts off the number at the front of a text. -/
def splitNumber (t : Text) : NumberParts :=
  let minus := splitMinus t
  let digits := splitInteger minus.2
  let fraction := splitFraction digits.2
  let exponent := splitExponent fraction.2
  ⟨minus.1, digits.1, fraction.1 ++ exponent.1, exponent.2⟩

theorem length_splitNumber_lt (t : Text) (h : (splitNumber t).digits ≠ []) :
    (splitNumber t).rest.length < t.length := by
  have h₁ := length_splitMinus_le t
  have h₂ := length_splitInteger_lt (splitMinus t).2 h
  have h₃ := length_splitFraction_le (splitInteger (splitMinus t).2).2
  have h₄ := length_splitExponent_le (splitFraction (splitInteger (splitMinus t).2).2).2
  simp only [splitNumber]
  omega

/-- Reads the longest number that the text begins with. -/
def readNumber (t : Text) : Reading Value t :=
  let parts := splitNumber t
  if h : parts.digits = [] then .error (.located .valueExpected t)
  else
    match numberValue parts.minus parts.digits parts.tail with
    | .error fault => .error fault
    | .ok v => .ok (v, ⟨parts.rest, length_splitNumber_lt t h⟩)

/-! ## Values -/

/-- What is left after a word that the text begins with. -/
def afterWord? (word t : Text) (h : word ≠ []) : Option (Rest t) :=
  match word, t with
  | [], _ => (h rfl).elim
  | _ :: _, [] => none
  | w :: ws, c :: r =>
    if c = w then
      if hws : ws = [] then some ⟨r, by simp⟩
      else (afterWord? ws r hws).map fun ⟨r', h'⟩ => ⟨r', by simp; omega⟩
    else none

/-- Reads a value that is neither string nor container. -/
def readScalar (t : Text) : Reading Value t :=
  if let some r := afterWord? ['n', 'u', 'l', 'l'] t nofun then .ok (.null, r)
  else if let some r := afterWord? ['t', 'r', 'u', 'e'] t nofun then .ok (.bool true, r)
  else if let some r := afterWord? ['f', 'a', 'l', 's', 'e'] t nofun then .ok (.bool false, r)
  else if Text.beginsWith "NaN" t then .error (.constant "NaN")
  else if Text.beginsWith "Infinity" t then .error (.constant "Infinity")
  else if Text.beginsWith "-Infinity" t then .error (.constant "-Infinity")
  else readNumber t

/-- Reads the items of an array up to its closing bracket, the opening one being the first of
the text `opening`. -/
def readItems (item : (t : Text) → Reading Value t) (opening t : Text)
    (before : t.length < opening.length) (read : List Value) : Reading (List Value) opening :=
  match item t with
  | .error fault => .error fault
  | .ok (v, ⟨r, h⟩) =>
    match hr : skipBlanks r with
    | [] => .error (.located .commaExpected [])
    | c :: r' =>
      have shorter : r'.length < r.length := by
        have := length_skipBlanks_le r
        rw [hr, List.length_cons] at this
        omega
      if c = ']' then .ok ((v :: read).reverse, ⟨r', by omega⟩)
      else if c = ',' then
        have := length_skipBlanks_le r'
        readItems item opening (skipBlanks r') (by omega) (v :: read)
      else .error (.located .commaExpected (c :: r'))
termination_by t.length

/-- Reads a member's key and the colon after it. -/
def readKey (t : Text) : Reading Text t :=
  match t with
  | [] => .error (.located .nameExpected [])
  | c :: r =>
    if c = '"' then
      match readString (c :: r) r (by simp) [] with
      | .error fault => .error fault
      | .ok (key, ⟨r', h⟩) =>
        match hr : skipBlanks r' with
        | [] => .error (.located .colonExpected [])
        | d :: r'' =>
          if d = ':' then .ok (key, ⟨r'', by
            have := length_skipBlanks_le r'
            rw [hr] at this
            simp at this h ⊢
            omega⟩)
          else .error (.located .colonExpected (d :: r''))
    else .error (.located .nameExpected (c :: r))

/-- Reads the members of an object up to its closing brace, the opening one being the first
of the text `opening`. -/
def readMembers (item : (t : Text) → Reading Value t) (opening t : Text)
    (before : t.length < opening.length) (read : List Member) : Reading (List Member) opening :=
  match readKey t with
  | .error fault => .error fault
  | .ok (key, ⟨r, h⟩) =>
    match item (skipBlanks r) with
    | .error fault => .error fault
    | .ok (v, ⟨r', h'⟩) =>
      match hr : skipBlanks r' with
      | [] => .error (.located .commaExpected [])
      | c :: r'' =>
        have shorter : r''.length < r.length := by
          have h₁ := length_skipBlanks_le r
          have h₂ := length_skipBlanks_le r'
          rw [hr] at h₂
          simp at h₂
          omega
        if c = '}' then .ok (((key, v) :: read).reverse, ⟨r'', by omega⟩)
        else if c = ',' then
          have := length_skipBlanks_le r''
          readMembers item opening (skipBlanks r'') (by omega) ((key, v) :: read)
        else .error (.located .commaExpected (c :: r''))
termination_by t.length

/-- Reads an array whose opening bracket is the first of the text. -/
def readArray (item : (t : Text) → Reading Value t) (bracket : CodePoint) (r : Text) :
    Reading Value (bracket :: r) :=
  have := length_skipBlanks_le r
  match hr : skipBlanks r with
  | [] => .error (.located .valueExpected [])
  | c :: r' =>
    if c = ']' then .ok (.array [], ⟨r', by rw [hr] at this; simp at this ⊢; omega⟩)
    else
      (readItems item (bracket :: r) (c :: r') (by rw [hr] at this; simp at this ⊢; omega)
        []).map fun (items, rest) => (.array items, rest)

/-- Reads an object whose opening brace is the first of the text. -/
def readObject (item : (t : Text) → Reading Value t) (brace : CodePoint) (r : Text) :
    Reading Value (brace :: r) :=
  have := length_skipBlanks_le r
  match hr : skipBlanks r with
  | [] => .error (.located .nameExpected [])
  | c :: r' =>
    if c = '}' then .ok (.object [], ⟨r', by rw [hr] at this; simp at this ⊢; omega⟩)
    else
      (readMembers item (brace :: r) (c :: r') (by rw [hr] at this; simp at this ⊢; omega)
        []).map fun (members, rest) => (.object (membersOf members), rest)

/-- Reads a value with at most `levels` containers inside each other. -/
def readValue (levels : Nat) (t : Text) : Reading Value t :=
  match t with
  | [] => .error (.located .valueExpected [])
  | c :: r =>
    if c = '"' then
      (readString (c :: r) r (by simp) []).map fun (s, rest) => (.string s, rest)
    else if c = '[' ∨ c = '{' then
      match levels with
      | 0 => .error (.tooDeep c)
      | levels + 1 =>
        if c = '[' then readArray (readValue levels) c r else readObject (readValue levels) c r
    else readScalar (c :: r)

/-! ## Documents -/

/-- The byte order mark, which must not begin a document. -/
def byteOrderMark : CodePoint := ⟨0xFEFF, by decide⟩

/-- Reads a whole document with at most `levels` containers inside each other. -/
def parseWithin (levels : Nat) (text : Text) : Except Fault Value :=
  if text.head? = some byteOrderMark then .error (.located .byteOrderMark text)
  else
    match readValue levels (skipBlanks text) with
    | .error fault => .error fault
    | .ok (v, ⟨r, _⟩) =>
      match skipBlanks r with
      | [] => .ok v
      | c :: r' => .error (.located .extraData (c :: r'))

/-- How many containers inside each other are read. -/
def maxReadLevels : Nat := 1000

/-- Reads a whole document. -/
def parse (text : Text) : Except Fault Value := parseWithin maxReadLevels text

end StructuredText.Json
