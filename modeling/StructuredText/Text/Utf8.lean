/-
# UTF-8

Reading bytes as a text and writing a text as bytes.  Reading is strict: the shortest form
only, no surrogates, nothing beyond 10FFFF.  Of a fault it is told where it begins, how many
bytes it takes and what is wrong with them.
-/
import StructuredText.Text.Numeral

namespace StructuredText.Utf8

/-- What is wrong with some bytes. -/
inductive Reason
  | invalidStart | invalidContinuation | unexpectedEnd
deriving DecidableEq

/-- The wording of a reason. -/
def Reason.message : Reason → String
  | invalidStart => "invalid start byte"
  | invalidContinuation => "invalid continuation byte"
  | unexpectedEnd => "unexpected end of data"

/-- Bytes that are no UTF-8. -/
structure DecodeError where
  /-- How many bytes come before. -/
  position : Nat
  /-- The first of the bytes. -/
  first : UInt8
  /-- How many bytes are affected. -/
  count : Nat
  reason : Reason
deriving DecidableEq

/-- The wording of a fault. -/
def DecodeError.message (e : DecodeError) : Text :=
  let place : Text :=
    if e.count ≤ 1 then
      Text.concat ["byte 0x", [.ofHexDigit (e.first.toNat / 16), .ofHexDigit (e.first.toNat % 16)],
        " in position ", Text.ofNat e.position]
    else
      Text.concat ["bytes in position ", Text.ofNat e.position, "-",
        Text.ofNat (e.position + e.count - 1)]
  Text.concat ["'utf-8' codec can't decode ", place, ": ", e.reason.message]

/-- What the first byte of a code point tells: its part of the number, how many bytes follow,
and the range of the first of them. -/
structure Lead where
  bits : Nat
  tails : Nat
  low : Nat
  high : Nat

/-- What a first byte tells, if it can be one. -/
def lead? (b : Nat) : Option Lead :=
  if b < 0x80 then some ⟨b, 0, 0, 0⟩
  else if b < 0xC2 then none
  else if b < 0xE0 then some ⟨b - 0xC0, 1, 0x80, 0xBF⟩
  else if b = 0xE0 then some ⟨0, 2, 0xA0, 0xBF⟩
  else if b = 0xED then some ⟨0xD, 2, 0x80, 0x9F⟩
  else if b < 0xF0 then some ⟨b - 0xE0, 2, 0x80, 0xBF⟩
  else if b = 0xF0 then some ⟨0, 3, 0x90, 0xBF⟩
  else if b < 0xF4 then some ⟨b - 0xF0, 3, 0x80, 0xBF⟩
  else if b = 0xF4 then some ⟨4, 3, 0x80, 0x8F⟩
  else none

/-- Reads the bytes that follow a first one.  A failure tells how many of them were right. -/
def readTails (tails low high bits right : Nat) (bytes : List UInt8) :
    Except (Nat × Reason) (Nat × { rest : List UInt8 // rest.length ≤ bytes.length }) :=
  match tails, bytes with
  | 0, bytes => .ok (bits, ⟨bytes, Nat.le_refl _⟩)
  | _ + 1, [] => .error (right, .unexpectedEnd)
  | tails + 1, b :: rest =>
    if low ≤ b.toNat ∧ b.toNat ≤ high then
      match readTails tails 0x80 0xBF (bits * 64 + b.toNat % 64) (right + 1) rest with
      | .error e => .error e
      | .ok (n, ⟨r, h⟩) => .ok (n, ⟨r, Nat.le_succ_of_le h⟩)
    else .error (right, .invalidContinuation)

/-- Reads bytes as a text, after some that were read already. -/
def decodeFrom (position : Nat) (read : Text) (bytes : List UInt8) : Except DecodeError Text :=
  match bytes with
  | [] => .ok read.reverse
  | b :: rest =>
    match lead? b.toNat with
    | none => .error ⟨position, b, 1, .invalidStart⟩
    | some lead =>
      match readTails lead.tails lead.low lead.high lead.bits 1 rest with
      | .error (count, reason) => .error ⟨position, b, count, reason⟩
      | .ok (n, ⟨r, _⟩) => decodeFrom (position + lead.tails + 1) (.ofNat n :: read) r
termination_by bytes.length

/-- Reads bytes as a text. -/
def decode (bytes : List UInt8) : Except DecodeError Text := decodeFrom 0 [] bytes

/-- The bytes of a code point. -/
def encodeCodePoint (c : CodePoint) : List UInt8 :=
  let n := c.val
  let tail (shift : Nat) : UInt8 := UInt8.ofNat (0x80 + n / shift % 64)
  if n < 0x80 then [UInt8.ofNat n]
  else if n < 0x800 then [UInt8.ofNat (0xC0 + n / 64), tail 1]
  else if n < 0x10000 then [UInt8.ofNat (0xE0 + n / 4096), tail 64, tail 1]
  else [UInt8.ofNat (0xF0 + n / 262144), tail 4096, tail 64, tail 1]

/-- The number of bytes of a text. -/
def byteCount (t : Text) : Nat := (t.flatMap encodeCodePoint).length

/-- Lone surrogates that have no bytes. -/
structure EncodeError where
  /-- How many code points come before. -/
  position : Nat
  /-- The first of the surrogates. -/
  first : CodePoint
  /-- How many there are one after the other. -/
  count : Nat
deriving DecidableEq

/-- The wording of a fault. -/
def EncodeError.message (e : EncodeError) : Text :=
  let place : Text :=
    if e.count ≤ 1 then
      Text.concat ["character '\\u", Text.ofHex4 e.first.val, "' in position ",
        Text.ofNat e.position]
    else
      Text.concat ["characters in position ", Text.ofNat e.position, "-",
        Text.ofNat (e.position + e.count - 1)]
  Text.concat ["'utf-8' codec can't encode ", place, ": surrogates not allowed"]

/-- The bytes of a text.  A text with a lone surrogate has none. -/
def encode (t : Text) : Except EncodeError (List UInt8) :=
  let before := t.takeWhile fun c => !c.isSurrogate
  match t.drop before.length with
  | [] => .ok (t.flatMap encodeCodePoint)
  | c :: rest => .error ⟨before.length, c, 1 + (rest.takeWhile CodePoint.isSurrogate).length⟩

end StructuredText.Utf8
