/-!
# UTF-8 text in bytes

Inputs arrive as bytes and are read as text field by field.  This module reads
a run of bytes as text and, where that fails, measures how much of it is text.

Main definitions:

- `Utf8.decode` is the text of a run of bytes, if it has one.
- `Utf8.validLength` is the number of bytes of the longest start of a run that
  is made of whole characters.
- `Utf8.decodeLossy` replaces what is no text by the replacement character.
- `Utf8.Fault` is where a run of bytes stops being text; `Utf8.read` finds it.

Main results:

- Theorem `Utf8.decode_encode`: the bytes of a text have it as their text.
-/

namespace IndexBench
namespace Utf8

/-- The bytes of a text. -/
def encode (text : String) : List UInt8 :=
  text.toByteArray.data.toList

/-- The text of a run of bytes, if every byte belongs to a character. -/
def decode (bytes : List UInt8) : Option String :=
  String.fromUTF8? ⟨bytes.toArray⟩

/-- The empty text has no bytes. -/
@[simp]
theorem encode_empty : encode "" = [] :=
  rfl

/-- The bytes of a text are those of its parts. -/
@[simp]
theorem encode_append (a b : String) : encode (a ++ b) = encode a ++ encode b := by
  simp [encode]

/-- The bytes of a text have it as their text. -/
@[simp]
theorem decode_encode (text : String) : decode (encode text) = some text := by
  simp [decode, encode, String.fromUTF8?, text.isValidUTF8]
  rfl

/-- A byte that continues a character. -/
def isTail (b : UInt8) : Bool :=
  0x80 ≤ b && b ≤ 0xBF

/-- The bounds that the second byte of a character keeps, by its first byte:
they exclude overlong forms, surrogates and values above the last code point. -/
def secondBounds (first : UInt8) : UInt8 × UInt8 :=
  if first = 0xE0 then (0xA0, 0xBF)
  else if first = 0xED then (0x80, 0x9F)
  else if first = 0xF0 then (0x90, 0xBF)
  else if first = 0xF4 then (0x80, 0x8F)
  else (0x80, 0xBF)

/-- Number of bytes that follow the first byte of a character. -/
def tailLength? (first : UInt8) : Option Nat :=
  if first ≤ 0x7F then some 0
  else if 0xC2 ≤ first && first ≤ 0xDF then some 1
  else if 0xE0 ≤ first && first ≤ 0xEF then some 2
  else if 0xF0 ≤ first && first ≤ 0xF4 then some 3
  else none

/-- Length of the character that a run of bytes starts with, if it starts with
a whole one. -/
def firstLength? : List UInt8 → Option Nat
  | [] => none
  | first :: rest =>
      match tailLength? first, rest with
      | some 0, _ => some 1
      | some (n + 1), second :: others =>
          let (low, high) := secondBounds first
          if low ≤ second && second ≤ high && others.length ≥ n &&
              (others.take n).all isTail then some (n + 2)
          else none
      | _, _ => none

/-- Bytes of the longest start of a run that is made of whole characters; `fuel`
bounds the number of characters. -/
def validLengthWithin : Nat → List UInt8 → Nat
  | 0, _ => 0
  | fuel + 1, bytes =>
      match firstLength? bytes with
      | none => 0
      | some n => n + validLengthWithin fuel (bytes.drop n)

/-- Bytes of the longest start of a run that is made of whole characters. -/
def validLength (bytes : List UInt8) : Nat :=
  validLengthWithin bytes.length bytes

/-! ## Bytes that are no text -/

/-- Length of the broken character that a run of bytes starts with: as many
bytes as a whole character can start with, and at least one. -/
def brokenLength : List UInt8 → Nat
  | [] => 0
  | first :: rest =>
      match tailLength? first, rest with
      | some (n + 1), second :: others =>
          let (low, high) := secondBounds first
          if low ≤ second && second ≤ high then 2 + ((others.take n).takeWhile isTail).length
          else 1
      | _, _ => 1

/-- Whether the bytes of a broken character are all there is, and more of them
could have made it whole. -/
def isCutOff (bytes : List UInt8) : Bool :=
  match bytes with
  | [] => false
  | first :: _ => (tailLength? first).any (0 < ·) && brokenLength bytes == bytes.length

/-- The text of a run of bytes in which each broken character is read as the
replacement character; `fuel` bounds the number of characters. -/
def decodeLossyWithin : Nat → List UInt8 → String
  | 0, _ => ""
  | _, [] => ""
  | fuel + 1, bytes =>
      match firstLength? bytes with
      | none => "\ufffd" ++ decodeLossyWithin fuel (bytes.drop (brokenLength bytes))
      | some n => (decode (bytes.take n)).getD "" ++ decodeLossyWithin fuel (bytes.drop n)

/-- The text of a run of bytes, with a replacement character for each broken
character. -/
def decodeLossy (bytes : List UInt8) : String :=
  match decode bytes with
  | some text => text
  | none => decodeLossyWithin bytes.length bytes

/-- Text is read as it is. -/
@[simp]
theorem decodeLossy_encode (text : String) : decodeLossy (encode text) = text := by
  simp [decodeLossy]

/-- Why a run of bytes is no text. -/
inductive Fault where
  /-- From `index` on, `length` bytes belong to no character. -/
  | invalid (index length : Nat)
  /-- The character at `index` is cut off. -/
  | incomplete (index : Nat)
  deriving DecidableEq, Repr

/-- The text of a run of bytes, or why it has none. -/
def read (bytes : List UInt8) : Except Fault String :=
  match decode bytes with
  | some text => .ok text
  | none =>
      let index := validLength bytes
      let rest := bytes.drop index
      if isCutOff rest then .error (.incomplete index)
      else .error (.invalid index (brokenLength rest))

/-- The bytes of a text are read as it. -/
@[simp]
theorem read_encode (text : String) : read (encode text) = .ok text := by
  simp [read]

end Utf8
end IndexBench
