import SequenceCalculator.Text.Quoted

namespace SequenceCalculator
namespace Text

/-!
Texts as bytes.

Every character is written as one to four bytes.  The first byte tells how many
follow and which values the second may have, so that every character has only
one written form and surrogates have none.  Reading stops at the first defect
and tells where it lies.
-/

/-- What is wrong with bytes that are no text. -/
inductive Defect where
  /-- A byte cannot start a character. -/
  | start
  /-- A byte cannot continue the character that was started. -/
  | continuation
  /-- The bytes end within a character. -/
  | unfinished
deriving DecidableEq

/-- A place where bytes are no text. -/
structure Undecodable where
  defect : Defect
  /-- The first byte of the defective character. -/
  byte : Nat
  /-- How many bytes lie in front of it. -/
  position : Nat
  /-- How many bytes belong to the defective character. -/
  length : Nat
deriving DecidableEq

namespace Undecodable

/-- What a defect is called. -/
def reason (place : Undecodable) : String :=
  match place.defect with
  | .start => "invalid start byte"
  | .continuation => "invalid continuation byte"
  | .unfinished => "unexpected end of data"

/-- A report of a place where bytes are no text.  A single byte is shown, and of
several the positions. -/
def message (place : Undecodable) : Text :=
  "'utf-8' codec can't decode byte".toList ++
    (if place.length = 1 then
      " 0x".toList ++ hexDigits place.byte 2 ++ s!" in position {place.position}: ".toList
     else
      let last := place.position + place.length - 1
      s!"s in position {place.position}-{last}: ".toList) ++
    place.reason.toList

end Undecodable

/-- What the first byte of a character tells. -/
structure Lead where
  /-- How many bytes follow. -/
  count : Nat
  /-- The bits of the code point that the first byte holds. -/
  bits : Nat
  /-- The least second byte. -/
  low : Nat
  /-- The greatest second byte. -/
  high : Nat
deriving DecidableEq

/-- What a byte tells as the first of a character. -/
def lead? (byte : Nat) : Option Lead :=
  if byte < 0x80 then some ⟨0, byte, 0x80, 0xBF⟩
  else if byte < 0xC2 then none
  else if byte < 0xE0 then some ⟨1, byte - 0xC0, 0x80, 0xBF⟩
  else if byte < 0xF0 then
    some ⟨2, byte - 0xE0, if byte = 0xE0 then 0xA0 else 0x80,
      if byte = 0xED then 0x9F else 0xBF⟩
  else if byte < 0xF5 then
    some ⟨3, byte - 0xF0, if byte = 0xF0 then 0x90 else 0x80,
      if byte = 0xF4 then 0x8F else 0xBF⟩
  else none

/-- A character that has been started and is still to be finished. -/
structure Started where
  byte : Nat
  position : Nat
  /-- How many bytes have been read. -/
  read : Nat
  /-- How many bytes are missing. -/
  missing : Nat
  /-- The code point as far as it is known. -/
  bits : Nat
  low : Nat
  high : Nat
deriving DecidableEq

/-- The text of bytes from a position on, after a character that may have been
started in front of it. -/
def decodeFrom (position : Nat) : Option Started -> List Nat -> Except Undecodable Text
  | none, [] => .ok []
  | some started, [] =>
      .error ⟨.unfinished, started.byte, started.position, started.read⟩
  | none, byte :: bytes =>
      match lead? byte with
      | none => .error ⟨.start, byte, position, 1⟩
      | some lead =>
          if lead.count = 0 then
            (decodeFrom (position + 1) none bytes).map (Char.ofNat byte :: ·)
          else
            decodeFrom (position + 1)
              (some ⟨byte, position, 1, lead.count, lead.bits, lead.low, lead.high⟩) bytes
  | some started, byte :: bytes =>
      if started.low ≤ byte && byte ≤ started.high then
        let bits := 64 * started.bits + (byte - 0x80)
        if started.missing ≤ 1 then
          (decodeFrom (position + 1) none bytes).map (Char.ofNat bits :: ·)
        else
          decodeFrom (position + 1)
            (some { started with
              read := started.read + 1
              missing := started.missing - 1
              bits := bits
              low := 0x80
              high := 0xBF }) bytes
      else .error ⟨.continuation, started.byte, started.position, started.read⟩

/-- The text that bytes stand for. -/
def decode (bytes : List Nat) : Except Undecodable Text :=
  decodeFrom 0 none bytes

end Text
end SequenceCalculator
