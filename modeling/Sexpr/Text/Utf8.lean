import Sexpr.Text.Character

/-!
# UTF-8

Strict decoding of bytes into characters. A sequence is refused at its first byte if no character
starts with that byte, at the byte that cannot go on from those before it, or at the end of the
data if more bytes were needed; the report names the bytes of the sequence that were accepted.
-/

namespace Sexpr.Text.Utf8

/-- Why bytes are not the encoding of a text. -/
inductive Cause where
  | invalidStart
  | invalidContinuation
  | endOfData
  deriving DecidableEq, Repr

/-- A refused sequence: the offset of its first byte, that byte, and how many bytes it has. -/
structure Malformed where
  start : Nat
  byte : UInt8
  length : Nat
  cause : Cause
  deriving DecidableEq, Repr

/-- The wording of a cause. -/
def Cause.message : Cause → String
  | .invalidStart => "invalid start byte"
  | .invalidContinuation => "invalid continuation byte"
  | .endOfData => "unexpected end of data"

/-- The message names a single byte by its value and several bytes by their offsets. -/
def Malformed.message (fault : Malformed) : String :=
  let place :=
    if fault.length = 1 then
      "byte 0x" ++ String.ofList (hexDigits 2 fault.byte.toNat) ++ " in position "
        ++ toString fault.start
    else
      "bytes in position " ++ toString fault.start ++ "-"
        ++ toString (fault.start + fault.length - 1)
  "'utf-8' codec can't decode " ++ place ++ ": " ++ fault.cause.message

/-- Whether a byte lies in a closed range. -/
def within (low high byte : UInt8) : Bool :=
  low ≤ byte && byte ≤ high

/-- What a first byte announces: how many bytes follow, the payload bits that it holds itself, and
the range of the byte after it. That range keeps out encodings that are longer than needed,
surrogates, and code points past the last. -/
structure Lead where
  following : Nat
  payload : Nat
  low : UInt8 := 0x80
  high : UInt8 := 0xbf

/-- What a byte announces when it stands first in a sequence of several bytes. -/
def lead? (byte : UInt8) : Option Lead :=
  if within 0xc2 0xdf byte then some { following := 1, payload := byte.toNat - 0xc0 }
  else if byte = 0xe0 then some { following := 2, payload := 0, low := 0xa0 }
  else if byte = 0xed then some { following := 2, payload := 0xd, high := 0x9f }
  else if within 0xe1 0xef byte then some { following := 2, payload := byte.toNat - 0xe0 }
  else if byte = 0xf0 then some { following := 3, payload := 0, low := 0x90 }
  else if byte = 0xf4 then some { following := 3, payload := 4, high := 0x8f }
  else if within 0xf1 0xf3 byte then some { following := 3, payload := byte.toNat - 0xf0 }
  else none

/-- A sequence of several bytes that is still open. -/
structure Open where
  start : Nat
  byte : UInt8
  accepted : Nat
  expected : Nat
  value : Nat
  low : UInt8
  high : UInt8

/-- The report on an open sequence that cannot be completed. -/
def Open.refuse (sequence : Open) (cause : Cause) : Malformed :=
  ⟨sequence.start, sequence.byte, sequence.accepted, cause⟩

/-- Decodes the bytes from an offset on, given the reversed characters before it and the sequence
that is open there. -/
def decodeFrom (offset : Nat) (done : List Char) :
    Option Open → List UInt8 → Except Malformed (List Char)
  | none, [] => .ok done.reverse
  | some sequence, [] => .error (sequence.refuse .endOfData)
  | none, byte :: rest =>
    if byte < 0x80 then decodeFrom (offset + 1) (Char.ofNat byte.toNat :: done) none rest
    else
      match lead? byte with
      | none => .error ⟨offset, byte, 1, .invalidStart⟩
      | some lead =>
        decodeFrom (offset + 1) done
          (some ⟨offset, byte, 1, lead.following, lead.payload, lead.low, lead.high⟩) rest
  | some sequence, byte :: rest =>
    if within sequence.low sequence.high byte then
      let value := sequence.value * 64 + (byte.toNat - 0x80)
      if sequence.accepted = sequence.expected then
        decodeFrom (offset + 1) (Char.ofNat value :: done) none rest
      else
        decodeFrom (offset + 1) done
          (some { sequence with accepted := sequence.accepted + 1, value, low := 0x80, high := 0xbf })
          rest
    else .error (sequence.refuse .invalidContinuation)

/-- The characters that the bytes encode, or the first sequence that encodes none. -/
def decode (bytes : List UInt8) : Except Malformed (List Char) :=
  decodeFrom 0 [] none bytes

/-- The bytes that encode a text. -/
def encode (text : List Char) : List UInt8 :=
  text.flatMap String.utf8EncodeChar

end Sexpr.Text.Utf8
