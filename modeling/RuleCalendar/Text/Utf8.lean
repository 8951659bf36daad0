import RuleCalendar.Text.Layout
import RuleCalendar.Text.Quoted

/-!
# UTF-8

Bytes are read as characters by RFC 3629: overlong forms, surrogates and code points beyond U+10FFFF
are refused. A refusal names the bytes at fault: a byte that begins no character, or the beginning
of a character that the next byte does not continue or after which the bytes end.
-/

namespace RuleCalendar

/-- What is wrong with bytes that are no UTF-8. -/
inductive Utf8Fault where
  /-- The byte begins no character. -/
  | invalidStart
  /-- The next byte does not continue the character. -/
  | invalidContinuation
  /-- The bytes end within the character. -/
  | unexpectedEnd
  deriving DecidableEq, Repr

/-- Bytes that are no UTF-8. -/
structure Utf8Error where
  /-- The place of the first byte at fault. -/
  position : Nat
  /-- How many bytes are at fault. -/
  size : Nat
  /-- The first byte at fault. -/
  byte : UInt8
  /-- What is wrong. -/
  fault : Utf8Fault
  deriving DecidableEq, Repr

namespace Utf8Fault

/-- The reason in a message. -/
def reason : Utf8Fault → String
  | invalidStart => "invalid start byte"
  | invalidContinuation => "invalid continuation byte"
  | unexpectedEnd => "unexpected end of data"

end Utf8Fault

/-- The text of an encoding error. -/
def Utf8Error.message (e : Utf8Error) : String :=
  let place :=
    if e.size = 1 then
      let byte := String.ofList (Text.hex 2 e.byte.toNat)
      s!"byte 0x{byte} in position {e.position}"
    else
      let last := e.position + e.size - 1
      s!"bytes in position {e.position}-{last}"
  let reason := e.fault.reason
  s!"'utf-8' codec can't decode {place}: {reason}"

namespace Utf8

/-- A character of which the first bytes are read. -/
structure Pending where
  /-- The first byte. -/
  first : UInt8
  /-- How many bytes are read. -/
  taken : Nat
  /-- How many bytes are to come, less one. -/
  owed : Nat
  /-- The least byte that continues the character. -/
  low : Nat
  /-- The greatest byte that continues the character. -/
  high : Nat
  /-- The bits of the code point so far. -/
  code : Nat
  deriving Repr

/-- The character that a byte above 0x7F begins. -/
def begin? (b : UInt8) : Option Pending :=
  let n := b.toNat
  if 0xC2 ≤ n ∧ n ≤ 0xDF then some ⟨b, 1, 0, 0x80, 0xBF, n - 0xC0⟩
  else if n = 0xE0 then some ⟨b, 1, 1, 0xA0, 0xBF, 0⟩
  else if n = 0xED then some ⟨b, 1, 1, 0x80, 0x9F, 0xD⟩
  else if 0xE1 ≤ n ∧ n ≤ 0xEF then some ⟨b, 1, 1, 0x80, 0xBF, n - 0xE0⟩
  else if n = 0xF0 then some ⟨b, 1, 2, 0x90, 0xBF, 0⟩
  else if 0xF1 ≤ n ∧ n ≤ 0xF3 then some ⟨b, 1, 2, 0x80, 0xBF, n - 0xF0⟩
  else if n = 0xF4 then some ⟨b, 1, 2, 0x80, 0x8F, 4⟩
  else none

/-- The error of a character that does not go on, when the next byte is at a place. -/
def Pending.error (p : Pending) (next : Nat) (fault : Utf8Fault) : Utf8Error :=
  ⟨next - p.taken, p.taken, p.first, fault⟩

/-- The characters of bytes from a place on, within the character that was begun before it. -/
def decodeFrom (place : Nat) : Option Pending → List UInt8 → Except Utf8Error (List Char)
  | none, [] => .ok []
  | some p, [] => .error (p.error place .unexpectedEnd)
  | none, b :: rest =>
    if b.toNat < 0x80 then
      (decodeFrom (place + 1) none rest).map (Char.ofNat b.toNat :: ·)
    else match begin? b with
      | some p => decodeFrom (place + 1) (some p) rest
      | none => .error ⟨place, 1, b, .invalidStart⟩
  | some p, b :: rest =>
    if p.low ≤ b.toNat ∧ b.toNat ≤ p.high then
      let code := p.code * 64 + (b.toNat - 0x80)
      match p.owed with
      | 0 => (decodeFrom (place + 1) none rest).map (Char.ofNat code :: ·)
      | owed + 1 =>
        decodeFrom (place + 1) (some ⟨p.first, p.taken + 1, owed, 0x80, 0xBF, code⟩) rest
    else .error (p.error place .invalidContinuation)

/-- The characters that bytes stand for. -/
def decode (bytes : List UInt8) : Except Utf8Error (List Char) := decodeFrom 0 none bytes

/-- The bytes of a text. -/
def encode (s : List Char) : List UInt8 := s.flatMap String.utf8EncodeChar

end Utf8

end RuleCalendar
