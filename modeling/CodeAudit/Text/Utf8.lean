/-
  CodeAudit.Text.Utf8
  ───────────────────
  **READING BYTES AS TEXT.**

  `decode` reads a whole byte sequence or says where and why it stops being
  text: at a byte that starts no character, at a byte that cannot continue
  the character begun, or at an end in the middle of a character.
-/

namespace CodeAudit.Text.Utf8

/-! ## §1. Faults. -/

/-- Why bytes are not text. -/
inductive Cause where
  /-- The byte can start no character. -/
  | start
  /-- The byte after the good ones cannot continue the character. -/
  | continuation
  /-- The bytes end inside a character. -/
  | ended
  deriving DecidableEq, Repr

/-- A fault: the bytes from `first` on, `count` of them, are to blame. -/
structure Fault where
  first : Nat
  count : Nat
  byte : UInt8
  cause : Cause

/-- The wording of a cause. -/
def Cause.message : Cause → String
  | .start => "invalid start byte"
  | .continuation => "invalid continuation byte"
  | .ended => "unexpected end of data"

/-- Two hexadecimal digits. -/
def hexByte (b : UInt8) : String :=
  let digits := Nat.toDigits 16 b.toNat
  String.ofList (if digits.length < 2 then '0' :: digits else digits)

/-- The wording of a fault. -/
def Fault.message (f : Fault) : String :=
  if f.count = 1 then
    "'utf-8' codec can't decode byte 0x" ++ hexByte f.byte ++ " in position " ++ toString f.first
      ++ ": " ++ f.cause.message
  else
    "'utf-8' codec can't decode bytes in position " ++ toString f.first ++ "-"
      ++ toString (f.first + f.count - 1) ++ ": " ++ f.cause.message

/-! ## §2. One character. -/

/-- The bytes that may follow a first byte: their number, and the range of
the next one.  Overlong forms, surrogates and values beyond the last code
point are cut off by the range. -/
def expected (b : UInt8) : Option (Nat × UInt8 × UInt8) :=
  if b < 0x80 then some (0, 0x80, 0xBF)
  else if b < 0xC2 then none
  else if b < 0xE0 then some (1, 0x80, 0xBF)
  else if b == 0xE0 then some (2, 0xA0, 0xBF)
  else if b == 0xED then some (2, 0x80, 0x9F)
  else if b < 0xF0 then some (2, 0x80, 0xBF)
  else if b == 0xF0 then some (3, 0x90, 0xBF)
  else if b < 0xF4 then some (3, 0x80, 0xBF)
  else if b == 0xF4 then some (3, 0x80, 0x8F)
  else none

/-- The payload bits of a first byte with `n` followers. -/
def payload (b : UInt8) : Nat → Nat
  | 0 => b.toNat
  | 1 => b.toNat % 0x20
  | 2 => b.toNat % 0x10
  | _ => b.toNat % 0x08

/-- Take `n` further bytes of a character; `taken` bytes are already good. -/
def follow (value taken : Nat) : Nat → UInt8 → UInt8 → List UInt8 →
    Except (Nat × Cause) (Nat × List UInt8)
  | 0, _, _, rest => .ok (value, rest)
  | _ + 1, _, _, [] => .error (taken, .ended)
  | n + 1, low, high, b :: rest =>
      if low ≤ b && b ≤ high then
        follow (value * 64 + b.toNat % 64) (taken + 1) n 0x80 0xBF rest
      else .error (taken, .continuation)

/-! ## §3. The whole text. -/

/-- Read bytes that start at `position`; `fuel` is at least their number. -/
def decodeFrom (position : Nat) : Nat → List UInt8 → List Char → Except Fault (List Char)
  | _, [], seen => .ok seen.reverse
  | 0, _, seen => .ok seen.reverse
  | fuel + 1, b :: rest, seen =>
      match expected b with
      | none => .error ⟨position, 1, b, .start⟩
      | some (n, low, high) =>
          match follow (payload b n) 1 n low high rest with
          | .ok (value, rest) => decodeFrom (position + n + 1) fuel rest (Char.ofNat value :: seen)
          | .error (taken, cause) => .error ⟨position, taken, b, cause⟩

/-- The text that the bytes spell, or the first fault. -/
def decode (bytes : List UInt8) : Except Fault (List Char) :=
  decodeFrom 0 bytes.length bytes []

/-- The mark in place of bytes that spell nothing. -/
def replacement : Char := Char.ofNat 0xFFFD

/-- The text that the bytes spell, with a mark for every fault; `fuel` is at least
the number of bytes. -/
def decodeLossyFrom : Nat → List UInt8 → List Char
  | 0, _ => []
  | _, [] => []
  | fuel + 1, b :: rest =>
      match expected b with
      | none => replacement :: decodeLossyFrom fuel rest
      | some (n, low, high) =>
          match follow (payload b n) 1 n low high rest with
          | .ok (value, rest) => Char.ofNat value :: decodeLossyFrom fuel rest
          | .error (taken, _) => replacement :: decodeLossyFrom fuel (rest.drop (taken - 1))

/-- The text that the bytes spell, with a mark for every fault. -/
def decodeLossy (bytes : List UInt8) : List Char := decodeLossyFrom bytes.length bytes

/-- The bytes that spell a text. -/
def encode (s : String) : List UInt8 := s.toUTF8.toList

end CodeAudit.Text.Utf8
