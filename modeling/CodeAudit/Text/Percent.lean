/-
  CodeAudit.Text.Percent
  ──────────────────────
  **PERCENT ENCODING AND BASE 64.**

  Two ways of writing bytes with few characters: a byte as a percent sign and
  two hexadecimal digits, where some bytes stand for themselves, and three
  bytes as four of sixty-four characters.
-/
import CodeAudit.Text.Classes
import CodeAudit.Text.Utf8

namespace CodeAudit.Text

/-! ## §1. Percent encoding. -/

/-- Never encoded. -/
def isUnreserved (c : Char) : Bool :=
  isAsciiLetter c || isAsciiDigit c || c == '_' || c == '.' || c == '-' || c == '~'

/-- A hexadecimal digit, in capitals. -/
def capitalHex (n : Nat) : Char := Char.ofNat (if n < 10 then 0x30 + n else 0x37 + n)

/-- A byte as a percent sign and two digits. -/
def percentByte (b : UInt8) : List Char :=
  ['%', capitalHex (b.toNat / 16), capitalHex (b.toNat % 16)]

/-- Encode bytes; the characters in `safe` stand for themselves. -/
def percentEncode (safe : List Char) (bytes : List UInt8) : List Char :=
  bytes.flatMap fun b =>
    let c := Char.ofNat b.toNat
    if b < 0x80 && (isUnreserved c || safe.contains c) then [c] else percentByte b

/-- The value of a hexadecimal digit given as a byte. -/
def nibble? (b : UInt8) : Option Nat :=
  let c := Char.ofNat b.toNat
  if isHexDigit c then some (hexDigit c) else none

/-- Decode; a percent sign without two digits stands for itself. -/
def percentDecode : List UInt8 → List UInt8
  | a :: b :: c :: rest =>
      match a == 0x25, nibble? b, nibble? c with
      | true, some high, some low => UInt8.ofNat (16 * high + low) :: percentDecode rest
      | _, _, _ => a :: percentDecode (b :: c :: rest)
  | bytes => bytes

/-! ## §2. Base 64. -/

/-- The character of a digit. -/
def base64Digit (n : Nat) : Char :=
  if n < 26 then Char.ofNat (0x41 + n)
  else if n < 52 then Char.ofNat (0x61 + (n - 26))
  else if n < 62 then Char.ofNat (0x30 + (n - 52))
  else if n = 62 then '+' else '/'

/-- Bytes in base 64, filled up with equal signs. -/
def base64 : List UInt8 → List Char
  | [] => []
  | [a] =>
      let n := a.toNat * 65536
      [base64Digit (n / 262144), base64Digit (n / 4096 % 64), '=', '=']
  | [a, b] =>
      let n := a.toNat * 65536 + b.toNat * 256
      [base64Digit (n / 262144), base64Digit (n / 4096 % 64), base64Digit (n / 64 % 64), '=']
  | a :: b :: c :: rest =>
      let n := a.toNat * 65536 + b.toNat * 256 + c.toNat
      base64Digit (n / 262144) :: base64Digit (n / 4096 % 64) :: base64Digit (n / 64 % 64)
        :: base64Digit (n % 64) :: base64 rest

end CodeAudit.Text
