/-
  CodeAudit.Text.References
  ─────────────────────────
  **CHARACTER REFERENCES.**

  In markup a character may be written as a reference: an ampersand with a
  number, in decimal or hexadecimal, or with a name.  A semicolon ends it,
  which a number and some names can do without.  What is no reference stands
  for itself.
-/
import CodeAudit.Text.Classes
import CodeAudit.Text.Utf8
import CodeAudit.Text.References.Table

namespace CodeAudit.Text

/-! ## §1. Numbers. -/

/-- What the numbers from 0x80 to 0x9F stand for. -/
private def westernCodes : List Nat :=
  [0x20AC, 0x81, 0x201A, 0x192, 0x201E, 0x2026, 0x2020, 0x2021, 0x2C6, 0x2030, 0x160, 0x2039, 0x152,
   0x8D, 0x17D, 0x8F, 0x90, 0x2018, 0x2019, 0x201C, 0x201D, 0x2022, 0x2013, 0x2014, 0x2DC, 0x2122,
   0x161, 0x203A, 0x153, 0x9D, 0x17E, 0x178]

/-- Whether a number stands for nothing. -/
def isVoidCode (n : Nat) : Bool :=
  (0x1 ≤ n && n ≤ 0x8) || n == 0xB || (0xE ≤ n && n ≤ 0x1F) || n == 0x7F
    || (0xFDD0 ≤ n && n ≤ 0xFDEF) || n % 0x10000 ≥ 0xFFFE

/-- What a number stands for. -/
def numberedReference (n : Nat) : List Char :=
  if n = 0 || (0xD800 ≤ n && n ≤ 0xDFFF) || 0x10FFFF < n then [Utf8.replacement]
  else if 0x80 ≤ n && n ≤ 0x9F then [Char.ofNat (westernCodes.getD (n - 0x80) n)]
  else if isVoidCode n then []
  else [Char.ofNat n]

/-- One for a semicolon at the front. -/
def semicolonAt (cs : List Char) : Nat := if cs.head? = some ';' then 1 else 0

/-- The digits at the front as a number, with their count and that of a semicolon. -/
def digitsAt (base : Nat) (isDigit : Char → Bool) (cs : List Char) : Option (List Char × Nat) :=
  let digits := cs.takeWhile isDigit
  if digits.isEmpty then none
  else
    let number := digits.foldl (fun n c => base * n + hexDigit c) 0
    some (numberedReference number, digits.length + semicolonAt (cs.drop digits.length))

/-! ## §2. Names. -/

/-- Names with what they stand for. -/
private def referenceEntries : List (String × List Char) :=
  (entries References.Table.named).filterMap fun entry =>
    match entry.splitOn "=" with
    | [name, codes] => some (name, (codes.splitOn "+").map fun code => Char.ofNat (hexNumber code))
    | _ => none

/-- What a name stands for, with its semicolon or without. -/
def namedReference? (written : List Char) : Option (List Char) :=
  if written.getLast? = some ';' then referenceEntries.lookup (String.ofList written.dropLast)
  else
    let name := String.ofList written
    if (entries References.Table.bare).contains name then referenceEntries.lookup name else none

/-- May stand in a name. -/
def isReferenceChar (c : Char) : Bool := !"\t\n\x0c <&#;".toList.contains c

/-- The longest name at the front, of two characters or more. -/
def nameAt (cs : List Char) : Option (List Char × Nat) :=
  let run := (cs.takeWhile isReferenceChar).take 32
  let length := run.length + semicolonAt (cs.drop run.length)
  (List.range (length - 1)).findSome? fun k =>
    (namedReference? (cs.take (length - k))).map fun out => (out, length - k)

/-! ## §3. Texts. -/

/-- The reference after an ampersand: what it stands for and the number of characters it
takes. -/
def referenceAt : List Char → Option (List Char × Nat)
  | '#' :: c :: rest =>
      if c == 'x' || c == 'X' then (digitsAt 16 isHexDigit rest).map fun (out, n) => (out, n + 2)
      else (digitsAt 10 isAsciiDigit (c :: rest)).map fun (out, n) => (out, n + 1)
  | cs => nameAt cs

/-- Resolve the references of a text, past characters that belong to the last one. -/
def resolveFrom : Nat → List Char → List Char
  | _, [] => []
  | n + 1, _ :: rest => resolveFrom n rest
  | 0, c :: rest =>
      match if c == '&' then referenceAt rest else none with
      | some (out, n) => out ++ resolveFrom n rest
      | none => c :: resolveFrom 0 rest

/-- A text with its references resolved. -/
def resolved (cs : List Char) : List Char := resolveFrom 0 cs

end CodeAudit.Text
