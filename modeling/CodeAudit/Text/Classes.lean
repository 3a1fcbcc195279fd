/-
  CodeAudit.Text.Classes
  ──────────────────────
  **CLASSES OF CHARACTERS.**

  Which characters are printed as themselves in quoted text, which make up
  words and names, and which are decimal digits.  ASCII characters are
  decided by plain comparisons, all others by the tables.
-/
import CodeAudit.Text.Ranges
import CodeAudit.Text.Classes.Table

namespace CodeAudit.Text

private def unprintableRanges : Array (Span Unit) := readRanges Classes.Table.unprintable
private def wordRanges : Array (Span Unit) := readRanges Classes.Table.word
private def nameStartRanges : Array (Span Unit) := readRanges Classes.Table.nameStart
private def nameRestRanges : Array (Span Unit) := readRanges Classes.Table.nameRest

/-- The sets of ten decimal digits, each with its zero. -/
private def digitSets : Array (Span Nat) :=
  ((entries Classes.Table.zeros).map fun w =>
    let first := hexNumber w
    Span.mk first (first + 9) first).toArray

/-! ## §1. ASCII. -/

/-- An ASCII letter. -/
def isAsciiLetter (c : Char) : Bool := ('a' ≤ c && c ≤ 'z') || ('A' ≤ c && c ≤ 'Z')

/-- An ASCII digit. -/
def isAsciiDigit (c : Char) : Bool := '0' ≤ c && c ≤ '9'

/-- A hexadecimal digit. -/
def isHexDigit (c : Char) : Bool :=
  isAsciiDigit c || ('a' ≤ c && c ≤ 'f') || ('A' ≤ c && c ≤ 'F')

/-! ## §2. Classes of all characters. -/

/-- Printed as itself in quoted text. -/
def isPrintable (c : Char) : Bool :=
  if c.toNat < 0x7f then 0x20 ≤ c.toNat
  else !covers unprintableRanges c.toNat

/-- A letter, a character with a numeric value, or the underscore. -/
def isWord (c : Char) : Bool :=
  if c.toNat < 0x80 then isAsciiLetter c || isAsciiDigit c || c == '_'
  else covers wordRanges c.toNat

/-- Can start a name. -/
def isNameStart (c : Char) : Bool :=
  if c.toNat < 0x80 then isAsciiLetter c || c == '_'
  else covers nameStartRanges c.toNat

/-- Can continue a name. -/
def isNameRest (c : Char) : Bool :=
  if c.toNat < 0x80 then isAsciiLetter c || isAsciiDigit c || c == '_'
  else covers nameRestRanges c.toNat

/-- The value of a decimal digit of any script. -/
def digitValue? (c : Char) : Option Nat :=
  if c.toNat < 0x80 then
    if isAsciiDigit c then some (c.toNat - '0'.toNat) else none
  else (lookup digitSets c.toNat).map fun s => c.toNat - s.info

/-- The digits that form no decimal numbers: raised, lowered and encircled ones,
and those of scripts without a zero. -/
private def otherDigits : Array (Span Unit) :=
  readRanges ["b2-b3 b9 1369-1371 19da 2070 2074-2079 2080-2089 2460-2468 2474-247c 2488-2490",
    "24ea 24f5-24fd 24ff 2776-277e 2780-2788 278a-2792 10a40-10a43 10e60-10e68 11052-1105a",
    "1f100-1f10a"]

/-- A digit of any kind. -/
def isDigit (c : Char) : Bool :=
  if c.toNat < 0x80 then isAsciiDigit c
  else (digitValue? c).isSome || covers otherDigits c.toNat

end CodeAudit.Text
