/-
  CodeAudit.Data.Json.Reader
  ──────────────────────────
  **READING JSON.**

  `Json.read` turns a document into a `Value`, or says what was expected and
  where.  Keys keep the order of their first writing, and the last value
  written for a key counts.  `NaN`, `Infinity` and `-Infinity` are numbers.
  A whole number has at most `digitLimit` digits.  Half of a surrogate pair
  may stand alone; a key is kept as it is shown then.
-/
import CodeAudit.Data.Value
import CodeAudit.Text.Ranges
import CodeAudit.Text.Classes

namespace CodeAudit.Data.Json

open CodeAudit.Number
open CodeAudit.Text (hexDigit isHexDigit isAsciiDigit Sign Wording)

/-! ## §1. Faults. -/

/-- What is wrong with a document. -/
inductive Problem where
  | byteOrderMark
  | expectedValue
  | expectedName
  | expectedColon
  | expectedComma
  | extraData
  | unterminatedText
  | controlCharacter
  | badEscape
  | badCodePoint
  /-- A whole number with too many digits. -/
  | tooManyDigits (count : Nat)
  deriving DecidableEq, Repr

/-- The most digits that a whole number may have. -/
def digitLimit : Nat := 4300

/-- The wording of a problem. -/
def Problem.message : Problem → String
  | .byteOrderMark => "Unexpected UTF-8 BOM (decode using utf-8-sig)"
  | .expectedValue => "Expecting value"
  | .expectedName => "Expecting property name enclosed in double quotes"
  | .expectedColon => "Expecting ':' delimiter"
  | .expectedComma => "Expecting ',' delimiter"
  | .extraData => "Extra data"
  | .unterminatedText => "Unterminated string starting at"
  | .controlCharacter => "Invalid control character at"
  | .badEscape => "Invalid \\escape: "
  | .badCodePoint => "Invalid \\uXXXX escape"
  | .tooManyDigits count =>
      "Exceeds the limit (" ++ toString digitLimit ++ " digits) for integer string conversion: value has "
        ++ toString count ++ " digits; use sys.set_int_max_str_digits() to increase the limit"

/-- A problem and the number of characters before it. -/
structure Fault where
  problem : Problem
  position : Nat
  deriving DecidableEq, Repr

/-- The place of a fault in a document: lines and columns count from one. -/
def Fault.place (f : Fault) (document : List Char) : String :=
  let before := document.take f.position
  let line := before.count '\n' + 1
  let column := (before.reverse.takeWhile (· != '\n')).length + 1
  ": line " ++ toString line ++ " column " ++ toString column
    ++ " (char " ++ toString f.position ++ ")"

/-- The wording of a fault in a document.  A number that is too long is not located. -/
def Fault.message (f : Fault) (document : List Char) : String :=
  match f.problem with
  | .tooManyDigits _ => f.problem.message
  | p => p.message ++ f.place document

/-! ## §2. The place in the document. -/

/-- The characters still to read, and how many came before. -/
structure Cursor where
  rest : List Char
  position : Nat

/-- A fault at the cursor. -/
def Cursor.fault {α : Type} (c : Cursor) (p : Problem) : Except Fault α := .error ⟨p, c.position⟩

/-- Blank between tokens. -/
def isSpace (c : Char) : Bool := c == ' ' || c == '\t' || c == '\n' || c == '\r'

/-- The cursor after the blanks. -/
def Cursor.skip (c : Cursor) : Cursor :=
  let blanks := c.rest.takeWhile isSpace
  ⟨c.rest.dropWhile isSpace, c.position + blanks.length⟩

/-- The cursor `n` characters on. -/
def Cursor.advance (c : Cursor) (n : Nat) : Cursor := ⟨c.rest.drop n, c.position + n⟩

/-! ## §3. Texts. -/

/-- Four hexadecimal digits at the front. -/
def fourDigits? : List Char → Option Nat
  | a :: b :: c :: d :: _ =>
      if isHexDigit a && isHexDigit b && isHexDigit c && isHexDigit d then
        some (((hexDigit a * 16 + hexDigit b) * 16 + hexDigit c) * 16 + hexDigit d)
      else none
  | _ => none

/-- The character named by one letter after a backslash. -/
def escaped? : Char → Option Char
  | '"' => some '"'
  | '\\' => some '\\'
  | '/' => some '/'
  | 'b' => some '\x08'
  | 'f' => some '\x0c'
  | 'n' => some '\n'
  | 'r' => some '\r'
  | 't' => some '\t'
  | _ => none

/-- The low half of a surrogate pair written right after the high half. -/
def lowHalf? (rest : List Char) : Option Nat :=
  match rest with
  | '\\' :: 'u' :: more =>
      match fourDigits? more with
      | some n => if 0xDC00 ≤ n ∧ n ≤ 0xDFFF then some n else none
      | none => none
  | _ => none

/-- The rest of a text whose opening quote stands at `start`; `seen` is what
has been read, last first, and `fuel` is at least the number of characters
left. -/
def readText (start : Nat) : Nat → Cursor → List Sign → Except Fault (Wording × Cursor)
  | 0, _, _ => .error ⟨.unterminatedText, start⟩
  | fuel + 1, c, seen =>
      match c.rest with
      | [] => .error ⟨.unterminatedText, start⟩
      | '"' :: _ => .ok (.ofSigns seen.reverse, c.advance 1)
      | '\\' :: 'u' :: more =>
          if more.length < 5 then .error ⟨.badCodePoint, c.position + 1⟩
          else match fourDigits? more with
            | none => .error ⟨.badCodePoint, c.position + 1⟩
            | some n =>
                match (if 0xD800 ≤ n ∧ n ≤ 0xDBFF then lowHalf? (more.drop 4) else none) with
                | some low =>
                    let joined := 0x10000 + (n - 0xD800) * 0x400 + (low - 0xDC00)
                    readText start fuel (c.advance 12) (.ofCode joined :: seen)
                | none => readText start fuel (c.advance 6) (.ofCode n :: seen)
      | ['\\'] => .error ⟨.unterminatedText, start⟩
      | '\\' :: letter :: _ =>
          match escaped? letter with
          | some ch => readText start fuel (c.advance 2) (.char ch :: seen)
          | none => c.fault .badEscape
      | ch :: _ =>
          if ch.toNat < 0x20 then c.fault .controlCharacter
          else readText start fuel (c.advance 1) (.char ch :: seen)

/-! ## §4. Numbers. -/

/-- The natural number that digits spell. -/
def natOfDigits (digits : List Char) : Nat :=
  digits.foldl (fun n c => 10 * n + (c.toNat - '0'.toNat)) 0

/-- The digits of the whole part: a zero alone, or digits that start otherwise. -/
def wholeDigits (cs : List Char) : List Char :=
  match cs with
  | '0' :: _ => ['0']
  | _ => cs.takeWhile isAsciiDigit

/-- The digits of a fraction with their point; empty when there is none. -/
def fractionPart (cs : List Char) : List Char :=
  match cs with
  | '.' :: rest =>
      let digits := rest.takeWhile isAsciiDigit
      if digits.isEmpty then [] else '.' :: digits
  | _ => []

/-- An exponent: its length in the document and its value. -/
def exponentPart (cs : List Char) : Nat × Int :=
  match cs with
  | e :: rest =>
      if e == 'e' || e == 'E' then
        let (sign, digits) := match rest with
          | '-' :: r => (1, r.takeWhile isAsciiDigit)
          | '+' :: r => (1, r.takeWhile isAsciiDigit)
          | r => (0, r.takeWhile isAsciiDigit)
        if digits.isEmpty then (0, 0)
        else
          let size : Int := natOfDigits digits
          (1 + sign + digits.length, if rest.head? == some '-' then -size else size)
      else (0, 0)
  | [] => (0, 0)

/-- A number at the front, with its length. -/
def number? (cs : List Char) : Option (Value × Nat) :=
  let negative := cs.head? == some '-'
  let body := if negative then cs.drop 1 else cs
  let whole := wholeDigits body
  if whole.isEmpty then none
  else
    let fraction := fractionPart (body.drop whole.length)
    let (width, power) := exponentPart (body.drop (whole.length + fraction.length))
    let length := (if negative then 1 else 0) + whole.length + fraction.length + width
    if fraction.isEmpty && width == 0 then
      let n : Int := natOfDigits whole
      some (.int (if negative then -n else n), length)
    else
      let decimals := fraction.drop 1
      some (.real (.ofDecimal negative (natOfDigits (whole ++ decimals))
        (power - decimals.length)), length)

/-- The words that stand for values. -/
def words : List (String × Value) :=
  [("null", .null), ("true", .bool true), ("false", .bool false), ("NaN", .real .notANumber),
   ("Infinity", .real (.infinite false)), ("-Infinity", .real (.infinite true))]

/-- A word at the front, with its length. -/
def word? (cs : List Char) : Option (Value × Nat) :=
  words.findSome? fun (w, v) => if w.toList.isPrefixOf cs then some (v, w.length) else none

/-! ## §5. Values. -/

/-- The entries of a dictionary under way. -/
abbrev Entries := List (Wording × Value)

/-- Write a value: at the key's place when it is present, else at the end. -/
def Entries.put (es : Entries) (key : Wording) (v : Value) : Entries :=
  match es with
  | [] => [(key, v)]
  | (k, old) :: rest => if k == key then (k, v) :: rest else (k, old) :: put rest key v

/-- The entries under their keys as they are shown. -/
def Entries.shown (es : Entries) : Dict := es.map fun e => (e.1.shown, e.2)

mutual

/-- A value at the cursor. -/
def readValue : Nat → Cursor → Except Fault (Value × Cursor)
  | 0, c => c.fault .expectedValue
  | fuel + 1, c =>
      match c.rest with
      | '"' :: _ => do
          let (w, c) ← readText c.position (c.rest.length + 1) (c.advance 1) []
          .ok (.ofWording w, c)
      | '[' :: _ =>
          let inside := (c.advance 1).skip
          match inside.rest with
          | ']' :: _ => .ok (.list [], inside.advance 1)
          | _ => readItems fuel inside []
      | '\x7b' :: _ =>
          let inside := (c.advance 1).skip
          match inside.rest with
          | '\x7d' :: _ => .ok (.dict [], inside.advance 1)
          | _ => readEntries fuel inside []
      | cs =>
          match word? cs with
          | some (v, n) => .ok (v, c.advance n)
          | none =>
              match number? cs with
              | some (.int i, n) =>
                  let digits := if cs.head? == some '-' then n - 1 else n
                  if digitLimit < digits then c.fault (.tooManyDigits digits)
                  else .ok (.int i, c.advance n)
              | some (v, n) => .ok (v, c.advance n)
              | none => c.fault .expectedValue

/-- The items of a list from the cursor on; `seen` holds them last first. -/
def readItems : Nat → Cursor → List Value → Except Fault (Value × Cursor)
  | 0, c, _ => c.fault .expectedValue
  | fuel + 1, c, seen => do
      let (v, c) ← readValue fuel c
      let c := c.skip
      match c.rest with
      | ']' :: _ => .ok (.list (v :: seen).reverse, c.advance 1)
      | ',' :: _ => readItems fuel (c.advance 1).skip (v :: seen)
      | _ => c.fault .expectedComma

/-- The entries of a dictionary from the cursor on. -/
def readEntries : Nat → Cursor → Entries → Except Fault (Value × Cursor)
  | 0, c, _ => c.fault .expectedName
  | fuel + 1, c, seen => do
      match c.rest with
      | '"' :: _ =>
          let (key, c) ← readText c.position (c.rest.length + 1) (c.advance 1) []
          let c := c.skip
          match c.rest with
          | ':' :: _ =>
              let (v, c) ← readValue fuel (c.advance 1).skip
              let c := c.skip
              let seen := seen.put key v
              match c.rest with
              | '\x7d' :: _ => .ok (.dict seen.shown, c.advance 1)
              | ',' :: _ => readEntries fuel (c.advance 1).skip seen
              | _ => c.fault .expectedComma
          | _ => c.fault .expectedColon
      | _ => c.fault .expectedName

end

/-- The value that a document spells. -/
def read (document : List Char) : Except Fault Value :=
  if document.head? == some (Char.ofNat 0xFEFF) then .error ⟨.byteOrderMark, 0⟩
  else do
    let start : Cursor := ⟨document, 0⟩
    let (v, c) ← readValue (document.length + 1) start.skip
    let c := c.skip
    if c.rest.isEmpty then .ok v else c.fault .extraData

end CodeAudit.Data.Json
