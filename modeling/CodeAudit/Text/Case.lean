/-
  CodeAudit.Text.Case
  ───────────────────
  **CAPITAL AND SMALL LETTERS.**

  The full case mappings: a character may become several (`ß` to `SS`), and
  a capital sigma becomes the final small sigma exactly at the end of a word.
-/
import CodeAudit.Text.Ranges
import CodeAudit.Text.Case.Table

namespace CodeAudit.Text

namespace Case

/-! ## §1. Reading the tables. -/

/-- A run of code points in steps of `step`, each mapped by adding `offset`. -/
structure Shift where
  step : Nat
  offset : Int

/-- The run written `61-7A/1:-20`. -/
def readShift (written : String) : Option (Span Shift) :=
  match written.splitOn ":" with
  | [range, offset] =>
      match range.splitOn "/" with
      | [ends, step] => some (Span.read ⟨hexNumber step, hexOffset offset⟩ ends)
      | _ => none
  | _ => none

/-- The entry written `DF=53,53`. -/
def readMany (written : String) : Option (Span (List Char)) :=
  match written.splitOn "=" with
  | [key, values] =>
      some (Span.read ((values.splitOn ",").map fun v => Char.ofNat (hexNumber v)) key)
  | _ => none

private def upperShifts : Array (Span Shift) :=
  ((entries Table.upper).filterMap readShift).toArray
private def upperMany : Array (Span (List Char)) :=
  ((entries Table.upperMany).filterMap readMany).toArray
private def lowerShifts : Array (Span Shift) :=
  ((entries Table.lower).filterMap readShift).toArray
private def lowerMany : Array (Span (List Char)) :=
  ((entries Table.lowerMany).filterMap readMany).toArray
private def casedRanges : Array (Span Unit) := readRanges Table.cased
private def ignorableRanges : Array (Span Unit) := readRanges Table.ignorable

/-! ## §2. Single characters. -/

/-- A mapping by tables: several characters first, then a run, else itself. -/
def mapWith (many : Array (Span (List Char))) (shifts : Array (Span Shift)) (c : Char) :
    List Char :=
  match lookup many c.toNat with
  | some s => s.info
  | none =>
      match lookup shifts c.toNat with
      | some s =>
          if (c.toNat - s.first) % s.info.step = 0 then
            [Char.ofNat ((c.toNat : Int) + s.info.offset).toNat]
          else [c]
      | none => [c]

/-- The capital form of a character. -/
def upperChar (c : Char) : List Char :=
  if c.toNat < 0x80 then [c.toUpper] else mapWith upperMany upperShifts c

/-- The small form of a character, wherever it stands. -/
def lowerChar (c : Char) : List Char :=
  if c.toNat < 0x80 then [c.toLower] else mapWith lowerMany lowerShifts c

/-- Has a case. -/
def isCased (c : Char) : Bool := covers casedRanges c.toNat

/-- Does not separate a letter from the next one for case. -/
def isIgnorable (c : Char) : Bool := covers ignorableRanges c.toNat

/-! ## §3. Texts. -/

/-- Whether the nearest character that is not ignorable has a case. -/
def meetsCased (cs : List Char) : Bool :=
  match cs.dropWhile isIgnorable with
  | c :: _ => isCased c
  | [] => false

/-- The small form of characters; `before` holds what precedes, last first.
A capital sigma after a letter and before none is final. -/
def lowerFrom (before : List Char) : List Char → List Char
  | [] => []
  | c :: rest =>
      let here :=
        if c == 'Σ' then
          if meetsCased before && !meetsCased rest then ['ς'] else ['σ']
        else lowerChar c
      here ++ lowerFrom (c :: before) rest

end Case

/-- The text in capital letters. -/
def upper (s : String) : String := String.ofList (s.toList.flatMap Case.upperChar)

/-- The text in small letters. -/
def lower (s : String) : String := String.ofList (Case.lowerFrom [] s.toList)

end CodeAudit.Text
