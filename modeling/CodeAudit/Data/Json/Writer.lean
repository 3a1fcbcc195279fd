/-
  CodeAudit.Data.Json.Writer
  ──────────────────────────
  **WRITING JSON.**

  Two styles: on one line with every character beyond ASCII escaped, and
  indented by two blanks a level with all characters as they are.  In the
  second style a document is torn if a text in it is.
-/
import CodeAudit.Data.Value
import CodeAudit.Number.Shortest
import CodeAudit.Text.Quoted

namespace CodeAudit.Data.Json

open CodeAudit.Number
open CodeAudit.Text (Sign Wording hexPadded)

/-! ## §1. Style. -/

/-- How a document is written. -/
structure Style where
  /-- Escape every character beyond ASCII. -/
  ascii : Bool
  /-- Blanks per level; none keeps all on one line. -/
  indent : Option Nat

/-- One line, ASCII only. -/
def oneLine : Style := ⟨true, none⟩

/-- Indented by two blanks a level. -/
def indented : Style := ⟨false, some 2⟩

/-! ## §2. Texts. -/

/-- A code unit as an escape. -/
def unitEscape (n : Nat) : List Char := '\\' :: 'u' :: hexPadded 4 n

/-- A character inside quotes. -/
def writeChar (ascii : Bool) (c : Char) : List Char :=
  match c with
  | '"' => ['\\', '"']
  | '\\' => ['\\', '\\']
  | '\n' => ['\\', 'n']
  | '\r' => ['\\', 'r']
  | '\t' => ['\\', 't']
  | '\x08' => ['\\', 'b']
  | '\x0c' => ['\\', 'f']
  | c =>
      let n := c.toNat
      if n < 0x20 then unitEscape n
      else if n < 0x7f || !ascii then [c]
      else if n == 0x7f then [c]
      else if n < 0x10000 then unitEscape n
      else
        let m := n - 0x10000
        unitEscape (0xD800 + m / 0x400) ++ unitEscape (0xDC00 + m % 0x400)

/-- A sign inside quotes.  Half of a surrogate pair is a code unit of its own. -/
def writeSign (ascii : Bool) : Sign → List Sign
  | .half n => if ascii then (unitEscape (Sign.half n).code).map .char else [.half n]
  | .char c => (writeChar ascii c).map .char

/-- A text in quotes. -/
def writeText (ascii : Bool) : Wording → Wording
  | .whole s => "\"" ++ String.ofList (s.toList.flatMap (writeChar ascii)) ++ "\""
  | .torn t => "\"" ++ Wording.ofSigns (t.signs.flatMap (writeSign ascii)) ++ "\""

/-- A float; the three special numbers have words. -/
def writeReal : Binary64 → String
  | .infinite negative => if negative then "-Infinity" else "Infinity"
  | .notANumber => "NaN"
  | x => x.text

/-! ## §3. Values. -/

/-- A new line at a level, or nothing on one line. -/
def Style.newLine (st : Style) (level : Nat) : String :=
  match st.indent with
  | some n => "\n" ++ String.ofList (List.replicate (n * level) ' ')
  | none => ""

/-- What stands between neighbours. -/
def Style.separator (st : Style) (level : Nat) : String :=
  match st.indent with
  | some _ => "," ++ st.newLine level
  | none => ", "

mutual

/-- A value at a level. -/
def writeAt (st : Style) (level : Nat) : Value → Wording
  | .null => "null"
  | .bool b => if b then "true" else "false"
  | .int n => toString n
  | .real x => writeReal x
  | .text s => writeText st.ascii s
  | .torn t => writeText st.ascii (.torn t)
  | .list [] => "[]"
  | .list (v :: rest) =>
      "[" ++ st.newLine (level + 1) ++ writeAt st (level + 1) v
        ++ writeItems st (level + 1) rest ++ st.newLine level ++ "]"
  | .dict [] => "\x7b\x7d"
  | .dict ((k, v) :: rest) =>
      "\x7b" ++ st.newLine (level + 1) ++ writeText st.ascii k ++ ": "
        ++ writeAt st (level + 1) v ++ writeEntries st (level + 1) rest
        ++ st.newLine level ++ "\x7d"

/-- Further items of a list. -/
def writeItems (st : Style) (level : Nat) : List Value → Wording
  | [] => ""
  | v :: rest => st.separator level ++ writeAt st level v ++ writeItems st level rest

/-- Further entries of a dictionary. -/
def writeEntries (st : Style) (level : Nat) : List (String × Value) → Wording
  | [] => ""
  | (k, v) :: rest =>
      st.separator level ++ writeText st.ascii k ++ ": " ++ writeAt st level v
        ++ writeEntries st level rest

end

/-- The document of a value. -/
def write (st : Style) (v : Value) : Wording := writeAt st 0 v

end CodeAudit.Data.Json
