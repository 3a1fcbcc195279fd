/-
  CodeAudit.Text.Ranges
  ─────────────────────
  **TABLES OF CODE POINTS.**

  A property of characters is written as a list of code points and ranges in
  hexadecimal, `41-5A 5F 61-7A`, in increasing order.  This file reads such
  lists and looks a code point up by halving.
-/

namespace CodeAudit.Text

/-! ## §1. Reading a table. -/

/-- The value of a hexadecimal digit; any other character counts as zero. -/
def hexDigit (c : Char) : Nat :=
  if '0' ≤ c ∧ c ≤ '9' then c.toNat - '0'.toNat
  else if 'A' ≤ c ∧ c ≤ 'F' then c.toNat - 'A'.toNat + 10
  else if 'a' ≤ c ∧ c ≤ 'f' then c.toNat - 'a'.toNat + 10
  else 0

/-- The number written in hexadecimal digits. -/
def hexNumber (digits : String) : Nat :=
  digits.toList.foldl (fun n c => 16 * n + hexDigit c) 0

/-- The signed number written as a sign and hexadecimal digits. -/
def hexOffset (written : String) : Int :=
  match written.toList with
  | '-' :: rest => -(hexNumber (String.ofList rest) : Int)
  | '+' :: rest => hexNumber (String.ofList rest)
  | rest => hexNumber (String.ofList rest)

/-- A closed range of code points with what the table says about it. -/
structure Span (α : Type) where
  first : Nat
  last : Nat
  info : α

/-- The range written `41-5A`, or `5F` for a single code point. -/
def Span.read {α : Type} (info : α) (written : String) : Span α :=
  match written.splitOn "-" with
  | [a, b] => ⟨hexNumber a, hexNumber b, info⟩
  | _ => ⟨hexNumber written, hexNumber written, info⟩

/-- The entries of a table: the words of all its lines. -/
def entries (table : List String) : List String := table.flatMap (·.splitOn " ")

/-- The ranges of a table that says nothing but membership. -/
def readRanges (table : List String) : Array (Span Unit) :=
  ((entries table).map (Span.read ())).toArray

/-! ## §2. Looking a code point up. -/

/-- The entry whose range holds `c`, among the entries from `low` up to but
not including `low + width`, which are in increasing order. -/
def findSpan {α : Type} (spans : Array (Span α)) (c : Nat) (low width : Nat) :
    Option (Span α) :=
  if width = 0 then none
  else
    let middle := low + width / 2
    match spans[middle]? with
    | none => none
    | some s =>
        if c < s.first then findSpan spans c low (width / 2)
        else if s.last < c then findSpan spans c (middle + 1) (width - width / 2 - 1)
        else some s
termination_by width
decreasing_by all_goals omega

/-- The entry that holds a code point. -/
def lookup {α : Type} (spans : Array (Span α)) (c : Nat) : Option (Span α) :=
  findSpan spans c 0 spans.size

/-- Whether a table of ranges holds a code point. -/
def covers (spans : Array (Span Unit)) (c : Nat) : Bool := (lookup spans c).isSome

end CodeAudit.Text
