/-
  CodeAudit.Data.Operations
  ─────────────────────────
  **OPERATIONS ON LOOSELY TYPED DATA.**

  Reading fields, comparing, adding, dividing and writing values.  Each
  operation succeeds on the kinds it is made for and otherwise fails with the
  cause (`Failure`).  Whole numbers and floats mix: comparison is exact, and
  a whole number joins float arithmetic as the nearest float.
-/
import CodeAudit.Data.Failure
import CodeAudit.Number.Shortest
import CodeAudit.Text.Blank
import CodeAudit.Text.Case

namespace CodeAudit.Data

open CodeAudit.Number
open CodeAudit.Text (Wording)

namespace Value

/-! ## §1. Texts and numbers. -/

/-- The text that a value is. -/
def wording? : Value → Option Wording
  | .text s => some (.whole s)
  | .torn t => some (.torn t)
  | _ => none

/-- A number: whole or float. -/
inductive Numeral where
  | whole (n : Int)
  | float (x : Binary64)

/-- The number that a value stands for; a truth value is one too. -/
def numeral? : Value → Option Numeral
  | .bool b => some (.whole (if b then 1 else 0))
  | .int n => some (.whole n)
  | .real x => some (.float x)
  | _ => none

namespace Numeral

/-- The place of a number on the line. -/
def place? : Numeral → Option Binary64.Place
  | .whole n => some (.at (.ofInt n))
  | .float x => x.place?

/-- Strictly smaller; nothing is smaller or greater than what is no number. -/
def lt (a b : Numeral) : Bool :=
  match a.place?, b.place? with
  | some p, some q => p.lt q
  | _, _ => false

/-- Equal as numbers. -/
def eq (a b : Numeral) : Bool :=
  match a.place?, b.place? with
  | some p, some q => p.eq q
  | _, _ => false

/-- As a float; a whole number beyond the floats fails. -/
def toFloat : Numeral → Except Failure Binary64
  | .whole n =>
      match Binary64.ofInt n with
      | .infinite _ => .error .wholeTooLarge
      | x => .ok x
  | .float x => .ok x

/-- The value of a number. -/
def value : Numeral → Value
  | .whole n => .int n
  | .float x => .real x

/-- The sum. -/
def add : Numeral → Numeral → Except Failure Numeral
  | .whole a, .whole b => .ok (.whole (a + b))
  | a, b => do
      let x ← a.toFloat
      let y ← b.toFloat
      .ok (.float (x.add y))

/-- The quotient, always a float. -/
def div : Numeral → Numeral → Except Failure Binary64
  | .whole a, .whole b =>
      if b = 0 then .error .zeroDivisor
      else
        match Binary64.ofFraction (decide (a < 0) != decide (b < 0)) a.natAbs b.natAbs with
        | .infinite _ => .error .quotientTooLarge
        | x => .ok x
  | a, b => do
      let x ← a.toFloat
      let y ← b.toFloat
      match x.div y with
      | some q => .ok q
      | none => .error .zeroFloatDivisor

end Numeral

/-! ## §2. Comparison and arithmetic. -/

/-- Whether a value is greater than a whole number. -/
def above (v : Value) (bound : Int) : Except Failure Bool :=
  match v.numeral? with
  | some a => .ok (Numeral.lt (.whole bound) a)
  | none => .error (.noOrder ">" v.kindName "int")

/-- Whether a value is smaller than a whole number. -/
def under (v : Value) (bound : Int) : Except Failure Bool :=
  match v.numeral? with
  | some a => .ok (a.lt (.whole bound))
  | none => .error (.noOrder "<" v.kindName "int")

/-- Whether a value is a number equal to a whole number. -/
def equals (v : Value) (n : Int) : Bool :=
  match v.numeral? with
  | some a => a.eq (.whole n)
  | none => false

/-- The sum of numbers, or two texts or two lists joined. -/
def add (a b : Value) : Except Failure Value :=
  match a, b with
  | .list xs, .list ys => .ok (.list (xs ++ ys))
  | .list _, _ => .error (.noJoin "list" b.kindName)
  | _, _ =>
      match a.wording?, b.wording? with
      | some v, some w => .ok (.ofWording (v ++ w))
      | some _, none => .error (.noJoin "str" b.kindName)
      | none, _ =>
          match a.numeral?, b.numeral? with
          | some x, some y => (x.add y).map (·.value)
          | _, _ => .error (.noOperation "+" a.kindName b.kindName)

/-- The sum when both are whole, which is what counting needs. -/
@[simp] theorem add_int (a b : Int) : add (.int a) (.int b) = .ok (.int (a + b)) := rfl

/-- The quotient of two numbers. -/
def divide (a b : Value) : Except Failure Binary64 :=
  match a.numeral?, b.numeral? with
  | some x, some y => x.div y
  | _, _ => .error (.noOperation "/" a.kindName b.kindName)

/-! ## §3. Truth. -/

/-- Whether a value counts as true: not null, false, zero or empty. -/
def truthy : Value → Bool
  | .null => false
  | .bool b => b
  | .int n => n != 0
  | .real x => !x.isZero
  | .text s => !s.isEmpty
  | .torn _ => true
  | .list xs => !xs.isEmpty
  | .dict es => !es.isEmpty

/-! ## §4. Fields and items. -/

/-- The field of a dictionary. -/
def field (v : Value) (key : String) : Except Failure Value :=
  match v with
  | .dict es =>
      match Dict.get? es key with
      | some x => .ok x
      | none => .error (.missingKey key)
  | .text _ | .torn _ => .error .textField
  | .list _ => .error .listField
  | _ => .error (.noFields v.kindName)

/-- The field of a dictionary, or a default when the key is absent. -/
def fieldOr (v : Value) (key : String) (default : Value) : Except Failure Value :=
  match v with
  | .dict es => .ok ((Dict.get? es key).getD default)
  | _ => .error (.noMethod v.kindName "get")

/-- The entries of a dictionary. -/
def entries (v : Value) : Except Failure Dict :=
  match v with
  | .dict es => .ok es
  | _ => .error (.noMethod v.kindName "items")

/-- The items that a loop over a value visits: the items of a list, the
characters of a text, the keys of a dictionary. -/
def items (v : Value) : Except Failure (List Value) :=
  match v with
  | .list xs => .ok xs
  | .text s => .ok (s.toList.map fun c => .text (String.singleton c))
  | .torn t => .ok (t.signs.map fun s => .ofWording (.ofSigns [s]))
  | .dict es => .ok (es.map fun e => .text e.1)
  | _ => .error (.noItems v.kindName)

/-- The number of items. -/
def length (v : Value) : Except Failure Nat :=
  match v with
  | .list xs => .ok xs.length
  | .text s => .ok s.length
  | .torn t => .ok t.signs.length
  | .dict es => .ok es.length
  | _ => .error (.noLength v.kindName)

/-- Whether a value is the given text. -/
def isText (v : Value) (s : String) : Bool :=
  match v with
  | .text t => t == s
  | _ => false

/-- Whether a text is a key of a dictionary, an item of a list, or a part of
a text. -/
def contains (v : Value) (s : String) : Except Failure Bool :=
  match v with
  | .dict es => .ok (Dict.has es s)
  | .list xs => .ok (xs.any (·.isText s))
  | .text t => .ok (Text.occursIn s.toList t.toList)
  | .torn t => .ok (Text.occursIn (Wording.whole s).signs t.signs)
  | _ => .error (.noMembers v.kindName)

/-! ## §5. Writing values. -/

mutual

/-- A value as it stands inside a list or a dictionary. -/
def inspect : Value → String
  | .null => "None"
  | .bool b => if b then "True" else "False"
  | .int n => toString n
  | .real x => x.text
  | .text s => Text.quoted s
  | .torn t => t.quoted
  | .list [] => "[]"
  | .list (v :: rest) => "[" ++ inspect v ++ inspectItems rest ++ "]"
  | .dict [] => "\x7b\x7d"
  | .dict ((k, v) :: rest) =>
      "\x7b" ++ Text.quoted k ++ ": " ++ inspect v ++ inspectEntries rest ++ "\x7d"

/-- Further items of a list. -/
def inspectItems : List Value → String
  | [] => ""
  | v :: rest => ", " ++ inspect v ++ inspectItems rest

/-- Further entries of a dictionary. -/
def inspectEntries : List (String × Value) → String
  | [] => ""
  | (k, v) :: rest => ", " ++ Text.quoted k ++ ": " ++ inspect v ++ inspectEntries rest

end

/-- A value as it stands in a sentence: a text without quotes. -/
def wording (v : Value) : Wording := v.wording?.getD v.inspect

/-- A value as it stands in a sentence, with a character in the place of every
half of a surrogate pair. -/
def display (v : Value) : String := v.wording.shown

@[simp] theorem display_text (s : String) : (Value.text s).display = s := rfl

/-- A text in capital letters; other values have none. -/
def capitals (v : Value) : Except Failure String :=
  match v.wording? with
  | some w => .ok (Text.upper w.shown)
  | none => .error (.noMethod v.kindName "upper")

end Value

/-- Lines joined by line feeds; each has to be a text. -/
def joinLines (lines : List Value) : Except Failure String :=
  (go 0 lines).map (Text.joinWith "\n")
where
  /-- The texts from position `i` on. -/
  go (i : Nat) : List Value → Except Failure (List String)
    | [] => .ok []
    | v :: rest =>
        match v.wording? with
        | some w => (go (i + 1) rest).map (w.shown :: ·)
        | none => .error (.notText i v.kindName)

end CodeAudit.Data
