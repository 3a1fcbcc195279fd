/-
  CodeAudit.Data.Failure
  ──────────────────────
  **WHY AN OPERATION ON LOOSELY TYPED DATA FAILS.**

  Every failure is a cause with the kinds of values involved; its class and
  its wording follow from the cause alone (`Failure.kind`, `Failure.message`).
-/
import CodeAudit.Data.Value
import CodeAudit.Text.Quoted

namespace CodeAudit.Data

/-! ## §1. Kinds of values. -/

/-- The name of the kind of a value, as messages give it. -/
def Value.kindName : Value → String
  | .null => "NoneType"
  | .bool _ => "bool"
  | .int _ => "int"
  | .real _ => "float"
  | .text _ | .torn _ => "str"
  | .list _ => "list"
  | .dict _ => "dict"

/-! ## §2. Failures. -/

/-- Why an operation failed. -/
inductive Failure where
  /-- A dictionary lacks a key. -/
  | missingKey (key : String)
  /-- Two kinds of values have no order. -/
  | noOrder (operator left right : String)
  /-- Two kinds of values cannot be combined. -/
  | noOperation (operator left right : String)
  /-- A kind that only joins with itself met another one. -/
  | noJoin (kind other : String)
  /-- A value without fields was asked for one. -/
  | noFields (kind : String)
  /-- A text was asked for a field. -/
  | textField
  /-- A list was asked for a field. -/
  | listField
  /-- A value without items was asked for them. -/
  | noItems (kind : String)
  /-- A value without items was searched. -/
  | noMembers (kind : String)
  /-- A value has no such method. -/
  | noMethod (kind method : String)
  /-- A value has no length. -/
  | noLength (kind : String)
  /-- A text was expected among joined texts. -/
  | notText (position : Nat) (kind : String)
  /-- A list has no item at the position asked for. -/
  | beyondEnd
  /-- Division of whole numbers by zero. -/
  | zeroDivisor
  /-- Division of floats by zero. -/
  | zeroFloatDivisor
  /-- The quotient of whole numbers is beyond the floats. -/
  | quotientTooLarge
  /-- A whole number is beyond the floats. -/
  | wholeTooLarge
  /-- A cut needs whole numbers. -/
  | badCut
  /-- A value cannot be a key. -/
  | noKey (kind : String)
  /-- A list of pairs was expected and an item has another length. -/
  | unpack (wanted got : Nat)
  /-- A page lists pairs and an item has another length. -/
  | notPair (got : Nat)
  /-- A service broke down. -/
  | brokenDown (reason : String)
  deriving DecidableEq, Repr

namespace Failure

/-- The class of a failure. -/
def kind : Failure → String
  | .missingKey _ => "KeyError"
  | .noMethod _ _ => "AttributeError"
  | .beyondEnd => "IndexError"
  | .zeroDivisor | .zeroFloatDivisor => "ZeroDivisionError"
  | .quotientTooLarge | .wholeTooLarge => "OverflowError"
  | .unpack _ _ | .notPair _ => "ValueError"
  | .brokenDown _ => "Exception"
  | _ => "TypeError"

/-- The wording of a failure. -/
def message : Failure → String
  | .missingKey key => Text.quoted key
  | .noOrder op l r =>
      "'" ++ op ++ "' not supported between instances of '" ++ l ++ "' and '" ++ r ++ "'"
  | .noOperation op l r =>
      "unsupported operand type(s) for " ++ op ++ ": '" ++ l ++ "' and '" ++ r ++ "'"
  | .noJoin k other => "can only concatenate " ++ k ++ " (not \"" ++ other ++ "\") to " ++ k
  | .noFields k => "'" ++ k ++ "' object is not subscriptable"
  | .textField => "string indices must be integers, not 'str'"
  | .listField => "list indices must be integers or slices, not str"
  | .noItems k => "'" ++ k ++ "' object is not iterable"
  | .noMembers k => "argument of type '" ++ k ++ "' is not iterable"
  | .noMethod k m => "'" ++ k ++ "' object has no attribute '" ++ m ++ "'"
  | .noLength k => "object of type '" ++ k ++ "' has no len()"
  | .notText i k =>
      "sequence item " ++ toString i ++ ": expected str instance, " ++ k ++ " found"
  | .beyondEnd => "list index out of range"
  | .zeroDivisor => "division by zero"
  | .zeroFloatDivisor => "float division by zero"
  | .quotientTooLarge => "integer division result too large for a float"
  | .wholeTooLarge => "int too large to convert to float"
  | .badCut => "slice indices must be integers or None or have an __index__ method"
  | .noKey k => "unhashable type: '" ++ k ++ "'"
  | .unpack wanted got =>
      if wanted < got then "too many values to unpack (expected " ++ toString wanted ++ ")"
      else "not enough values to unpack (expected " ++ toString wanted ++ ", got "
        ++ toString got ++ ")"
  | .notPair got => "Need 2 values to unpack in for loop; got " ++ toString got ++ ". "
  | .brokenDown reason => reason

end Failure

end CodeAudit.Data
