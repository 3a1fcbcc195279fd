/-
  CodeAudit.Site.Html
  ───────────────────
  **PIECES OF HTML.**

  Escaped text, and how a loosely typed value is shown on a page.  A value that
  is not there is shown as nothing.
-/
import CodeAudit.Data.Operations
import CodeAudit.Number.Shortest
import CodeAudit.Text.Case

namespace CodeAudit.Site.Html

open CodeAudit.Data
open CodeAudit.Text (Wording)

/-! ## §1. Text. -/

/-- A character as HTML. -/
def escapeChar (c : Char) : List Char :=
  match c with
  | '&' => "&amp;".toList
  | '<' => "&lt;".toList
  | '>' => "&gt;".toList
  | '"' => "&quot;".toList
  | '\'' => "&#x27;".toList
  | c => [c]

/-- A text as HTML. -/
def escape (s : String) : String := String.ofList (s.toList.flatMap escapeChar)

/-- Lines of HTML. -/
def lines (ls : List String) : String := Text.joinWith "\n" ls

/-- A text as HTML; halves of surrogate pairs stay. -/
def escaped (w : Wording) : Wording := w.mapChars escapeChar

/-- Lines of HTML that shows loosely typed values, and may be torn as they may be. -/
def loosely (ls : List Wording) : Wording := .joinWith "\n" ls

/-- The hidden field that guards a form; its value stands for the visitor's token. -/
def tokenField : String :=
  "<input type=\"hidden\" name=\"csrfmiddlewaretoken\" value=\"TOKEN\">"

/-- How much longer a token is than what stands for it. -/
def tokenExcess : Nat := 64 - "TOKEN".length

/-- The ending of a plural. -/
def plural (n : Nat) : String := if n = 1 then "" else "s"

/-! ## §2. Values. -/

/-- A part of a value: the entry of a dictionary. -/
def part? (v : Value) (key : String) : Option Value :=
  match v with
  | .dict es => Dict.get? es key
  | _ => none

/-- A value as HTML. -/
def shown : Option Value → Wording
  | none => ""
  | some (.real x) => x.plainText
  | some v => escaped v.wording

/-- A value in capitals as HTML. -/
def capitals : Option Value → Wording
  | none => ""
  | some v => escaped (v.wording.mapChars Text.Case.upperChar)

/-- Whether a value is there and counts as true. -/
def holds (v : Option Value) : Bool := (v.map Value.truthy).getD false

/-- The items that a page lists; nothing for what is not there. -/
def listed : Option Value → Except Failure (List Value)
  | none | some .null => .ok []
  | some v => v.items

/-- The two parts of an item that is listed as a pair. -/
def pairOf (v : Value) : Except Failure (Value × Value) :=
  match v.items with
  | .ok [a, b] => .ok (a, b)
  | .ok items => .error (.notPair items.length)
  | .error _ => .error (.notPair 1)

end CodeAudit.Site.Html
