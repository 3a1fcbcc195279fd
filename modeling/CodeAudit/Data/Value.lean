/-
  CodeAudit.Data.Value
  ────────────────────
  **LOOSELY TYPED DATA.**

  Metrics, findings and reports come from outside as well as from the
  analysis, so a field may hold anything that a data file can hold.  `Value`
  is that: null, truth values, whole numbers, floats, texts, lists, and
  dictionaries that keep the order in which their keys were first written.
-/
import CodeAudit.Number.Binary64
import CodeAudit.Text.Wording

namespace CodeAudit.Data

open CodeAudit.Number
open CodeAudit.Text (Torn Wording)

/-! ## §1. Values. -/

/-- A loosely typed value. -/
inductive Value where
  /-- No value. -/
  | null
  /-- A truth value; in arithmetic true is 1 and false is 0. -/
  | bool (b : Bool)
  /-- A whole number of any size. -/
  | int (n : Int)
  /-- A float. -/
  | real (x : Binary64)
  /-- A text. -/
  | text (s : String)
  /-- A text with half of a surrogate pair in it. -/
  | torn (t : Torn)
  /-- A list. -/
  | list (items : List Value)
  /-- A dictionary, as its entries in order of first writing. -/
  | dict (entries : List (String × Value))
  deriving Inhabited

/-- A dictionary. -/
abbrev Dict := List (String × Value)

/-- A text as a value. -/
def Value.ofWording : Wording → Value
  | .whole s => .text s
  | .torn t => .torn t

@[simp] theorem Value.ofWording_eq_text {w : Wording} {s : String} :
    Value.ofWording w = .text s ↔ w = .whole s := by
  cases w <;> simp [Value.ofWording]

instance : Coe String Value := ⟨.text⟩
instance : Coe Int Value := ⟨.int⟩
instance : Coe Nat Value := ⟨fun n => .int n⟩

/-! ## §2. Dictionaries. -/

namespace Dict

/-- The value at a key. -/
def get? (d : Dict) (key : String) : Option Value := d.lookup key

/-- Whether a key is present. -/
def has (d : Dict) (key : String) : Bool := (d.get? key).isSome

/-- Write a value: at the key's place when it is present, else at the end. -/
def put (d : Dict) (key : String) (v : Value) : Dict :=
  match d with
  | [] => [(key, v)]
  | (k, old) :: rest => if k == key then (k, v) :: rest else (k, old) :: put rest key v

/-- Remove a key. -/
def erase (d : Dict) (key : String) : Dict := List.filter (fun entry => entry.1 != key) d

/-- Write all entries of the second dictionary into the first. -/
def merge (d more : Dict) : Dict := more.foldl (fun acc entry => put acc entry.1 entry.2) d

/-- The keys in order. -/
def keys (d : Dict) : List String := d.map (·.1)

/-- What was written last is read back, and other keys are untouched. -/
theorem get?_put (d : Dict) (key other : String) (v : Value) :
    get? (put d key v) other = if other = key then some v else get? d other := by
  induction d with
  | nil =>
      by_cases h : other = key
      · simp [put, get?, h]
      · have hb : (other == key) = false := by simpa using h
        simp [put, get?, List.lookup_cons, hb, h]
  | cons entry rest ih =>
      obtain ⟨k, old⟩ := entry
      by_cases hk : k = key
      · subst hk
        by_cases h : other = k
        · simp [put, get?, h]
        · have hb : (other == k) = false := by simpa using h
          simp [put, get?, List.lookup_cons, hb, h]
      · have hkb : (k == key) = false := by simpa using hk
        by_cases h : other = k
        · subst h
          simp [put, get?, hkb, hk]
        · have hb : (other == k) = false := by simpa using h
          have ih' : List.lookup other (put rest key v)
              = if other = key then some v else List.lookup other rest := ih
          simp [put, get?, List.lookup_cons, hkb, hb, ih']

end Dict

end CodeAudit.Data
