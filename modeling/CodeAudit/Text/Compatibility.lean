/-
  CodeAudit.Text.Compatibility
  ────────────────────────────
  **THE COMPOSED COMPATIBILITY FORM.**

  Two spellings of a name count as the same name when their composed
  compatibility forms agree: characters are decomposed, marks are put in the
  order of their combining classes, and what can be composed is composed.
  ASCII text is its own form.
-/
import CodeAudit.Text.Case
import CodeAudit.Text.Compatibility.Table

namespace CodeAudit.Text

namespace Compatibility

/-! ## §1. The tables. -/

/-- The entry written `FF41-FF5A:-FEE0`. -/
def readOffset (written : String) : Option (Span Int) :=
  match written.splitOn ":" with
  | [ends, offset] => some (Span.read (hexOffset offset) ends)
  | _ => none

/-- The entry written `41,300=C0`: a pair and what it composes to. -/
def readPair (written : String) : Option (Nat × Nat × Nat) :=
  match written.splitOn "=" with
  | [pair, composed] =>
      match pair.splitOn "," with
      | [a, b] => some (hexNumber a, hexNumber b, hexNumber composed)
      | _ => none
  | _ => none

/-- Pairs in increasing order, grouped by their first member. -/
def group : List (Nat × Nat × Nat) → List (Span (List (Nat × Nat)))
  | [] => []
  | (a, b, c) :: rest =>
      match group rest with
      | s :: more =>
          if s.first = a then { s with info := (b, c) :: s.info } :: more
          else ⟨a, a, [(b, c)]⟩ :: s :: more
      | [] => [⟨a, a, [(b, c)]⟩]

private def singleRuns : Array (Span Int) :=
  ((entries Table.single).filterMap readOffset).toArray
private def severalEntries : Array (Span (List Char)) :=
  ((entries Table.several).filterMap Case.readMany).toArray
private def classRuns : Array (Span Int) :=
  ((entries Table.classes).filterMap readOffset).toArray
private def pairGroups : Array (Span (List (Nat × Nat))) :=
  (group ((entries Table.pairs).filterMap readPair)).toArray

/-! ## §2. Decomposition. -/

/-- The letters of a Hangul syllable: an initial, a vowel and maybe a final. -/
def hangulLetters (n : Nat) : List Char :=
  let index := n - 0xAC00
  let initial := 0x1100 + index / 588
  let vowel := 0x1161 + index % 588 / 28
  let final := index % 28
  if final = 0 then [Char.ofNat initial, Char.ofNat vowel]
  else [Char.ofNat initial, Char.ofNat vowel, Char.ofNat (0x11A7 + final)]

/-- The full compatibility decomposition of a character. -/
def decompose (c : Char) : List Char :=
  let n := c.toNat
  if n < 0x80 then [c]
  else if 0xAC00 ≤ n ∧ n ≤ 0xD7A3 then hangulLetters n
  else match lookup severalEntries n with
    | some s => s.info
    | none =>
        match lookup singleRuns n with
        | some s => [Char.ofNat ((n : Int) + s.info).toNat]
        | none => [c]

/-- The combining class of a character; zero for one that combines with none. -/
def combiningClass (c : Char) : Nat :=
  if c.toNat < 0x300 then 0
  else match lookup classRuns c.toNat with
    | some s => s.info.toNat
    | none => 0

/-! ## §3. The order of marks. -/

/-- Put a mark into a run of marks after all of its own or a lower class. -/
def insertMark (mark : Char) : List Char → List Char
  | [] => [mark]
  | c :: rest =>
      if combiningClass mark < combiningClass c then mark :: c :: rest
      else c :: insertMark mark rest

/-- Sort every run of marks by class, keeping equal classes in order. -/
def orderMarks (cs : List Char) : List Char := go [] cs
where
  /-- `marks` is the sorted run of marks so far. -/
  go (marks : List Char) : List Char → List Char
    | [] => marks
    | c :: rest =>
        if combiningClass c = 0 then marks ++ c :: go [] rest
        else go (insertMark c marks) rest

/-! ## §4. Composition. -/

/-- What two characters compose to. -/
def composePair (a b : Char) : Option Char :=
  let m := a.toNat
  let n := b.toNat
  if 0x1100 ≤ m ∧ m < 0x1113 ∧ 0x1161 ≤ n ∧ n < 0x1176 then
    some (Char.ofNat (0xAC00 + (m - 0x1100) * 588 + (n - 0x1161) * 28))
  else if 0xAC00 ≤ m ∧ m ≤ 0xD7A3 ∧ (m - 0xAC00) % 28 = 0 ∧ 0x11A8 ≤ n ∧ n < 0x11C3 then
    some (Char.ofNat (m + (n - 0x11A7)))
  else match lookup pairGroups m with
    | some s => (s.info.lookup n).map Char.ofNat
    | none => none

/-- Compose a decomposed, ordered text.  `starter` is the last character of
class zero, `marks` the characters after it that did not compose with it,
last first, and `barrier` the class of the last of those. -/
def composeFrom (starter : Char) (marks : List Char) (barrier : Option Nat) :
    List Char → List Char
  | [] => starter :: marks.reverse
  | c :: rest =>
      let k := combiningClass c
      let free := match barrier with
        | none => true
        | some b => b < k && k != 0
      let composed := if free then composePair starter c else none
      match composed with
      | some joined => composeFrom joined marks barrier rest
      | none =>
          if k = 0 then starter :: (marks.reverse ++ composeFrom c [] none rest)
          else composeFrom starter (c :: marks) (some k) rest

/-- Compose a decomposed, ordered text. -/
def compose : List Char → List Char
  | [] => []
  | c :: rest =>
      if combiningClass c = 0 then composeFrom c [] none rest
      else c :: compose rest

/-- The composed compatibility form of characters. -/
def normalize (cs : List Char) : List Char :=
  if cs.all (·.toNat < 0x80) then cs
  else compose (orderMarks (cs.flatMap decompose))

end Compatibility

/-- The composed compatibility form of a text. -/
def compatible (s : String) : String := String.ofList (Compatibility.normalize s.toList)

end CodeAudit.Text
