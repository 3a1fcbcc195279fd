/-
  CodeAudit.Site.Paging
  ─────────────────────
  **LISTS IN PAGES.**

  A long list is shown in pages of ten.  A page is asked for by a text: what
  is no number asks for the first page, a number that no page has for the
  last one.
-/
import CodeAudit.Text.Classes
import CodeAudit.Text.Blank

namespace CodeAudit.Site

/-! ## §1. Numbers. -/

/-- The digits of a whole number: single underscores may stand between them. -/
def wholeDigits? : List Char → Option (List Nat)
  | [] => none
  | [c] => (Text.digitValue? c).map ([·])
  | c :: '_' :: rest => do return (← Text.digitValue? c) :: (← wholeDigits? rest)
  | c :: rest => do return (← Text.digitValue? c) :: (← wholeDigits? rest)

/-- The most digits that a number may have. -/
def numberLimit : Nat := 4300

/-- The number that digits spell, unless there are too many of them. -/
def natOfText? (cs : List Char) : Option Nat := do
  let digits ← wholeDigits? cs
  if numberLimit < digits.length then none
  else return digits.foldl (10 * · + ·) 0

/-- The whole number that a text spells; blanks around it do not count. -/
def intOfText? (text : String) : Option Int :=
  match Text.trim text.toList with
  | '-' :: cs => (natOfText? cs).map fun n => -(n : Int)
  | '+' :: cs => (natOfText? cs).map fun n => (n : Int)
  | cs => (natOfText? cs).map fun n => (n : Int)

/-! ## §2. Pages. -/

/-- The length of a page. -/
def pageSize : Nat := 10

/-- The number of pages; an empty list has one. -/
def pageCount (length : Nat) : Nat := max 1 ((length + (pageSize - 1)) / pageSize)

/-- The page that is shown for the one asked for. -/
def shownPage (pages : Nat) (asked : Option String) : Nat :=
  match asked.bind intOfText? with
  | none => 1
  | some n => if 1 ≤ n ∧ n ≤ pages then n.toNat else pages

/-- One page of a list. -/
structure Slice (α : Type) where
  items : List α
  /-- The length of the whole list. -/
  total : Nat
  /-- The number of this page. -/
  page : Nat
  /-- The number of pages. -/
  pages : Nat

/-- The page of a list that was asked for. -/
def Slice.of {α : Type} (list : List α) (asked : Option String) : Slice α :=
  let pages := pageCount list.length
  let page := shownPage pages asked
  ⟨(list.drop (pageSize * (page - 1))).take pageSize, list.length, page, pages⟩

/-- Whether a page comes before this one. -/
def Slice.hasPrevious {α : Type} (s : Slice α) : Bool := 1 < s.page

/-- Whether a page comes after this one. -/
def Slice.hasNext {α : Type} (s : Slice α) : Bool := s.page < s.pages

end CodeAudit.Site
