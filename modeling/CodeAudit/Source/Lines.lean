/-
  CodeAudit.Source.Lines
  ──────────────────────
  **COUNTING LINES AND COMMENTS.**

  A text is cut into stripped lines and the lines into runs: a run is the
  shortest number of lines after which no bracket, no literal and no
  continuation is open.  Indentation plays no role and the text need not be a
  module.  A text whose last run does not end is refused, with the line on
  which that run starts.
-/
import CodeAudit.Text.Blank
import CodeAudit.Text.Classes

namespace CodeAudit.Source.Lines

open CodeAudit.Text

/-! ## §1. The state between two lines. -/

/-- A literal that is open at the end of a line. -/
structure OpenLiteral where
  quote : Char
  /-- Whether its quotes are tripled. -/
  triple : Bool

/-- What is open after the lines of a run so far. -/
structure Progress where
  /-- Opened less closed brackets. -/
  depth : Int
  /-- Whether the last line ended in a continuation. -/
  continued : Bool
  literal : Option OpenLiteral
  /-- The comments so far. -/
  comments : Nat

/-- Nothing is open. -/
def Progress.start : Progress := ⟨0, false, none, 0⟩

/-- Whether a run may end here. -/
def Progress.closed (p : Progress) : Bool := p.depth == 0 && !p.continued && p.literal.isNone

/-! ## §2. Literals. -/

/-- What follows the tripled closing quotes on a line. -/
def afterTriple (q : Char) : List Char → Option (List Char)
  | [] => none
  | ['\\'] => none
  | '\\' :: c :: rest => if c == '\n' then none else afterTriple q rest
  | c :: rest => if c == q && startsWith [q, q] rest then some (rest.drop 2) else afterTriple q rest

/-- What follows the closing quote on a further line of a literal. -/
def afterSingle (q : Char) : List Char → Option (List Char)
  | [] => none
  | ['\\'] => none
  | '\\' :: c :: rest => if c == '\n' then none else afterSingle q rest
  | c :: rest => if c == q then some rest else afterSingle q rest

/-- How a literal that has just been opened goes on. -/
inductive Opened where
  /-- It is closed on its line. -/
  | closed (rest : List Char)
  /-- A backslash at the end of the line carries it on. -/
  | carried
  /-- It does not end on its line. -/
  | broken

/-- How a literal in single quotes goes on. -/
def opened (q : Char) : List Char → Opened
  | [] => .broken
  | ['\\'] => .broken
  | '\\' :: c :: rest => if c == '\n' then .carried else opened q rest
  | c :: rest => if c == q then .closed rest else if c == '\n' then .broken else opened q rest

/-- Whether a line ends in a backslash before its line feed. -/
def endsCarried (cs : List Char) : Bool :=
  match cs.reverse with
  | '\n' :: '\\' :: _ => true
  | _ => false

/-! ## §3. One line. -/

/-- Operators of one character, brackets apart. -/
def isOperator (c : Char) : Bool := "%&*+,-./:;<=>@^|~".toList.contains c

/-- Scan the rest of a line; none when a character fits nowhere.  The first
number bounds the steps. -/
def scan : Nat → Progress → List Char → Option Progress
  | 0, _, _ => none
  | _ + 1, p, [] => some p
  | fuel + 1, p, c :: rest =>
      if c == ' ' || c == '\t' || c == '\x0c' || c == '\n' then scan fuel p rest
      else if c == '\\' then
        if rest == ['\n'] then some { p with continued := true } else none
      else if c == '#' then some { p with comments := p.comments + 1 }
      else if c == '\'' || c == '"' then
        if startsWith [c, c] rest then
          match afterTriple c (rest.drop 2) with
          | some rest => scan fuel p rest
          | none => some { p with literal := some ⟨c, true⟩ }
        else
          match opened c rest with
          | .closed rest => scan fuel p rest
          | .carried => some { p with literal := some ⟨c, false⟩ }
          | .broken => none
      else if c == '(' || c == '[' || c == '\x7b' then scan fuel { p with depth := p.depth + 1 } rest
      else if c == ')' || c == ']' || c == '\x7d' then scan fuel { p with depth := p.depth - 1 } rest
      else if c == '!' then
        match rest with
        | '=' :: rest => scan fuel p rest
        | _ => none
      else if isOperator c || isWord c then scan fuel p rest
      else none

/-- Scan a whole line, with its line feed if it has one. -/
def line (p : Progress) (cs : List Char) : Option Progress :=
  let fresh := { p with continued := false, literal := none }
  match p.literal with
  | none => scan (cs.length + 1) fresh cs
  | some l =>
      if l.triple then
        match afterTriple l.quote cs with
        | some rest => scan (cs.length + 1) fresh rest
        | none => some p
      else
        match afterSingle l.quote cs with
        | some rest => scan (cs.length + 1) fresh rest
        | none => if endsCarried cs then some p else none

/-- The state at the end of a run whose last line is `cs`; an empty last line
is no line. -/
def last (p : Progress) (cs : List Char) : Option Progress :=
  if cs.isEmpty then some p else line p cs

/-! ## §4. Whole texts. -/

/-- The run that is under way: its first line, and what is open; none when it
can no longer end. -/
structure Run where
  first : Nat
  progress : Option Progress

/-- Number of lines and of comments. -/
structure Count where
  lines : Nat
  comments : Nat
  deriving DecidableEq, Repr

/-- The comments of the lines from `number` on, given the run under way. -/
def comments (number : Nat) (run : Option Run) : List (List Char) → Except Nat Nat
  | [] =>
      match run with
      | none => .ok 0
      | some r => .error r.first
  | cs :: rest =>
      let r := run.getD ⟨number, some .start⟩
      match r.progress with
      | none => .error r.first
      | some p =>
          match (last p cs).filter Progress.closed with
          | some p => (comments (number + 1) none rest).map (p.comments + ·)
          | none => comments (number + 1) (some ⟨r.first, line p (cs ++ ['\n'])⟩) rest

/-- Count the lines and comments of a text; the error is the line on which the
last run starts. -/
def count (text : List Char) : Except Nat Count :=
  let lines := (separatedLines text).map trim
  (comments 1 none lines).map fun n => ⟨lines.length, n⟩

/-- The wording for a text whose run from a line on does not end. -/
def unfinished (line : Nat) : String := "SyntaxError at line: " ++ toString line

end CodeAudit.Source.Lines
