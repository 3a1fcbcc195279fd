/-
  CodeAudit.Source.Token.Scan
  ───────────────────────────
  **FROM TEXT TO TOKENS.**

  `scan` reads a text whose lines all end in a line feed.  Every step takes at
  least one character, so the length of the text bounds the steps.  Where the
  text stops being tokens the scan ends with a `Break`.

  Indentation is measured twice, with tabs to columns of eight and of one; the
  two measures have to agree on every comparison.
-/
import CodeAudit.Source.Token
import CodeAudit.Text.Blank
import CodeAudit.Text.Classes
import CodeAudit.Text.Compatibility

namespace CodeAudit.Source.Token

open CodeAudit.Text

/-! ## §1. Pieces of a token. -/

/-- May start a name as far as scanning goes: all characters beyond ASCII may,
and are checked once the name is complete. -/
def opensName (c : Char) : Bool := isAsciiLetter c || c == '_' || 0x80 ≤ c.toNat

/-- May continue a name as far as scanning goes. -/
def extendsName (c : Char) : Bool := opensName c || isAsciiDigit c

/-- A complete name. -/
def isName : List Char → Bool
  | [] => false
  | c :: rest => isNameStart c && rest.all isNameRest

/-- The length of the letters before a quote, when these letters open a
literal: at most one of `b`, `u`, `f`, with `r` beside `b` or `f` only. -/
def literalLetters (cs : List Char) : Option Nat := go [] cs 0
where
  /-- `seen` holds the letters so far, in small form. -/
  go (seen : List Char) : List Char → Nat → Option Nat
    | [], _ => none
    | c :: rest, n =>
        if c == '"' || c == '\'' then some n
        else
          let small := c.toLower
          let fits :=
            if small == 'b' || small == 'f' then seen.isEmpty || seen == ['r']
            else if small == 'u' then seen.isEmpty
            else if small == 'r' then seen.isEmpty || seen == ['b'] || seen == ['f']
            else false
          if fits then go (small :: seen) rest (n + 1) else none

/-! ## §2. Numbers. -/

/-- What follows digits with single underscores between them; none when an
underscore is not followed by a digit. -/
def afterDigits (ok : Char → Bool) : List Char → Option (List Char)
  | [] => some []
  | c :: rest =>
      if ok c then afterDigits ok rest
      else if c == '_' then
        match rest with
        | d :: more => if ok d then afterDigits ok more else none
        | [] => none
      else some (c :: rest)

/-- Words that may follow a number without a blank. -/
def numberFollowers : List (List Char) :=
  [['a', 'n', 'd'], ['e', 'l', 's', 'e'], ['f', 'o', 'r'], ['i', 'f'], ['i', 'n'], ['i', 's'],
   ['o', 'r'], ['n', 'o', 't']]

/-- A number may end here. -/
def endsNumber (rest : List Char) : Bool :=
  numberFollowers.any (startsWith · rest) || !(rest.head?.any extendsName)

/-- The rest, provided the number may end there. -/
def closed (rest : List Char) : Option (List Char) := if endsNumber rest then some rest else none

/-- What follows the mark of an imaginary number, if one stands here. -/
def afterImaginary (rest : List Char) : Option (List Char) :=
  match rest with
  | 'j' :: more | 'J' :: more => closed more
  | _ => closed rest

/-- What follows an exponent, if one stands here, and the rest of a number.
An `e` that starts a word ends the number. -/
def afterExponent (rest : List Char) : Option (List Char) :=
  match rest with
  | e :: more =>
      if e == 'e' || e == 'E' then
        match more with
        | '+' :: d :: r | '-' :: d :: r =>
            if isAsciiDigit d then (afterDigits isAsciiDigit r).bind afterImaginary else none
        | ['+'] | ['-'] => none
        | d :: r =>
            if isAsciiDigit d then (afterDigits isAsciiDigit r).bind afterImaginary
            else closed rest
        | [] => closed rest
      else afterImaginary rest
  | [] => some []

/-- What follows the digits after a point and the rest of a number. -/
def afterFraction (rest : List Char) : Option (List Char) :=
  match rest with
  | d :: more =>
      if isAsciiDigit d then (afterDigits isAsciiDigit more).bind afterExponent
      else afterExponent rest
  | [] => some []

/-- What follows a number with a base: at least one digit of that base. -/
def afterBased (ok : Char → Bool) (rest : List Char) : Option (List Char) :=
  match rest with
  | c :: _ =>
      if ok c || c == '_' then
        (afterDigits ok rest).bind fun r =>
          if r.head?.any isAsciiDigit then none else closed r
      else none
  | [] => none

/-- What follows a decimal number whose first digit is the first character.
A whole number with a leading zero is nothing but zeros. -/
def afterDecimal (cs : List Char) : Option (List Char) :=
  (afterDigits isAsciiDigit cs).bind fun rest =>
    let digits := cs.take (cs.length - rest.length)
    let padded := digits.head? == some '0' && digits.any fun c => c != '0' && c != '_'
    match rest with
    | '.' :: more => afterFraction more
    | 'e' :: _ | 'E' :: _ => afterExponent rest
    | 'j' :: _ | 'J' :: _ => afterImaginary rest
    | _ => if padded then none else closed rest

/-- What follows a number at the front; none when it is malformed. -/
def afterNumber (cs : List Char) : Option (List Char) :=
  match cs with
  | '.' :: rest => afterFraction rest
  | '0' :: 'x' :: rest | '0' :: 'X' :: rest => afterBased isHexDigit rest
  | '0' :: 'o' :: rest | '0' :: 'O' :: rest => afterBased (fun c => '0' ≤ c && c ≤ '7') rest
  | '0' :: 'b' :: rest | '0' :: 'B' :: rest => afterBased (fun c => c == '0' || c == '1') rest
  | _ => afterDecimal cs

/-! ## §3. Literals. -/

/-- The line after a character: a line feed starts a new line unless the text
ends there. -/
def nextLine (c : Char) (rest : List Char) (line : Nat) : Nat :=
  if c == '\n' && !rest.isEmpty then line + 1 else line

/-- The body of a literal up to and including its closing quotes, and the line
on which it ends; `seen` is what came before, last first.  None when the
quotes never close. -/
def literalBody (quote : Char) (triple : Bool) (seen : List Char) (line : Nat) :
    List Char → Option (List Char × List Char × Nat)
  | [] => none
  | '\\' :: c :: rest =>
      literalBody quote triple (c :: '\\' :: seen) (nextLine c rest line) rest
  | ['\\'] => none
  | c :: rest =>
      if c == quote then
        if triple then
          match rest with
          | a :: b :: more =>
              if a == quote && b == quote then some (b :: a :: c :: seen, more, line)
              else literalBody quote triple (c :: seen) line rest
          | _ => none
        else some (c :: seen, rest, line)
      else if c == '\n' && !triple then none
      else literalBody quote triple (c :: seen) (nextLine c rest line) rest

/-- A literal whose letters end after `letters` characters: its characters,
what follows, and the line on which it ends. -/
def literal? (letters : Nat) (cs : List Char) (line : Nat) :
    Option (List Char × List Char × Nat) :=
  let front := cs.take letters
  match cs.drop letters with
  | q :: a :: b :: rest =>
      if a == q && b == q then
        (literalBody q true (b :: a :: q :: front.reverse) line rest).map
          fun (text, rest, line) => (text.reverse, rest, line)
      else if a == q then some (front ++ [q, a], b :: rest, line)
      else single q front (a :: b :: rest)
  | [q, a] => if a == q then some (front ++ [q, a], [], line) else single q front [a]
  | _ => none
where
  /-- A literal between single quotes. -/
  single (q : Char) (front rest : List Char) :=
    (literalBody q false (q :: front.reverse) line rest).map
      fun (text, rest, line) => (text.reverse, rest, line)

/-! ## §4. The state of a scan. -/

/-- The deepest nesting of brackets. -/
def maxDepth : Nat := 200

/-- The deepest nesting of indentation. -/
def maxIndents : Nat := 100

/-- Two measures of an indentation. -/
structure Measure where
  wide : Nat
  narrow : Nat
  deriving DecidableEq

/-- The state of a scan. -/
structure State where
  line : Nat
  /-- Open brackets with their lines, innermost first. -/
  opened : List (Char × Nat)
  /-- Indentations in force, innermost first; the last one is zero. -/
  indents : List Measure
  /-- Tokens so far. -/
  tokens : Array Token

namespace State

/-- Add a token of the current line. -/
def push (s : State) (kind : Kind) (text : String) : State :=
  { s with tokens := s.tokens.push ⟨kind, text, s.line, s.line, s.opened.length⟩ }

/-- The text is no token here, whatever else is wrong. -/
def firm (s : State) : Tokens :=
  ⟨s.tokens, some ⟨s.line, true, s.opened.head?.map (·.2)⟩⟩

/-- The text breaks off here: at the innermost open bracket if the end of the
text is to blame, else on this line. -/
def loose (s : State) (atEnd : Bool) : Tokens :=
  let bracket := s.opened.head?.map (·.2)
  ⟨s.tokens, some ⟨if atEnd then bracket.getD s.line else s.line, false, bracket⟩⟩

end State

/-- The closing bracket of an opening one. -/
def closing : Char → Char
  | '(' => ')'
  | '[' => ']'
  | _ => '\x7d'

/-! ## §5. Indentation. -/

/-- The outcome of measuring the start of a line. -/
inductive Start where
  /-- The measures, what follows the blanks, and the line reached. -/
  | at (m : Measure) (rest : List Char) (line : Nat)
  /-- A backslash is followed by something other than a line feed. -/
  | strayBackslash (line : Nat)
  /-- A backslash and a line feed end the text. -/
  | ended (line : Nat)

/-- Measure the blanks at the start of a line.  `joined` is the measure at the
first backslash, which then counts for the whole line. -/
def measure (m : Measure) (joined line : Nat) : List Char → Start
  | ' ' :: rest => measure ⟨m.wide + 1, m.narrow + 1⟩ joined line rest
  | '\t' :: rest => measure ⟨(m.wide / 8 + 1) * 8, m.narrow + 1⟩ joined line rest
  | '\x0c' :: rest => measure ⟨0, 0⟩ joined line rest
  | '\\' :: '\n' :: rest =>
      if rest.isEmpty then .ended line
      else measure m (if joined = 0 then m.wide else joined) (line + 1) rest
  | '\\' :: _ => .strayBackslash line
  | rest => .at (if joined = 0 then m else ⟨joined, joined⟩) rest line

/-- Steps of indentation out: drop what is wider and add a token for each. -/
def closeIndents (m : Measure) (s : State) : List Measure → State
  | [] => { s with indents := [] }
  | i :: rest =>
      if m.wide < i.wide then closeIndents m (s.push .dedent "") rest
      else { s with indents := i :: rest }

/-- Take up the indentation of a line outside brackets. -/
def layout (m : Measure) (s : State) : Except Tokens State :=
  let here := s.indents.headD ⟨0, 0⟩
  if m.wide = here.wide then
    if m.narrow = here.narrow then .ok s else .error (s.loose false)
  else if here.wide < m.wide then
    if maxIndents ≤ s.indents.length then .error (s.loose false)
    else if m.narrow ≤ here.narrow then .error (s.loose false)
    else .ok ({ s with indents := m :: s.indents }.push .indent "")
  else
    let t := closeIndents m s s.indents
    let base := t.indents.headD ⟨0, 0⟩
    if m.wide = base.wide && m.narrow = base.narrow then .ok t
    else .error (s.loose false)

/-! ## §6. The scan. -/

/-- The token that starts with an operator or a bracket. -/
def operator (s : State) (c : Char) (more : List Char) : Except Tokens (State × List Char) :=
  let three := String.ofList (c :: more.take 2)
  let two := String.ofList (c :: more.take 1)
  if longOperators.contains three then .ok (s.push .fixed three, more.drop 2)
  else if pairOperators.contains two then .ok (s.push .fixed two, more.drop 1)
  else if c == '(' || c == '[' || c == '\x7b' then
    if maxDepth ≤ s.opened.length then .error s.firm
    else .ok ({ s with opened := (c, s.line) :: s.opened }.push .fixed (String.singleton c), more)
  else if c == ')' || c == ']' || c == '\x7d' then
    match s.opened with
    | (o, _) :: outer =>
        if closing o == c then .ok ({ s with opened := outer }.push .fixed (String.singleton c), more)
        else .error s.firm
    | [] => .error s.firm
  else if isPrintable c then .ok (s.push .fixed (String.singleton c), more)
  else .error s.firm

/-- The token at the front of a text that starts with neither a blank nor a
line feed. -/
def one (s : State) (c : Char) (more : List Char) : Except Tokens (State × List Char) :=
  let cs := c :: more
  match literalLetters cs with
  | some letters =>
      match literal? letters cs s.line with
      | some (text, rest, line) =>
          let token : Token := ⟨.literal, String.ofList text, s.line, line, s.opened.length⟩
          .ok ({ s with tokens := s.tokens.push token, line := line }, rest)
      | none => .error s.firm
  | none =>
      if opensName c then
        let word := cs.takeWhile extendsName
        let rest := cs.dropWhile extendsName
        let text := String.ofList word
        if reserved.contains text then .ok (s.push .fixed text, rest)
        else if isName word then .ok (s.push .name (compatible text), rest)
        else .error s.firm
      else if isAsciiDigit c || (c == '.' && more.head?.any isAsciiDigit) then
        match afterNumber cs with
        | some rest =>
            .ok (s.push .number (String.ofList (cs.take (cs.length - rest.length))), rest)
        | none => .error s.firm
      else operator s c more

/-- The tokens from here on.  `fresh` says whether a line starts here; the
first argument bounds the number of steps. -/
def run : Nat → Bool → State → List Char → Tokens
  | 0, _, s, _ => s.firm
  | fuel + 1, true, s, cs =>
      match measure ⟨0, 0⟩ 0 s.line cs with
      | .strayBackslash line => { s with line := line }.loose false
      | .ended line => { s with line := line }.loose true
      | .at m rest line =>
          let s := { s with line := line }
          match rest with
          | [] =>
              if s.opened.isEmpty then
                match layout ⟨0, 0⟩ s with
                | .ok s => ⟨(s.push .finish "").tokens, none⟩
                | .error broken => broken
              else s.loose true
          | c :: _ =>
              if c == '#' || c == '\n' then
                let after := (rest.dropWhile (· != '\n')).drop 1
                run fuel true { s with line := nextLine '\n' after line } after
              else if s.opened.isEmpty then
                match layout m s with
                | .ok s => run fuel false s rest
                | .error broken => broken
              else run fuel false s rest
  | _ + 1, false, s, [] => s.loose true
  | fuel + 1, false, s, c :: more =>
      if c == ' ' || c == '\t' || c == '\x0c' then run fuel false s more
      else if c == '#' then run fuel false s (more.dropWhile (· != '\n'))
      else if c == '\n' then
        let s := if s.opened.isEmpty then s.push .newline "" else s
        run fuel true { s with line := nextLine '\n' more s.line } more
      else if c == '\\' then
        match more with
        | '\n' :: rest =>
            if rest.isEmpty then s.loose true
            else run fuel false { s with line := s.line + 1 } rest
        | _ => s.loose false
      else
        match one s c more with
        | .ok (s, rest) => run fuel false s rest
        | .error broken => broken

/-- The tokens of a text that starts on the given line.  Line endings of all
kinds count alike, and a last line without one gets one. -/
def scan (firstLine : Nat) (text : List Char) : Tokens :=
  let unified := unifyNewlines text
  let whole := if unified.getLast? == some '\n' then unified else unified ++ ['\n']
  run (2 * whole.length + 3) true ⟨firstLine, [], [⟨0, 0⟩], #[]⟩ whole

end CodeAudit.Source.Token
