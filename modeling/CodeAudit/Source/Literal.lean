/-
  CodeAudit.Source.Literal
  ────────────────────────
  **LITERALS IN QUOTES.**

  A run of neighbouring literals makes one constant, or one interpolated text
  when a literal of the run is interpolated.  The expressions inside braces
  are read by the grammar, which is handed in as `compile`.

  A mistake inside a literal is reported on the line `here` of the furthest
  token looked at, a mistake inside an expression on its own line.  An escape
  may stand for half of a surrogate pair.
-/
import CodeAudit.Source.Node
import CodeAudit.Source.Token
import CodeAudit.Text.Blank
import CodeAudit.Text.Classes
import CodeAudit.Text.Names
import CodeAudit.Text.Wording

namespace CodeAudit.Source.Literal

open CodeAudit.Text

/-! ## §1. The shape of a literal. -/

/-- A literal taken apart. -/
structure Shape where
  bytes : Bool
  raw : Bool
  interpolated : Bool
  /-- What stands between the quotes. -/
  body : List Char

/-- Take a literal apart: letters, quotes, body. -/
def shape (text : List Char) : Shape :=
  let letters := (text.takeWhile fun c => c != '\'' && c != '"').map Char.toLower
  let quoted := text.dropWhile fun c => c != '\'' && c != '"'
  let width := match quoted with
    | a :: b :: c :: rest => if a == b && b == c && 3 ≤ rest.length then 3 else 1
    | _ => 1
  let body := (quoted.drop width).take (quoted.length - 2 * width)
  ⟨letters.contains 'b', letters.contains 'r', letters.contains 'f', body⟩

/-! ## §2. Escapes. -/

/-- The characters named by one letter after a backslash. -/
def simpleEscape : Char → Option Char
  | '\\' => some '\\'
  | '\'' => some '\''
  | '"' => some '"'
  | 'b' => some '\x08'
  | 'f' => some '\x0c'
  | 't' => some '\t'
  | 'n' => some '\n'
  | 'r' => some '\r'
  | 'v' => some '\x0b'
  | 'a' => some '\x07'
  | _ => none

/-- An octal digit. -/
def isOctal (c : Char) : Bool := '0' ≤ c && c ≤ '7'

/-- The number that octal digits spell. -/
def octalNumber (digits : List Char) : Nat :=
  digits.foldl (fun n c => 8 * n + (c.toNat - '0'.toNat)) 0

/-- Exactly `n` hexadecimal digits at the front, as a number. -/
def hexFront (n : Nat) (cs : List Char) : Option Nat :=
  let digits := cs.take n
  if digits.length = n && digits.all isHexDigit then some (hexNumber (String.ofList digits))
  else none

/-- One escape after its backslash: what it stands for, and the number of
characters it takes.  None when it is malformed; an unknown escape stands for
its backslash and takes nothing. -/
def escape (cs : List Char) : Option (List Sign × Nat) :=
  match cs with
  | [] => some ([.char '\\'], 0)
  | '\n' :: _ => some ([], 1)
  | 'x' :: rest => (hexFront 2 rest).map fun n => ([.ofCode n], 3)
  | 'u' :: rest => (hexFront 4 rest).map fun n => ([.ofCode n], 5)
  | 'U' :: rest =>
      (hexFront 8 rest).bind fun n => if n ≤ 0x10FFFF then some ([.ofCode n], 9) else none
  | 'N' :: '\x7b' :: rest =>
      let name := rest.takeWhile (· != '\x7d')
      if name.length < rest.length then
        (characterNamed (String.ofList name)).map fun c => ([.char c], name.length + 3)
      else none
  | 'N' :: _ => none
  | c :: _ =>
      if isOctal c then
        let digits := (cs.take 3).takeWhile isOctal
        some ([.ofCode (octalNumber digits)], digits.length)
      else match simpleEscape c with
        | some d => some ([.char d], 1)
        | none => some ([.char '\\'], 0)

/-- Resolve the escapes of a text; none when one is malformed.  The number
bounds the steps. -/
def unescape : Nat → List Char → Option (List Sign)
  | _, [] => some []
  | 0, _ => some []
  | fuel + 1, '\\' :: rest =>
      (escape rest).bind fun (out, n) => (unescape fuel (rest.drop n)).map (out ++ ·)
  | fuel + 1, c :: rest => (unescape fuel rest).map (.char c :: ·)

/-- The text that the body of a literal stands for. -/
def decodeText (raw : Bool) (body : List Char) : Option (List Sign) :=
  if raw then some (body.map .char) else unescape body.length body

/-- Whether the escapes of bytes are well formed: only a code in hexadecimal
can be malformed. -/
def bytesOk : List Char → Bool
  | [] => true
  | '\\' :: 'x' :: rest => (hexFront 2 rest).isSome && bytesOk rest
  | '\\' :: _ :: rest => bytesOk rest
  | _ :: rest => bytesOk rest

/-! ## §3. Expressions between braces. -/

/-- The brackets that close each other. -/
def pairs (o c : Char) : Bool :=
  (o == '(' && c == ')') || (o == '[' && c == ']') || (o == '\x7b' && c == '\x7d')

/-- Where we are inside an expression. -/
structure Inside where
  /-- The quote of the text inside which we are, and whether it is tripled. -/
  quote : Option (Char × Bool)
  /-- The open brackets, innermost first. -/
  stack : List Char

/-- Ends an expression outside brackets, unless a comparison starts there. -/
def isEnder (c : Char) : Bool :=
  c == '!' || c == ':' || c == '\x7d' || c == '=' || c == '>' || c == '<'

/-- Starts a comparison when an equals sign follows. -/
def isComparison (c : Char) : Bool := c == '!' || c == '=' || c == '>' || c == '<'

/-- What one character does to an expression. -/
inductive Move where
  /-- The expression goes on after this many characters. -/
  | on (inside : Inside) (width : Nat)
  /-- The expression ends before this character. -/
  | ends
  /-- The expression is malformed. -/
  | bad

/-- The effect of the character `c`, with `rest` behind it. -/
def move (i : Inside) (c : Char) (rest : List Char) : Move :=
  let doubled := startsWith [c, c] rest
  if c == '\\' then .bad
  else match i.quote with
    | some (q, triple) =>
        if c != q then .on i 1
        else if !triple then .on { i with quote := none } 1
        else if doubled then .on { i with quote := none } 3
        else .on i 1
    | none =>
        if c == '\'' || c == '"' then
          if doubled then .on { i with quote := some (c, true) } 3
          else .on { i with quote := some (c, false) } 1
        else if c == '(' || c == '[' || c == '\x7b' then
          if 200 ≤ i.stack.length then .bad else .on { i with stack := c :: i.stack } 1
        else if c == '#' then .bad
        else if i.stack.isEmpty && isEnder c then
          if isComparison c && rest.head? == some '=' then .on i 2
          else if c == '<' || c == '>' then .on i 1
          else .ends
        else if c == ')' || c == ']' || c == '\x7d' then
          match i.stack with
          | o :: outer => if pairs o c then .on { i with stack := outer } 1 else .bad
          | [] => .bad
        else .on i 1

/-- The number of characters of an expression up to the character that ends
it; none when it is malformed or does not end.  The first number bounds the
steps, the second counts the characters so far. -/
def expressionLength : Nat → Nat → Inside → List Char → Option Nat
  | 0, _, _, _ => none
  | _ + 1, _, _, [] => none
  | fuel + 1, n, i, c :: rest =>
      match move i c rest with
      | .on i width => expressionLength fuel (n + width) i (rest.drop (width - 1))
      | .ends => some n
      | .bad => none

/-- An expression and what follows it. -/
def expression (cs : List Char) : Option (List Char × List Char) :=
  (expressionLength (cs.length + 1) 0 ⟨none, []⟩ cs).map fun n => (cs.take n, cs.drop n)

/-- Blank inside an expression. -/
def isExpressionBlank (c : Char) : Bool := c == ' ' || c == '\t' || c == '\n' || c == '\x0c'

/-- The number of line feeds. -/
def feeds (cs : List Char) : Nat := cs.count '\n'

/-! ## §4. Interpolated texts. -/

/-- How the expressions of a literal are read, and where mistakes go. -/
structure Context where
  /-- Read an expression that starts on a line. -/
  compile : Nat → List Char → Except Nat Node
  /-- The line for mistakes in the literal itself. -/
  here : Nat
  /-- The line of the whole run of literals. -/
  first : Nat
  raw : Bool

/-- Text up to the next single brace.  `nested` inside a format, where a
doubled brace is not special.  Gives the text with its escapes, what follows,
and whether a doubled brace ended it, of which the second is dropped.  None
for a closing brace that stands alone.  The number bounds the steps. -/
def plainText (raw nested : Bool) : Nat → List Char → List Char →
    Option (List Char × List Char × Bool)
  | 0, seen, rest => some (seen.reverse, rest, false)
  | fuel + 1, seen, cs =>
      match raw, cs with
      | _, [] => some (seen.reverse, [], false)
      | false, '\\' :: 'N' :: '\x7b' :: more =>
          let name := more.takeWhile (· != '\x7d')
          let close := if name.length < more.length then ['\x7d'] else []
          plainText raw nested fuel
            (close ++ name.reverse ++ '\x7b' :: 'N' :: '\\' :: seen) (more.drop (name.length + 1))
      | _, c :: rest =>
          if c == '\x7b' || c == '\x7d' then
            if nested then some (seen.reverse, cs, false)
            else if rest.head? == some c then some ((c :: seen).reverse, rest.drop 1, true)
            else if c == '\x7d' then none
            else some (seen.reverse, cs, false)
          else match raw, c, rest with
            | false, '\\', d :: more =>
                if d == '\x7b' || d == '\x7d' then plainText raw nested fuel (c :: seen) rest
                else plainText raw nested fuel (d :: c :: seen) more
            | _, _, _ => plainText raw nested fuel (c :: seen) rest

/-- What has been gathered of a text: finished parts, last first, and the signs of
the part under way. -/
structure Gathered where
  parts : List Node
  pending : List Sign

/-- Add signs. -/
def Gathered.add (g : Gathered) (signs : List Sign) : Gathered :=
  { g with pending := g.pending ++ signs }

/-- Finish the part under way. -/
def Gathered.flush (g : Gathered) (line : Nat) : Gathered :=
  if g.pending.isEmpty then g
  else ⟨.constant line (.text (.ofSigns g.pending)) :: g.parts, []⟩

/-- All parts in order. -/
def Gathered.all (g : Gathered) (line : Nat) : List Node := (g.flush line).parts.reverse

/-- Blank after the sign that shows an expression beside its value. -/
def isAsciiBlank (c : Char) : Bool := c == ' ' || (0x09 ≤ c.toNat && c.toNat ≤ 0x0D)

/-- What follows a conversion such as `!r`, if one stands here. -/
def afterConversion (cs : List Char) : Option (List Char) :=
  match cs with
  | '!' :: rest =>
      let name := rest.takeWhile fun c => c != '\x7d' && c != ':'
      let after := rest.drop name.length
      if (name == ['s'] || name == ['r'] || name == ['a']) && !after.isEmpty then some after
      else none
  | _ => some cs

mutual

/-- The parts of an interpolated text up to its end, or up to the closing
brace of the format that it is.  Gives what follows and the line there. -/
def parts (ctx : Context) (level : Nat) :
    Nat → Nat → Gathered → List Char → Except Nat (Gathered × List Char × Nat)
  | 0, line, g, cs => .ok (g, cs, line)
  | fuel + 1, line, g, cs =>
      match plainText ctx.raw (0 < level) (cs.length + 1) [] cs with
      | none => .error ctx.here
      | some (text, rest, doubled) =>
          match decodeText ctx.raw text with
          | none => .error ctx.here
          | some out =>
              let g := g.add out
              let line := line + feeds text
              if doubled then parts ctx level fuel line g rest
              else match rest with
                | '\x7b' :: inner => do
                    let (shown, node, rest, line) ← slot ctx level fuel line inner
                    let g := (g.add (shown.map .char)).flush ctx.first
                    parts ctx level fuel line { g with parts := node :: g.parts } rest
                | _ => .ok (g, rest, line)

/-- A slot after its opening brace: the text shown beside the value, the node,
what follows the closing brace, and the line there. -/
def slot (ctx : Context) (level : Nat) :
    Nat → Nat → List Char → Except Nat (List Char × Node × List Char × Nat)
  | 0, _, _ => .error ctx.here
  | fuel + 1, line, cs =>
      if 2 ≤ level then .error ctx.here
      else match expression cs with
        | none => .error ctx.here
        | some (source, rest) =>
            if source.all isExpressionBlank then .error ctx.here
            else do
              let value ← ctx.compile line source
              let line := line + feeds source
              let (shown, rest, line) := match rest with
                | '=' :: more =>
                    let blanks := more.takeWhile isAsciiBlank
                    (source ++ '=' :: blanks, more.drop blanks.length, line + feeds blanks)
                | _ => ([], rest, line)
              match afterConversion rest with
              | none => .error ctx.here
              | some (':' :: format) => do
                  if format.isEmpty then .error ctx.here
                  else
                    let (g, rest, line) ← parts ctx (level + 1) fuel line ⟨[], []⟩ format
                    match rest with
                    | '\x7d' :: rest =>
                        let format := Node.interpolated ctx.first (g.all ctx.first)
                        .ok (shown, .slot ctx.first value (some format), rest, line)
                    | _ => .error ctx.here
              | some ('\x7d' :: rest) => .ok (shown, .slot ctx.first value none, rest, line)
              | some _ => .error ctx.here

end

/-! ## §5. A run of literals. -/

/-- A run of literals under way. -/
structure Run where
  gathered : Gathered
  interpolated : Bool
  /-- Whether the literals so far are bytes; none before the first. -/
  bytes : Option Bool

/-- Take one more literal of a run. -/
def Run.step (compile : Nat → List Char → Except Nat Node) (here first : Nat) (r : Run) (t : Token) :
    Except Nat Run :=
  let text := t.text.toList
  let s := shape text
  if s.bytes && text.any (0x80 ≤ ·.toNat) then .error t.line
  else if s.bytes && !s.raw && !bytesOk s.body then .error here
  else
    let plain := if s.bytes || s.interpolated then some [] else decodeText s.raw s.body
    match plain with
    | none => .error here
    | some out =>
        if r.bytes.any (· != s.bytes) then .error here
        else if s.interpolated then do
          let (g, _, _) ← parts ⟨compile, here, first, s.raw⟩ 0 (s.body.length + 1) t.line
            r.gathered s.body
          .ok ⟨g, true, some false⟩
        else .ok ⟨r.gathered.add out, r.interpolated, some s.bytes⟩

/-- The node of a run of literals that starts on a line. -/
def node (compile : Nat → List Char → Except Nat Node) (here first : Nat) (run : List Token) :
    Except Nat Node := do
  let r ← run.foldlM (Run.step compile here first) ⟨⟨[], []⟩, false, none⟩
  if r.bytes == some true then .ok (.constant first .bytes)
  else if r.interpolated then .ok (.interpolated first (r.gathered.all first))
  else .ok (.constant first (.text (.ofSigns r.gathered.pending)))

end CodeAudit.Source.Literal
