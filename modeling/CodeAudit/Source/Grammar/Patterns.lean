/-
  CodeAudit.Source.Grammar.Patterns
  ─────────────────────────────────
  **THE PATTERNS OF `case`.**
-/
import CodeAudit.Source.Grammar.Expressions

namespace CodeAudit.Source.Grammar

open Reader

/-! ## §1. Literals and names. -/

/-- Whether a number is imaginary. -/
def isImaginary (text : String) : Bool :=
  match text.toList.getLast? with
  | some c => c == 'j' || c == 'J'
  | none => false

/-- A number that is imaginary or not as wanted; otherwise a mistake. -/
def numberThatIs (imaginary : Bool) : Reads Node := do
  let t ← look
  let n ← number
  if isImaginary t.text == imaginary then return n else mistake n.line

/-- A number, perhaps after a minus. -/
def signed (number : Reads Node) : Reads Node :=
  number <|> (do
    let line ← here
    let _ ← word "-"
    let n ← number
    return .unary line n)

/-- A real number plus or minus an imaginary one. -/
def complexNumber : Reads Node := do
  let line ← here
  let left ← signed (numberThatIs false)
  let _ ← oneOf ["+", "-"]
  let right ← numberThatIs true
  return .binary line left right

/-- A number, or texts, as the value of a pattern. -/
def literalValue (g : Rules) : Reads Node :=
  (do let n ← signed number
      notAhead (oneOf ["+", "-"])
      return n)
    <|> complexNumber
    <|> g .literals

/-- One of the words that are values. -/
def wordValue : Reads Node := do
  let t ← oneOf ["None", "True", "False"]
  return .constant t.line .word

/-- A dotted name, or a name. -/
def nameOrDotted : Reads Node := do
  let line ← here
  let first ← ident
  let rest ← many (do let _ ← word "."; nameText)
  return rest.foldl (fun value name => .attr line value name) first

/-- A dotted name. -/
def dotted : Reads Node := do
  let line ← here
  let first ← ident
  let rest ← many1 (do let _ ← word "."; nameText)
  return rest.foldl (fun value name => .attr line value name) first

/-- What cannot stand behind a captured or dotted name. -/
def nameGoesOn : Reads Unit := ahead (oneOf [".", "(", "="])

/-- The name that a pattern captures. -/
def captured : Reads Node := do
  notAhead (soft "_")
  let t ← kind .name
  notAhead nameGoesOn
  return .matchLeaf t.line

/-! ## §2. Sequences. -/

/-- `*rest` in a sequence. -/
def starPattern : Reads Node := do
  let line ← here
  let _ ← word "*"
  let _ ← captured <|> (do let t ← soft "_"; return .matchLeaf t.line)
  return .matchLeaf line

/-- Patterns of a sequence divided by commas. -/
def sequencePatterns (g : Rules) : Reads (List Node) := do
  let items ← separated (g .starPattern <|> g .pattern) (word ",")
  let _ ← perhaps (word ",")
  return items

/-- A sequence without brackets has at least one comma. -/
def openSequence (g : Rules) : Reads (List Node) := do
  let first ← g .starPattern <|> g .pattern
  let _ ← word ","
  let rest ← perhaps (sequencePatterns g)
  return first :: rest.getD []

/-- A sequence in brackets. -/
def sequencePattern (g : Rules) : Reads Node :=
  (do let line ← here
      let _ ← word "["
      let items ← perhaps (sequencePatterns g)
      let _ ← word "]"
      return .matchSequence line (items.getD []))
    <|> (do
      let line ← here
      let _ ← word "("
      let items ← perhaps (openSequence g)
      let _ ← word ")"
      return .matchSequence line (items.getD []))

/-! ## §3. Mappings and classes. -/

/-- `key : pattern`. -/
def pairPattern (g : Rules) : Reads (Node × Node) := do
  let key ← literalValue g <|> wordValue <|> dotted
  let _ ← word ":"
  let p ← g .pattern
  return (key, p)

/-- `**rest` in a mapping. -/
def restPattern : Reads Unit := do
  let _ ← word "**"
  let _ ← captured
  return ()

/-- A mapping. -/
def mappingPattern (g : Rules) : Reads Node := do
  let line ← here
  let pairs := separated (pairPattern g) (word ",")
  let close := (do let _ ← perhaps (word ","); let _ ← word "\x7d"; return () : Reads Unit)
  let build := fun (items : List (Node × Node)) =>
    Node.matchMapping line (items.map (·.1)) (items.map (·.2))
  (do let _ ← word "\x7b"
      let _ ← word "\x7d"
      return build [])
    <|> (do
      let _ ← word "\x7b"
      restPattern
      close
      return build [])
    <|> (do
      let _ ← word "\x7b"
      let items ← pairs
      let _ ← word ","
      restPattern
      close
      return build items)
    <|> (do
      let _ ← word "\x7b"
      let items ← pairs
      close
      return build items)

/-- `name = pattern` in a class pattern. -/
def keywordPattern (g : Rules) : Reads Node := do
  let _ ← kind .name
  let _ ← word "="
  g .pattern

/-- A class pattern. -/
def classPattern (g : Rules) : Reads Node := do
  let line ← here
  let positional := separated (g .pattern) (word ",")
  let keywords := separated (keywordPattern g) (word ",")
  let close := (do let _ ← perhaps (word ","); let _ ← word ")"; return () : Reads Unit)
  (do let type ← nameOrDotted
      let _ ← word "("
      let _ ← word ")"
      return .matchClass line type [] [])
    <|> (do
      let type ← nameOrDotted
      let _ ← word "("
      let a ← positional
      close
      return .matchClass line type a [])
    <|> (do
      let type ← nameOrDotted
      let _ ← word "("
      let b ← keywords
      close
      return .matchClass line type [] b)
    <|> (do
      let type ← nameOrDotted
      let _ ← word "("
      let a ← positional
      let _ ← word ","
      let b ← keywords
      close
      return .matchClass line type a b)
    <|> diagnosed (do
      let _ ← nameOrDotted
      let _ ← word "("
      let _ ← perhaps (do let _ ← positional; word ",")
      let _ ← keywords
      let _ ← word ","
      let late ← positional
      mistake ((late.head?.map Node.line).getD 0))

/-! ## §4. Patterns. -/

/-- A pattern that holds together by itself. -/
def closedPattern (g : Rules) : Reads Node :=
  (do let line ← here
      (do let value ← literalValue g
          return .matchValue line value)
        <|> (do let _ ← wordValue
                return .matchLeaf line))
    <|> captured
    <|> (do let t ← soft "_"
            return .matchLeaf t.line)
    <|> (do
      let line ← here
      let value ← dotted
      notAhead nameGoesOn
      return .matchValue line value)
    <|> (do
      let _ ← word "("
      let p ← g .pattern
      let _ ← word ")"
      return p)
    <|> sequencePattern g
    <|> mappingPattern g
    <|> classPattern g

/-- Alternatives. -/
def orPattern (g : Rules) : Reads Node := do
  let line ← here
  let items ← separated (g .closedPattern) (word "|")
  match items with
  | [p] => return p
  | _ => return .matchOr line items

/-- A pattern, perhaps with a name. -/
def pattern (g : Rules) : Reads Node :=
  (do let line ← here
      let p ← orPattern g
      let _ ← word "as"
      let _ ← captured
      return .matchAs line p)
    <|> diagnosed (
      (do let _ ← orPattern g
          let _ ← word "as"
          let t ← soft "_"
          mistake t.line)
        <|> (do
          let _ ← orPattern g
          let _ ← word "as"
          notAhead (kind .name)
          let e ← g .expression
          mistake e.line))
    <|> orPattern g

/-- The pattern of a `case`, which may be a sequence without brackets. -/
def patterns (g : Rules) : Reads Node :=
  (do let line ← here
      let items ← openSequence g
      return .matchSequence line items)
    <|> g .pattern

end CodeAudit.Source.Grammar
