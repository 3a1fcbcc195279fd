/-
  CodeAudit.Source.Grammar.Expressions
  ────────────────────────────────────
  **EXPRESSIONS.**

  From the loosest construct to the tightest: conditionals, the three logical
  operators, comparisons, the arithmetic levels, calls and subscripts, and
  the atoms with their displays and comprehensions.
-/
import CodeAudit.Source.Grammar.Rule
import CodeAudit.Source.Token.Scan

namespace CodeAudit.Source.Grammar

open Reader

/-! ## §1. Lists of expressions. -/

/-- Items divided by commas, with or without a last comma; a tuple as soon as
there is a comma. -/
def tupleOf (item : Reads Node) : Reads Node := do
  let line ← here
  let first ← item
  let rest ← many (do let _ ← word ","; item)
  let trailing ← perhaps (word ",")
  if rest.isEmpty && trailing.isNone then return first
  else return .tuple line (first :: rest)

/-- Expressions, some perhaps starred. -/
def starExpressions (g : Rules) : Reads Node := tupleOf (g .starExpression)

/-- Expressions. -/
def expressions (g : Rules) : Reads Node := tupleOf (g .expression)

/-- A starred operand. -/
def starredOperand (g : Rules) : Reads Node := do
  let line ← here
  let _ ← word "*"
  let value ← g .bitOr
  return .starred line value

/-- An expression, perhaps starred. -/
def starExpression (g : Rules) : Reads Node := starredOperand g <|> g .expression

/-- A named expression, perhaps starred. -/
def starNamedExpression (g : Rules) : Reads Node := starredOperand g <|> g .namedExpression

/-- Named expressions divided by commas. -/
def starNamedExpressions (g : Rules) : Reads (List Node) := do
  let items ← separated (g .starNamedExpression) (word ",")
  let _ ← perhaps (word ",")
  return items

/-- `name := value`. -/
def assignmentExpression (g : Rules) : Reads Node := do
  let line ← here
  let target ← ident
  let _ ← word ":="
  let value ← g .expression
  return .named line target value

/-- An expression or an assignment expression. -/
def namedExpression (g : Rules) : Reads Node :=
  assignmentExpression g <|> diagnosed (g .mistakenName) <|> do
    let e ← g .expression
    let _ ← notAhead (word ":=")
    return e

/-- `yield` with its value. -/
def yielding (g : Rules) : Reads Node := do
  let line ← here
  let _ ← word "yield"
  (do let _ ← word "from"
      let value ← g .expression
      return .yieldingFrom line value)
    <|> (do let value ← perhaps (g .starExpressions)
            return .yielding line value)

/-! ## §2. Conditionals and logic. -/

/-- An expression, without looking for mistakes first. -/
def expressionCore (g : Rules) : Reads Node :=
  (do let line ← here
      let body ← g .disjunction
      let _ ← word "if"
      let test ← g .disjunction
      let _ ← word "else"
      let otherwise ← g .expression
      return .conditional line test body otherwise)
    <|> g .disjunction
    <|> g .lambda

/-- Operands joined by one logical operator. -/
def logical (operand : Reads Node) (operator : String) : Reads Node := do
  let line ← here
  let first ← operand
  let rest ← many (do let _ ← word operator; operand)
  if rest.isEmpty then return first else return .boolean line (first :: rest)

/-- `not`, or a comparison. -/
def inversion (g : Rules) (comparison : Reads Node) : Reads Node :=
  (do let line ← here
      let _ ← word "not"
      let operand ← g .inversion
      return .unary line operand)
    <|> comparison

/-- An operator of comparison; true for `in`. -/
def comparisonOperator : Reads Bool :=
  (do let _ ← oneOf ["==", "!=", "<=", "<", ">=", ">"]; return false)
    <|> (do let _ ← word "not"; let _ ← word "in"; return false)
    <|> (do let _ ← word "in"; return true)
    <|> (do let _ ← word "is"; let _ ← word "not"; return false)
    <|> (do let _ ← word "is"; return false)

/-- A chain of comparisons. -/
def comparison (g : Rules) : Reads Node := do
  let line ← here
  let left ← g .bitOr
  let rest ← many (do
    let membership ← comparisonOperator
    let right ← g .bitOr
    return (membership, right))
  match rest with
  | [] => return left
  | (membership, _) :: _ => return .comparison line membership left (rest.map (·.2))

/-! ## §3. Arithmetic. -/

/-- A sign before a factor, or a power. -/
def factor (g : Rules) : Reads Node :=
  (do let line ← here
      let _ ← oneOf ["+", "-", "~"]
      let operand ← g .factor
      return .unary line operand)
    <|> (do
      let line ← here
      let base ← g .awaitPrimary
      let power ← perhaps (do let _ ← word "**"; g .factor)
      match power with
      | some p => return .binary line base p
      | none => return base)

/-- `await` before a primary, or a primary. -/
def awaitPrimary (g : Rules) : Reads Node :=
  (do let line ← here
      let _ ← word "await"
      let value ← g .primary
      return .awaiting line value)
    <|> g .primary

/-! ## §4. Displays and comprehensions. -/

/-- A clause `for … in … if …`; after `in` there is no way back. -/
def clause (g : Rules) (mistakenTarget : Reads Node) : Reads Node :=
  let rest := fun (target : Node) => do
    let source ← g .disjunction
    let conditions ← many (do let _ ← word "if"; g .disjunction)
    return .clause target source conditions
  let front := fun (async : Reads Unit) => (do
    async
    let _ ← word "for"
    let target ← g .starTargets
    let _ ← word "in"
    return target : Reads Node)
  Reader.commit (front (do let _ ← word "async"; return ())) rest
    (Reader.commit (front (pure ())) rest (diagnosed mistakenTarget))

/-- The element of a generator: an assignment expression, or an expression
that is not the start of one. -/
def element (g : Rules) : Reads Node :=
  assignmentExpression g <|> do
    let e ← g .expression
    let _ ← notAhead (word ":=")
    return e

/-- A generator in its own brackets. -/
def generator (g : Rules) (mistake : Reads Node) : Reads Node :=
  (do let line ← here
      let _ ← word "("
      let e ← element g
      let clauses ← g .clauses
      let _ ← word ")"
      return .comprehension line .generator e clauses)
    <|> diagnosed mistake

/-- A list display. -/
def listDisplay (g : Rules) : Reads Node := do
  let line ← here
  let _ ← word "["
  let items ← perhaps (starNamedExpressions g)
  let _ ← word "]"
  return .list line (items.getD [])

/-- A list comprehension. -/
def listComprehension (g : Rules) (mistake : Reads Node) : Reads Node :=
  (do let line ← here
      let _ ← word "["
      let e ← g .namedExpression
      let clauses ← g .clauses
      let _ ← word "]"
      return .comprehension line .list e clauses)
    <|> diagnosed mistake

/-- A tuple in brackets. -/
def tuple (g : Rules) : Reads Node := do
  let line ← here
  let _ ← word "("
  let items ← perhaps (do
    let first ← g .starNamedExpression
    let _ ← word ","
    let rest ← perhaps (starNamedExpressions g)
    return first :: rest.getD [])
  let _ ← word ")"
  return .tuple line (items.getD [])

/-- An expression in brackets stands for itself. -/
def group (g : Rules) (mistake : Reads Node) : Reads Node :=
  (do let _ ← word "("
      let e ← g .yielding <|> g .namedExpression
      let _ ← word ")"
      return e)
    <|> diagnosed mistake

/-- `key : value`. -/
def keyValue (g : Rules) : Reads (Node × Node) := do
  let key ← g .expression
  let _ ← word ":"
  let value ← g .expression
  return (key, value)

/-- An entry of a dictionary display: a pair, or `**value`. -/
def entry (g : Rules) : Reads (Option Node × Node) :=
  (do let _ ← word "**"
      let value ← g .bitOr
      return (none, value))
    <|> (do
      let (key, value) ← keyValue g
      return (some key, value))

/-- A dictionary display. -/
def dictDisplay (g : Rules) (mistake : Reads Node) : Reads Node :=
  (do let line ← here
      let _ ← word "\x7b"
      let entries ← perhaps (do
        let entries ← separated (entry g) (word ",")
        let _ ← perhaps (word ",")
        return entries)
      let _ ← word "\x7d"
      let entries := entries.getD []
      return .dict line (entries.filterMap (·.1)) (entries.map (·.2)))
    <|> diagnosed (do
      let _ ← word "\x7b"
      let e ← mistake
      let _ ← word "\x7d"
      return e)

/-- A set display. -/
def setDisplay (g : Rules) : Reads Node := do
  let line ← here
  let _ ← word "\x7b"
  let items ← starNamedExpressions g
  let _ ← word "\x7d"
  return .set line items

/-- A dictionary comprehension. -/
def dictComprehension (g : Rules) (mistake : Reads Node) : Reads Node :=
  (do let line ← here
      let _ ← word "\x7b"
      let (key, value) ← keyValue g
      let clauses ← g .clauses
      let _ ← word "\x7d"
      return .dictComprehension line key value clauses)
    <|> diagnosed mistake

/-- A set comprehension. -/
def setComprehension (g : Rules) (mistake : Reads Node) : Reads Node :=
  (do let line ← here
      let _ ← word "\x7b"
      let e ← g .namedExpression
      let clauses ← g .clauses
      let _ ← word "\x7d"
      return .comprehension line .set e clauses)
    <|> diagnosed mistake

/-! ## §5. Atoms. -/

/-- The known mistakes that atoms look for. -/
structure AtomMistakes where
  group : Reads Node
  comprehension : Reads Node
  dictComprehension : Reads Node
  entries : Reads Node

/-- Whether a decimal whole number has more digits than are read. -/
def tooLong (text : String) : Bool :=
  let digits := text.toList.filter (· != '_')
  4300 < digits.length && digits.all Text.isAsciiDigit

/-- A number. -/
def number : Reads Node := do
  let t ← kind .number
  if tooLong t.text then mistake t.line else return .constant t.line .number

/-- An atom. -/
def atom (g : Rules) (m : AtomMistakes) : Reads Node := do
  let t ← look
  match t.kind with
  | .name => ident
  | .literal => g .literals
  | .number => number
  | .fixed =>
      match t.text with
      | "True" | "False" | "None" | "..." => do
          let t ← word t.text
          return .constant t.line .word
      | "(" => g .tuple <|> group g m.group <|> g .generator
      | "[" => g .listDisplay <|> listComprehension g m.comprehension
      | "\x7b" =>
          dictDisplay g m.entries <|> setDisplay g <|> dictComprehension g m.dictComprehension
            <|> setComprehension g m.comprehension
      | _ => miss
  | _ => miss

/-- Neighbouring literals make one constant. -/
def literals (g : Rules) : Reads Node := do
  let run ← many1 (kind .literal)
  let here ← furthest
  let compile := fun (line : Nat) (source : List Char) =>
    let tokens := Token.scan line ('(' :: (source ++ [')']))
    Reader.complete (g .starExpressions) (noMemory tokens) tokens
  match Literal.node compile here ((run.head?.map (·.line)).getD 0) run with
  | .ok n => return n
  | .error line => mistake line

/-! ## §6. Primaries. -/

/-- A slice, or a named expression as an index. -/
def slice (g : Rules) : Reads Node :=
  (do let line ← here
      let lower ← perhaps (g .expression)
      let _ ← word ":"
      let upper ← perhaps (g .expression)
      let step ← perhaps (do let _ ← word ":"; perhaps (g .expression))
      return .slice line lower upper step.join)
    <|> g .namedExpression

/-- `*value` as an argument. -/
def starredArgument (g : Rules) : Reads Node := do
  let line ← here
  let _ ← word "*"
  let value ← g .expression
  return .starred line value

/-- What stands between the brackets of a subscript. -/
def slices (g : Rules) : Reads Node :=
  (do let s ← slice g
      let _ ← notAhead (word ",")
      return s)
    <|> (do
      let line ← here
      let items ← separated (slice g <|> starredArgument g) (word ",")
      let _ ← perhaps (word ",")
      return .tuple line items)

/-- One step from a primary to a larger one that starts with it. -/
def trailer (g : Rules) (line : Nat) : Reads (Node → Node) :=
  (do let _ ← word "."
      let name ← nameText
      return fun value => .attr line value name)
    <|> (do
      let argument ← g .generator
      return fun callee => .call line callee [argument] [])
    <|> (do
      let _ ← word "("
      let arguments ← perhaps (g .arguments)
      let _ ← word ")"
      let arguments := arguments.getD ⟨0, [], []⟩
      return fun callee => .call line callee arguments.positional arguments.keywords)
    <|> (do
      let _ ← word "["
      let index ← g .slices
      let _ ← word "]"
      return fun value => .subscript line value index)

/-- An atom and everything that hangs on it. -/
def primary (g : Rules) (atom : Reads Node) : Reads Node := do
  let line ← here
  let first ← atom
  let steps ← many (trailer g line)
  return steps.foldl (fun value step => step value) first

end CodeAudit.Source.Grammar
