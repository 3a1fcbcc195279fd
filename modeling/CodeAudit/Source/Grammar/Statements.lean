/-
  CodeAudit.Source.Grammar.Statements
  ───────────────────────────────────
  **STATEMENTS.**

  Simple statements stand on one logical line, divided by semicolons.
  Compound statements have a block: an indented run of statements, or simple
  statements on the same line.
-/
import CodeAudit.Source.Grammar.Arguments
import CodeAudit.Source.Grammar.Parameters
import CodeAudit.Source.Grammar.Patterns
import CodeAudit.Source.Grammar.Mistakes

namespace CodeAudit.Source.Grammar

open Reader

/-! ## §1. Assignments. -/

/-- `+=` and its like. -/
def augmentedOperators : List String :=
  ["+=", "-=", "*=", "@=", "/=", "%=", "&=", "|=", "^=", "<<=", ">>=", "**=", "//="]

/-- What is assigned. -/
def assigned (g : Rules) : Reads Node := g .yielding <|> g .starExpressions

/-- The rest of an annotated assignment after its target. -/
def hintAndValue (g : Rules) : Reads (Node × Option Node) := do
  let _ ← word ":"
  let hint ← g .expression
  let value ← perhaps (do let _ ← word "="; assigned g)
  return (hint, value)

/-- A target and its equals sign. -/
def targetEquals (g : Rules) : Reads Node := do
  let target ← g .starTargets
  let _ ← word "="
  return target

/-- Known mistakes in assignments. -/
def mistakenAssignment (g : Rules) : Reads Node :=
  (do let e ← g .mistakenHintTarget
      let _ ← word ":"
      let _ ← g .expression
      mistake e.line)
    <|> (do
      let e ← g .starNamedExpression
      let _ ← word ","
      let _ ← many (starNamedExpressions g)
      let _ ← word ":"
      let _ ← g .expression
      mistake e.line)
    <|> (do
      let e ← g .expression
      let _ ← word ":"
      let _ ← g .expression
      mistake e.line)
    <|> Reader.commit
      (do let _ ← many (targetEquals g)
          let e ← g .starExpressions
          let _ ← word "="
          return e)
      (refuse .assignment)
      ((do
        let _ ← many (targetEquals g)
        let e ← g .yielding
        let _ ← word "="
        mistake e.line)
      <|> (do
        let e ← g .starExpressions
        let _ ← oneOf augmentedOperators
        let _ ← assigned g
        mistake e.line))

/-- An assignment; after an augmented operator there is no way back. -/
def assignment (g : Rules) : Reads Node := do
  let line ← here
  (do let target ← ident
      let (hint, value) ← hintAndValue g
      return .annotated line target hint value)
    <|> (do
      let target ← (do
          let _ ← word "("
          let target ← g .singleTarget
          let _ ← word ")"
          return target)
        <|> attributeOrItem g
      let (hint, value) ← hintAndValue g
      return .annotated line target hint value)
    <|> (do
      let targets ← many1 (targetEquals g)
      let value ← assigned g
      notAhead (word "=")
      return .assign line targets value)
    <|> Reader.commit
      (do let target ← g .singleTarget
          let _ ← oneOf augmentedOperators
          return target)
      (fun target => do
        let value ← assigned g
        return .augmented line target value)
      (diagnosed (mistakenAssignment g))

/-! ## §2. Simple statements. -/

/-- `return`. -/
def returning (g : Rules) : Reads Node := do
  let t ← word "return"
  let value ← perhaps (g .starExpressions)
  return .returning t.line value

/-- `raise`. -/
def raising (g : Rules) : Reads Node :=
  (do let t ← word "raise"
      let exception ← g .expression
      let cause ← perhaps (do let _ ← word "from"; g .expression)
      return .raising t.line (some exception) cause)
    <|> (do
      let t ← word "raise"
      return .raising t.line none none)

/-- A declaration of names. -/
def declaration (keyword : String) : Reads Node := do
  let t ← word keyword
  let _ ← separated (kind .name) (word ",")
  return .plain t.line

/-- `del`. -/
def deletion (g : Rules) : Reads Node :=
  (do let t ← word "del"
      let targets ← deletedTargets g
      ahead ((do let _ ← word ";"; return ()) <|> (do let _ ← kind .newline; return ()))
      return .deletion t.line targets)
    <|> diagnosed (do
      let _ ← word "del"
      let e ← g .starExpressions
      refuse .deletion e)

/-- `assert`. -/
def assertion (g : Rules) : Reads Node := do
  let t ← word "assert"
  let test ← g .expression
  let message ← perhaps (do let _ ← word ","; g .expression)
  return .assertion t.line test message

/-- `as name`, if it is here. -/
def renamed : Reads (Option String) := perhaps (do let _ ← word "as"; nameText)

/-- A dotted name in an import. -/
def importedModule : Reads Unit := do
  let _ ← separated (kind .name) (word ".")
  return ()

/-- An imported name, perhaps renamed. -/
def importedName : Reads Unit := do
  let _ ← kind .name
  let _ ← renamed
  return ()

/-- What is imported from a module. -/
def importedNames : Reads Unit :=
  (do let _ ← word "("
      let _ ← separated importedName (word ",")
      let _ ← perhaps (word ",")
      let _ ← word ")"
      return ())
    <|> (do
      let _ ← separated importedName (word ",")
      notAhead (word ","))
    <|> (do let _ ← word "*"; return ())
    <|> diagnosed (do
      let _ ← separated importedName (word ",")
      let _ ← word ","
      let _ ← kind .newline
      mistakeHere)

/-- `import`. -/
def importing : Reads Node := do
  let line ← here
  (do let _ ← word "import"
      let _ ← separated (do importedModule; renamed) (word ",")
      return .plain line)
    <|> (do
      let _ ← word "from"
      let _ ← many (oneOf [".", "..."])
      importedModule
      let _ ← word "import"
      importedNames
      return .plain line)
    <|> (do
      let _ ← word "from"
      let _ ← many1 (oneOf [".", "..."])
      let _ ← word "import"
      importedNames
      return .plain line)

/-- A simple statement. -/
def simpleStatement (g : Rules) : Reads Node :=
  assignment g
    <|> (do
      let line ← here
      let e ← g .starExpressions
      return .expression line e)
    <|> returning g
    <|> importing
    <|> raising g
    <|> (do let t ← word "pass"
            return .plain t.line)
    <|> deletion g
    <|> (do
      let line ← here
      let e ← g .yielding
      return .expression line e)
    <|> assertion g
    <|> (do let t ← oneOf ["break", "continue"]
            return .plain t.line)
    <|> declaration "global"
    <|> declaration "nonlocal"

/-- The simple statements of one logical line. -/
def simpleStatements (g : Rules) : Reads (List Node) :=
  (do let s ← g .simpleStatement
      notAhead (word ";")
      let _ ← kind .newline
      return [s])
    <|> (do
      let s ← separated (g .simpleStatement) (word ";")
      let _ ← perhaps (word ";")
      let _ ← kind .newline
      return s)

/-! ## §3. Heads of compound statements. -/

/-- A mistake when no block follows the end of a line. -/
def blockMissing {α : Type} : Reads α := do
  let _ ← kind .newline
  notAhead (kind .indent)
  mistakeHere

/-- A mistake when the line of a head ends without its colon. -/
def colonMissing {α : Type} : Reads α := do
  let _ ← kind .newline
  mistakeHere

/-- The two mistakes of a head: no colon, or no block. -/
def mistakenHead {α β : Type} (head : Reads α) : Reads β :=
  (do let _ ← head; colonMissing)
    <|> (do let _ ← head; let _ ← word ":"; blockMissing)

/-- A word before its block; the colon has to follow. -/
def wordBlock (g : Rules) (keyword : String) : Reads (List Node) :=
  diagnosed (do
      let _ ← word keyword
      let _ ← word ":"
      blockMissing)
    <|> (do
      let _ ← word keyword
      let _ ← required ":"
      g .block)

/-- `else`. -/
def elseBlock (g : Rules) : Reads (List Node) := do
  let body ← perhaps (wordBlock g "else")
  return body.getD []

/-! ## §4. Branches and loops. -/

/-- `if` or `elif`; an `elif` is a branch alone in `otherwise`. -/
def branch (g : Rules) (keyword : String) : Reads Node :=
  diagnosed (mistakenHead (do let _ ← word keyword; g .namedExpression))
    <|> (do
      let t ← word keyword
      let test ← g .namedExpression
      let _ ← word ":"
      let body ← g .block
      let next ← g .elifBranch
      return .branch t.line test body [next])
    <|> (do
      let t ← word keyword
      let test ← g .namedExpression
      let _ ← word ":"
      let body ← g .block
      let otherwise ← elseBlock g
      return .branch t.line test body otherwise)

/-- `while`. -/
def whileLoop (g : Rules) : Reads Node :=
  diagnosed (mistakenHead (do let _ ← word "while"; g .namedExpression))
    <|> (do
      let t ← word "while"
      let test ← g .namedExpression
      let _ ← word ":"
      let body ← g .block
      let otherwise ← elseBlock g
      return .whileLoop t.line test body otherwise)

/-- `for`; after `in` there is no way back. -/
def forLoop (g : Rules) : Reads Node := do
  let line ← here
  let rest := fun (isAsync : Bool) (target : Node) => (do
    let source ← g .starExpressions
    let _ ← required ":"
    let body ← g .block
    let otherwise ← elseBlock g
    return .forLoop line isAsync target source body otherwise : Reads Node)
  let head := (do
    let _ ← word "for"
    let target ← g .starTargets
    let _ ← word "in"
    return target : Reads Node)
  diagnosed (mistakenHead (do
      let _ ← perhaps (word "async")
      let _ ← head
      g .starExpressions))
    <|> Reader.commit head (rest false)
      (Reader.commit (do let _ ← word "async"; head) (rest true)
        (diagnosed (mistakenLoopTarget g)))

/-! ## §5. `with`. -/

/-- What may stand behind an item. -/
def itemEnd : Reads Unit := ahead (oneOf [",", ")", ":"])

/-- An item of `with`. -/
def withItem (g : Rules) : Reads Node :=
  (do let context ← g .expression
      let _ ← word "as"
      let target ← g .starTarget
      itemEnd
      return .withItem context (some target))
    <|> diagnosed (do
      let _ ← g .expression
      let _ ← word "as"
      let e ← g .expression
      itemEnd
      refuse .assignment e)
    <|> (do
      let context ← g .expression
      return .withItem context none)

/-- The heads of `with` as its mistakes see them, without and with brackets. -/
def withHeads (g : Rules) : List (Reads Unit) :=
  let target := perhaps (do let _ ← word "as"; g .starTarget)
  [(do
      let _ ← perhaps (word "async")
      let _ ← word "with"
      let _ ← separated (do let _ ← g .expression; target) (word ",")
      return ()),
   (do
      let _ ← perhaps (word "async")
      let _ ← word "with"
      let _ ← word "("
      let _ ← separated (do let _ ← expressions g; target) (word ",")
      let _ ← perhaps (word ",")
      let _ ← word ")"
      return ())]

/-- The first alternative of several that finds its construct. -/
def firstOf {α : Type} (alternatives : List (Reads α)) : Reads α :=
  alternatives.foldr (fun p q => p <|> q) miss

/-- `with`. -/
def withBlock (g : Rules) : Reads Node := do
  let line ← here
  let heads := withHeads g
  let bracketed := fun (isAsync : Bool) => (do
    let _ ← word "with"
    let _ ← word "("
    let items ← separated (withItem g) (word ",")
    let _ ← perhaps (word ",")
    let _ ← word ")"
    let _ ← word ":"
    let body ← g .block
    return .withBlock line isAsync items body : Reads Node)
  let bare := fun (isAsync : Bool) => (do
    let _ ← word "with"
    let items ← separated (withItem g) (word ",")
    let _ ← word ":"
    let body ← g .block
    return .withBlock line isAsync items body : Reads Node)
  diagnosed (firstOf (heads.map fun h => (do h; let _ ← word ":"; blockMissing)))
    <|> bracketed false
    <|> bare false
    <|> (do let _ ← word "async"; bracketed true)
    <|> (do let _ ← word "async"; bare true)
    <|> diagnosed (firstOf (heads.map fun h => (do h; colonMissing)))

/-! ## §6. `try`. -/

/-- Known mistakes in `except`. -/
def mistakenHandler (g : Rules) : Reads Node :=
  (do let _ ← word "except"
      let _ ← perhaps (word "*")
      let e ← g .expression
      let _ ← word ","
      let _ ← expressions g
      let _ ← renamed
      let _ ← word ":"
      mistake e.line)
    <|> (do
      let _ ← word "except"
      let _ ← perhaps (word "*")
      let _ ← g .expression
      let _ ← renamed
      colonMissing)
    <|> (do let _ ← word "except"; colonMissing)
    <|> (do
      let _ ← word "except"
      let _ ← word "*"
      (do let _ ← kind .newline; return ()) <|> (do let _ ← word ":"; return ())
      mistakeHere)

/-- `except`. -/
def handler (g : Rules) : Reads Node :=
  diagnosed ((do
        let _ ← word "except"
        let _ ← g .expression
        let _ ← renamed
        let _ ← word ":"
        blockMissing)
      <|> (do let _ ← word "except"; let _ ← word ":"; blockMissing))
    <|> (do
      let t ← word "except"
      let type ← g .expression
      let _ ← renamed
      let _ ← word ":"
      let body ← g .block
      return .handler t.line (some type) body)
    <|> (do
      let t ← word "except"
      let _ ← word ":"
      let body ← g .block
      return .handler t.line none body)
    <|> diagnosed (mistakenHandler g)

/-- `except*`. -/
def starHandler (g : Rules) : Reads Node :=
  diagnosed (do
      let _ ← word "except"
      let _ ← word "*"
      let _ ← g .expression
      let _ ← renamed
      let _ ← word ":"
      blockMissing)
    <|> (do
      let t ← word "except"
      let _ ← word "*"
      let type ← g .expression
      let _ ← renamed
      let _ ← word ":"
      let body ← g .block
      return .handler t.line (some type) body)
    <|> diagnosed (mistakenHandler g)

/-- Known mistakes in `try`. -/
def mistakenAttempt (g : Rules) : Reads Node :=
  (do let _ ← word "try"
      let _ ← word ":"
      blockMissing)
    <|> (do
      let _ ← word "try"
      let _ ← word ":"
      let _ ← g .block
      notAhead (oneOf ["except", "finally"])
      mistakeHere)
    <|> (do
      let _ ← word "try"
      let _ ← word ":"
      let _ ← many (g .block)
      let _ ← (do let _ ← many1 (handler g); starHandler g)
        <|> (do let _ ← many1 (starHandler g); handler g)
      let _ ← many (g .block)
      mistakeHere)

/-- `try` with its handlers. -/
def attemptWith (g : Rules) (isStar : Bool) (handlers : Reads (List Node)) : Reads Node := do
  let t ← word "try"
  let _ ← required ":"
  let body ← g .block
  let handlers ← handlers
  let otherwise ← elseBlock g
  let final ← perhaps (wordBlock g "finally")
  return .attempt t.line isStar body handlers otherwise (final.getD [])

/-- `try`. -/
def attempt (g : Rules) : Reads Node :=
  diagnosed (mistakenAttempt g)
    <|> (do
      let t ← word "try"
      let _ ← required ":"
      let body ← g .block
      let final ← wordBlock g "finally"
      return .attempt t.line false body [] [] final)
    <|> attemptWith g false (many1 (handler g))
    <|> attemptWith g true (many1 (starHandler g))

/-! ## §7. `match`. -/

/-- The subject of `match`. -/
def subject (g : Rules) : Reads Node :=
  (do let line ← here
      let first ← g .starNamedExpression
      let _ ← word ","
      let rest ← perhaps (starNamedExpressions g)
      return .tuple line (first :: rest.getD []))
    <|> g .namedExpression

/-- The condition of a `case`. -/
def guardCondition (g : Rules) : Reads Node := do
  let _ ← word "if"
  g .namedExpression

/-- `case`. -/
def matchCase (g : Rules) : Reads Node :=
  diagnosed (mistakenHead (do
      let _ ← soft "case"
      let _ ← patterns g
      perhaps (guardCondition g)))
    <|> (do
      let _ ← soft "case"
      let p ← patterns g
      let condition ← perhaps (guardCondition g)
      let _ ← word ":"
      let body ← g .block
      return .matchCase p condition body)

/-- `match`. -/
def matching (g : Rules) : Reads Node :=
  (do let t ← soft "match"
      let s ← subject g
      let _ ← word ":"
      let _ ← kind .newline
      let _ ← kind .indent
      let cases ← many1 (matchCase g)
      let _ ← kind .dedent
      return .matching t.line s cases)
    <|> diagnosed (mistakenHead (do let _ ← soft "match"; subject g))

/-! ## §8. Definitions. -/

/-- Decorators. -/
def decorators (g : Rules) : Reads (List Node) := many1 (do
  let _ ← word "@"
  let e ← g .namedExpression
  let _ ← kind .newline
  return e)

/-- `def` without its decorators, which are handed in. -/
def functionCore (g : Rules) (decorators : List Node) : Reads Node :=
  let returns := perhaps (do let _ ← word "->"; g .expression)
  let core := fun (line : Nat) (isAsync : Bool) => (do
    let _ ← word "def"
    let name ← nameText
    let _ ← required "("
    let parameters ← parametersOrNone g .definition
    let _ ← word ")"
    let returns ← returns
    let _ ← required ":"
    let body ← g .block
    let last ← endLine
    return .function line last isAsync name parameters body decorators returns : Reads Node)
  diagnosed (do
      let _ ← perhaps (word "async")
      let _ ← word "def"
      let _ ← kind .name
      let _ ← word "("
      let _ ← parametersOrNone g .definition
      let _ ← word ")"
      let _ ← returns
      let _ ← word ":"
      blockMissing)
    <|> (do let line ← here
            core line false)
    <|> (do
      let t ← word "async"
      core t.line true)

/-- The bases and keywords of a class. -/
def classArguments (g : Rules) : Reads Arguments := do
  let a ← perhaps (do
    let _ ← word "("
    let a ← perhaps (g .arguments)
    let _ ← word ")"
    return a)
  return a.join.getD ⟨0, [], []⟩

/-- `class` without its decorators, which are handed in. -/
def classCore (g : Rules) (decorators : List Node) : Reads Node :=
  diagnosed (mistakenHead (do
      let _ ← word "class"
      let _ ← kind .name
      classArguments g))
    <|> (do
      let t ← word "class"
      let name ← nameText
      let a ← classArguments g
      let _ ← word ":"
      let body ← g .block
      return .classDef t.line name a.positional a.keywords body decorators)

/-- A definition with its decorators, or without. -/
def decorated (g : Rules) (core : List Node → Reads Node) : Reads Node :=
  (do let d ← decorators g
      core d)
    <|> core []

/-! ## §9. Blocks and files. -/

/-- A compound statement. -/
def compoundStatement (g : Rules) : Reads Node := do
  let t ← look
  let starts := fun (texts : List String) => t.kind == .fixed && texts.contains t.text
  let guarded := fun (texts : List String) (p : Reads Node) => if starts texts then p else miss
  guarded ["def", "@", "async"] (decorated g (functionCore g))
    <|> guarded ["if"] (branch g "if")
    <|> guarded ["class", "@"] (decorated g (classCore g))
    <|> guarded ["with", "async"] (withBlock g)
    <|> guarded ["for", "async"] (forLoop g)
    <|> guarded ["try"] (attempt g)
    <|> guarded ["while"] (whileLoop g)
    <|> matching g

/-- Statements. -/
def statements (g : Rules) : Reads (List Node) := do
  let parts ← many1 ((do return [← compoundStatement g]) <|> simpleStatements g)
  return parts.flatten

/-- A block. -/
def block (g : Rules) : Reads (List Node) :=
  (do let _ ← kind .newline
      let _ ← kind .indent
      let body ← statements g
      let _ ← kind .dedent
      return body)
    <|> simpleStatements g
    <|> diagnosed blockMissing

/-- A whole file. -/
def file (g : Rules) : Reads Node := do
  let body ← perhaps (statements g)
  let _ ← kind .finish
  return .module (body.getD [])

end CodeAudit.Source.Grammar
