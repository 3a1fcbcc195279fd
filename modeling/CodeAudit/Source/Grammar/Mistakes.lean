/-
  CodeAudit.Source.Grammar.Mistakes
  ─────────────────────────────────
  **KNOWN MISTAKES IN EXPRESSIONS.**

  Each rule here describes a construct that is wrong in a known way and
  reports its line.  They take part only when a text has already been found
  wanting, and they never find anything.
-/
import CodeAudit.Source.Grammar.Expressions
import CodeAudit.Source.Grammar.Targets

namespace CodeAudit.Source.Grammar

open Reader

/-- Whether an expression is a word that was once a statement. -/
def isFormerStatement : Node → Bool
  | .ident _ id => id == "print" || id == "exec"
  | _ => false

/-- Two expressions side by side inside brackets, or a conditional without
`else`. -/
def mistakenExpression (g : Rules) : Reads Node :=
  Reader.commit
    (do notAhead ((do let _ ← kind .name; let _ ← kind .literal; return ())
          <|> (do let _ ← takeIf fun t => t.kind == .name && softReserved.contains t.text; return ()))
        let e ← g .disjunction
        let _ ← undiagnosed (expressionCore g)
        let nesting ← depth
        return (e, nesting))
    (fun (e, nesting) => if isFormerStatement e || nesting == 0 then miss else mistake e.line)
    (do let e ← g .disjunction
        let _ ← word "if"
        let _ ← g .disjunction
        notAhead (oneOf ["else", ":"])
        mistake e.line)

/-- A former statement before its operand. -/
def mistakenFormerStatement (g : Rules) : Reads Node := do
  let name ← ident
  notAhead (word "(")
  let _ ← g .starExpressions
  if isFormerStatement name then mistake name.line else miss

/-- An expression, after a look at what may be wrong with it. -/
def expression (g : Rules) : Reads Node :=
  diagnosed (mistakenExpression g)
    <|> diagnosed (mistakenFormerStatement g)
    <|> expressionCore g

/-- A name bound in the wrong way inside an expression. -/
def mistakenName (g : Rules) : Reads Node :=
  (do let e ← g .expression
      let _ ← word ":="
      let _ ← g .expression
      mistake e.line)
    <|> (do
      let t ← kind .name
      let _ ← word "="
      let _ ← g .bitOr
      notAhead (oneOf ["=", ":="])
      mistake t.line)
    <|> (do
      notAhead (g .listDisplay <|> g .tuple <|> g .generator
        <|> (do let t ← oneOf ["True", "None", "False"]; return .plain t.line))
      let e ← g .bitOr
      let _ ← word "="
      let _ ← g .bitOr
      notAhead (oneOf ["=", ":="])
      mistake e.line)

/-- A tuple or list where a single target is annotated. -/
def mistakenHintTarget (g : Rules) : Reads Node :=
  g .listDisplay
    <|> g .tuple
    <|> (do
      let _ ← word "("
      let e ← g .mistakenHintTarget
      let _ ← word ")"
      return e)

/-- A starred element of a comprehension, or several without brackets. -/
def mistakenComprehension (g : Rules) : Reads Node :=
  (do let _ ← oneOf ["[", "(", "\x7b"]
      let e ← starredArgument g
      let _ ← g .clauses
      mistake e.line)
    <|> (do
      let _ ← oneOf ["[", "\x7b"]
      let e ← g .starNamedExpression
      let _ ← word ","
      let _ ← starNamedExpressions g
      let _ ← g .clauses
      mistake e.line)
    <|> (do
      let _ ← oneOf ["[", "\x7b"]
      let e ← g .starNamedExpression
      let _ ← word ","
      let _ ← g .clauses
      mistake e.line)

/-- A mapping unpacked in a comprehension. -/
def mistakenDictComprehension (g : Rules) : Reads Node := do
  let _ ← word "\x7b"
  let t ← word "**"
  let _ ← g .bitOr
  let _ ← g .clauses
  let _ ← word "\x7d"
  mistake t.line

/-- A starred expression alone in brackets. -/
def mistakenGroup (g : Rules) : Reads Node :=
  (do let _ ← word "("
      let e ← starredArgument g
      let _ ← word ")"
      mistake e.line)
    <|> (do
      let _ ← word "("
      let t ← word "**"
      let _ ← g .expression
      let _ ← word ")"
      mistake t.line)

/-- A key whose value is starred or missing. -/
def mistakenValue (g : Rules) : Reads Node :=
  (do let _ ← g .expression
      let _ ← word ":"
      let t ← word "*"
      let _ ← g .bitOr
      mistake t.line)
    <|> (do
      let _ ← g .expression
      let t ← word ":"
      ahead (oneOf ["\x7d", ","])
      mistake t.line)

/-- An entry of a dictionary that is not a pair. -/
def mistakenEntries (g : Rules) : Reads Node :=
  (do let _ ← separated (entry g) (word ",")
      let _ ← word ","
      (do let e ← g .expression
          notAhead (word ":")
          mistake e.line)
        <|> mistakenValue g)
    <|> mistakenValue g

/-- What is no target in a clause. -/
def mistakenLoopTarget (g : Rules) : Reads Node := do
  let _ ← perhaps (word "async")
  let _ ← word "for"
  let e ← g .starExpressions
  refuse .loop e

/-- The mistakes that atoms look for. -/
def atomMistakes (g : Rules) : AtomMistakes :=
  ⟨mistakenGroup g, mistakenComprehension g, mistakenDictComprehension g, mistakenEntries g⟩

end CodeAudit.Source.Grammar
