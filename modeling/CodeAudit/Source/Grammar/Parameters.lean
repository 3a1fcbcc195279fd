/-
  CodeAudit.Source.Grammar.Parameters
  ───────────────────────────────────
  **THE PARAMETERS OF A FUNCTION.**

  The parameters of `def` stand before a closing bracket and may have hints;
  those of `lambda` stand before a colon and have none.  `Form` is the
  difference.
-/
import CodeAudit.Source.Grammar.Rule

namespace CodeAudit.Source.Grammar

open Reader

/-! ## §1. Single parameters. -/

/-- How parameters are written. -/
structure Form where
  /-- What ends the parameters. -/
  closing : String
  /-- Whether a parameter may have a hint. -/
  hinted : Bool

/-- The parameters of `def`. -/
def Form.definition : Form := ⟨")", true⟩

/-- The parameters of `lambda`. -/
def Form.lambda : Form := ⟨":", false⟩

/-- A parameter with its default value, if it has one. -/
abbrev Parameter := Node × Option Node

/-- A name with its hint. -/
def bareParameter (g : Rules) (form : Form) : Reads Node := do
  let t ← kind .name
  let hint ← if form.hinted then perhaps (do let _ ← word ":"; g .expression) else pure none
  return .parameter t.line t.text hint

/-- A comma after a parameter, or the end of the parameters. -/
def parameterEnd (form : Form) : Reads Unit :=
  (do let _ ← word ","; return ()) <|> ahead (word form.closing)

/-- A default value. -/
def defaultValue (g : Rules) : Reads Node :=
  (do let _ ← word "="; g .expression)
    <|> diagnosed (do
      let t ← word "="
      ahead (oneOf [")", ","])
      mistake t.line)

/-- A parameter without a default value. -/
def parameterPlain (g : Rules) (form : Form) : Reads Parameter := do
  let p ← bareParameter g form
  parameterEnd form
  return (p, none)

/-- A parameter with a default value. -/
def parameterDefault (g : Rules) (form : Form) : Reads Parameter := do
  let p ← bareParameter g form
  let d ← defaultValue g
  parameterEnd form
  return (p, some d)

/-- A parameter with or without a default value. -/
def parameterEither (g : Rules) (form : Form) : Reads Parameter := do
  let p ← bareParameter g form
  let d ← perhaps (defaultValue g)
  parameterEnd form
  return (p, d)

/-! ## §2. What follows a star. -/

/-- The parameters from the first star on. -/
structure Starred where
  rest : Option Node
  keywordOnly : List Parameter
  keywords : Option Node

/-- Known mistakes in `**name`. -/
def mistakenKeywords (g : Rules) (form : Form) : Reads Node :=
  (do let _ ← word "**"
      let _ ← bareParameter g form
      let t ← word "="
      mistake t.line)
    <|> (do
      let _ ← word "**"
      let _ ← bareParameter g form
      let _ ← word ","
      let p ← bareParameter g form
      mistake p.line)
    <|> (do
      let _ ← word "**"
      let _ ← bareParameter g form
      let _ ← word ","
      let t ← oneOf ["*", "**", "/"]
      mistake t.line)

/-- `**name`. -/
def keywordsParameter (g : Rules) (form : Form) : Reads Node :=
  diagnosed (mistakenKeywords g form) <|> (do
    let _ ← word "**"
    let p ← parameterPlain g form
    return p.1)

/-- Known mistakes after a star. -/
def mistakenStar (g : Rules) (form : Form) : Reads Starred :=
  let plainOrComma := (do let _ ← parameterPlain g form; return ())
    <|> (do let _ ← word ","; return () : Reads Unit)
  (do let t ← word "*"
      let _ ← word form.closing
        <|> (do let _ ← word ","; word form.closing <|> word "**")
      if form.hinted then mistake t.line else mistakeHere)
    <|> (do
      let _ ← word "*"
      let _ ← bareParameter g form
      let t ← word "="
      mistake t.line)
    <|> (do
      let _ ← word "*"
      plainOrComma
      let _ ← many (parameterEither g form)
      let t ← word "*"
      plainOrComma
      mistake t.line)

/-- A parameter whose hint is starred. -/
def parameterStarHint (g : Rules) (form : Form) : Reads Parameter := do
  let t ← kind .name
  let _ ← word ":"
  let hint ← g .starExpression
  parameterEnd form
  return (.parameter t.line t.text (some hint), none)

/-- The parameters from the first star on. -/
def starred (g : Rules) (form : Form) : Reads Starred :=
  diagnosed (mistakenStar g form)
    <|> (do
      let _ ← word "*"
      let rest ← parameterPlain g form
      let only ← many (parameterEither g form)
      let keywords ← perhaps (keywordsParameter g form)
      return ⟨some rest.1, only, keywords⟩)
    <|> (if form.hinted then do
          let _ ← word "*"
          let rest ← parameterStarHint g form
          let only ← many (parameterEither g form)
          let keywords ← perhaps (keywordsParameter g form)
          return ⟨some rest.1, only, keywords⟩
        else miss)
    <|> (do
      let _ ← word "*"
      let _ ← word ","
      let only ← many1 (parameterEither g form)
      let keywords ← perhaps (keywordsParameter g form)
      return ⟨none, only, keywords⟩)
    <|> (do
      let keywords ← keywordsParameter g form
      return ⟨none, [], some keywords⟩)

/-! ## §3. All parameters. -/

/-- The parameters of a function as one node. -/
def signature (positionalOnly regular : List Parameter) (star : Option Starred) : Node :=
  let star := star.getD ⟨none, [], none⟩
  .signature (positionalOnly.map (·.1)) (regular.map (·.1)) star.rest
    (star.keywordOnly.map (·.1)) (star.keywordOnly.filterMap (·.2)) star.keywords
    ((positionalOnly ++ regular).filterMap (·.2))

/-- The slash after positional parameters, and its comma or the end. -/
def slash (form : Form) : Reads Unit := do
  let _ ← word "/"
  parameterEnd form

/-- Positional parameters without default values, up to a slash. -/
def slashPlain (g : Rules) (form : Form) : Reads (List Parameter) := do
  let a ← many1 (parameterPlain g form)
  slash form
  return a

/-- Positional parameters with default values at the end, up to a slash. -/
def slashDefault (g : Rules) (form : Form) : Reads (List Parameter) := do
  let a ← many (parameterPlain g form)
  let b ← many1 (parameterDefault g form)
  slash form
  return a ++ b

/-- Known mistakes in parameters. -/
def mistakenParameters (g : Rules) (form : Form) : Reads Node :=
  let plain := parameterPlain g form
  let either := parameterEither g form
  let slashed := slashPlain g form <|> slashDefault g form
  (do let _ ← many plain
      let _ ← slashDefault g form <|> many1 (parameterDefault g form)
      let p ← plain
      mistake p.1.line)
    <|> (do
      let _ ← many plain
      let t ← word "("
      let _ ← if form.hinted then many1 plain
        else (do
          let ps ← separated (bareParameter g form) (word ",")
          return ps.map (·, none))
      let _ ← perhaps (word ",")
      let _ ← word ")"
      mistake t.line)
    <|> (do
      let t ← word "/"
      let _ ← word ","
      mistake t.line)
    <|> (do
      let _ ← slashed
      let _ ← many either
      let t ← word "/"
      mistake t.line)
    <|> (do
      let _ ← perhaps slashed
      let _ ← many either
      let _ ← word "*"
      (do let _ ← word ","; return ()) <|> (do let _ ← plain; return ())
      let _ ← many either
      let t ← word "/"
      mistake t.line)
    <|> (do
      let _ ← many1 either
      let _ ← word "/"
      let t ← word "*"
      mistake t.line)

/-- The parameters of a function. -/
def parameters (g : Rules) (form : Form) : Reads Node :=
  diagnosed (mistakenParameters g form)
    <|> (do
      let a ← slashPlain g form
      let b ← many (parameterPlain g form)
      let c ← many (parameterDefault g form)
      let d ← perhaps (starred g form)
      return signature a (b ++ c) d)
    <|> (do
      let a ← slashDefault g form
      let b ← many (parameterDefault g form)
      let c ← perhaps (starred g form)
      return signature a b c)
    <|> (do
      let a ← many1 (parameterPlain g form)
      let b ← many (parameterDefault g form)
      let c ← perhaps (starred g form)
      return signature [] (a ++ b) c)
    <|> (do
      let a ← many1 (parameterDefault g form)
      let b ← perhaps (starred g form)
      return signature [] a b)
    <|> (do
      let a ← starred g form
      return signature [] [] (some a))

/-- The parameters of a function that may have none. -/
def parametersOrNone (g : Rules) (form : Form) : Reads Node := do
  let p ← perhaps (parameters g form)
  return p.getD (signature [] [] none)

/-- `lambda`. -/
def lambda (g : Rules) : Reads Node := do
  let line ← here
  let _ ← word "lambda"
  let parameters ← parametersOrNone g .lambda
  let _ ← required ":"
  let body ← g .expression
  return .lambda line parameters body

end CodeAudit.Source.Grammar
