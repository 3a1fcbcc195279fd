/-
  CodeAudit.Source.Grammar.Arguments
  ──────────────────────────────────
  **THE ARGUMENTS OF A CALL.**

  Positional arguments come first, then keywords mixed with starred
  arguments, then keywords mixed with `**mapping`.
-/
import CodeAudit.Source.Grammar.Expressions

namespace CodeAudit.Source.Grammar

open Reader

/-! ## §1. Keywords. -/

/-- One argument in the part of a call where keywords stand: a starred one, or
a keyword. -/
inductive Argument where
  | starred (value : Node)
  | keyword (value : Node)

/-- The starred one of an argument. -/
def Argument.starred? : Argument → Option Node
  | .starred n => some n
  | .keyword _ => none

/-- The keyword of an argument. -/
def Argument.keyword? : Argument → Option Node
  | .starred _ => none
  | .keyword n => some n

/-- Known mistakes in a keyword. -/
def mistakenKeyword (g : Rules) : Reads Argument :=
  (do let t ← oneOf ["True", "False", "None"]
      let _ ← word "="
      mistake t.line)
    <|> (do
      let t ← kind .name
      let _ ← word "="
      let _ ← g .expression
      let _ ← g .clauses
      mistake t.line)
    <|> (do
      notAhead (do let _ ← kind .name; word "=")
      let e ← g .expression
      let _ ← word "="
      mistake e.line)

/-- `name = value`. -/
def keywordArgument (g : Rules) : Reads Argument := do
  let name ← nameText
  let _ ← word "="
  let value ← g .expression
  return .keyword (.keyword (some name) value)

/-- A keyword or a starred argument. -/
def keywordOrStarred (g : Rules) : Reads Argument :=
  diagnosed (mistakenKeyword g)
    <|> keywordArgument g
    <|> (do return .starred (← starredArgument g))

/-- A keyword or `**mapping`. -/
def keywordOrMapping (g : Rules) : Reads Argument :=
  diagnosed (mistakenKeyword g)
    <|> keywordArgument g
    <|> (do
      let _ ← word "**"
      let value ← g .expression
      return .keyword (.keyword none value))

/-- The part of a call where keywords stand. -/
def keywordPart (g : Rules) : Reads (List Argument) :=
  (do let a ← separated (keywordOrStarred g) (word ",")
      let _ ← word ","
      let b ← separated (keywordOrMapping g) (word ",")
      return a ++ b)
    <|> separated (keywordOrStarred g) (word ",")
    <|> separated (keywordOrMapping g) (word ",")

/-! ## §2. Arguments. -/

/-- A positional argument: starred, or an expression before no `=`. -/
def positionalArgument (g : Rules) : Reads Node :=
  starredArgument g <|> (do
    let e ← element g
    notAhead (word "=")
    return e)

/-- Arguments without a last comma. -/
def argumentList (g : Rules) : Reads Arguments := do
  let line ← here
  let gather := fun (positional : List Node) (others : List Argument) =>
    (⟨line, positional ++ others.filterMap Argument.starred?,
      others.filterMap Argument.keyword?⟩ : Arguments)
  (do let positional ← separated (positionalArgument g) (word ",")
      let others ← perhaps (do let _ ← word ","; keywordPart g)
      return gather positional (others.getD []))
    <|> (do
      let others ← keywordPart g
      return gather [] others)

/-- Known mistakes in arguments. -/
def mistakenArguments (g : Rules) : Reads Arguments :=
  (do let a ← g .argumentList
      let _ ← word ","
      let _ ← word "*"
      mistake a.line)
    <|> (do
      let e ← g .expression
      let _ ← g .clauses
      let _ ← word ","
      let _ ← perhaps ((do let _ ← g .argumentList; return ())
        <|> (do let _ ← g .expression; let _ ← g .clauses; return ()))
      mistake e.line)
    <|> (do
      let t ← kind .name
      let _ ← word "="
      let _ ← g .expression
      let _ ← g .clauses
      mistake t.line)
    <|> Reader.commit
      (do let a ← g .argumentList
          let _ ← g .clauses
          return a)
      (fun a => if 2 ≤ a.positional.length then
          mistake ((a.positional.getLast?.map Node.line).getD 0) else miss)
      ((do
        let _ ← g .argumentList
        let _ ← word ","
        let e ← g .expression
        let _ ← g .clauses
        mistake e.line)
      <|> (do
        let _ ← g .argumentList
        let _ ← word ","
        let _ ← g .argumentList
        mistakeHere))

/-- The arguments of a call, before its closing bracket. -/
def arguments (g : Rules) : Reads Arguments :=
  (do let a ← g .argumentList
      let _ ← perhaps (word ",")
      ahead (word ")")
      return a)
    <|> diagnosed (mistakenArguments g)

end CodeAudit.Source.Grammar
