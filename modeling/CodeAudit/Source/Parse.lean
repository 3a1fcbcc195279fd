/-
  CodeAudit.Source.Parse
  ──────────────────────
  **FROM TEXT TO TREE.**

  The rules of the grammar are tied together by a number that bounds how deep
  they call each other.  A text of `n` tokens needs at most as many calls as
  there are rules before each token is taken.

      parse text : Except Flaw Node
-/
import CodeAudit.Source.Grammar.Statements

namespace CodeAudit.Source

open Grammar Reader

/-! ## §1. The knot. -/

/-- Each rule in terms of all rules. -/
def Grammar.define (g : Rules) : (r : Rule) → Reads r.Result
  | .block => block g
  | .simpleStatement => simpleStatement g
  | .elifBranch => branch g "elif"
  | .expression => expression g
  | .starExpressions => starExpressions g
  | .starExpression => starExpression g
  | .namedExpression => namedExpression g
  | .starNamedExpression => starNamedExpression g
  | .disjunction => logical (g .conjunction) "or"
  | .conjunction => logical (g .inversion) "and"
  | .inversion => inversion g (comparison g)
  | .bitOr => leftAssociative (g .bitXor) ["|"]
  | .bitXor => leftAssociative (g .bitAnd) ["^"]
  | .bitAnd => leftAssociative (g .shift) ["&"]
  | .shift => leftAssociative (g .sum) ["<<", ">>"]
  | .sum => leftAssociative (g .term) ["+", "-"]
  | .term => leftAssociative (g .factor) ["*", "/", "//", "%", "@"]
  | .factor => factor g
  | .awaitPrimary => awaitPrimary g
  | .primary => primary g (atom g (atomMistakes g))
  | .slices => slices g
  | .generator => generator g (mistakenComprehension g)
  | .literals => literals g
  | .lambda => lambda g
  | .yielding => yielding g
  | .listDisplay => listDisplay g
  | .tuple => tuple g
  | .clauses => many1 (clause g (mistakenLoopTarget g))
  | .arguments => arguments g
  | .argumentList => argumentList g
  | .starTargets => starTargets g
  | .starTarget => starTarget g
  | .starTargetAtom => starTargetAtom g
  | .targetPrimary => targetPrimary g (atom g (atomMistakes g))
  | .singleTarget => singleTarget g
  | .deletedTarget => deletedTarget g
  | .closedPattern => closedPattern g
  | .pattern => pattern g
  | .starPattern => starPattern
  | .mistakenName => mistakenName g
  | .mistakenHintTarget => mistakenHintTarget g

/-- The rules, calling each other at most `n` deep. -/
def Grammar.rules : Nat → Rules
  | 0 => fun _ => miss
  | n + 1 => fun r =>
      let p : Reads r.Result := fun env s => define (rules n) r env s
      if r.remembered then remembering r p else p

/-! ## §2. Whole texts. -/

/-- How deep the rules may call each other in a text of so many characters. -/
def Grammar.depthFor (length : Nat) : Nat := ruleCount * (2 * length + 16)

/-- What is wrong with a text that is no module. -/
inductive Flaw where
  /-- The text holds a null character. -/
  | nullCharacter
  /-- The grammar is broken on a line. -/
  | onLine (line : Nat)
  deriving DecidableEq, Repr

/-- The wording of a flaw, without the details of the grammar. -/
def Flaw.message : Flaw → String
  | .nullCharacter => "source code string cannot contain null bytes"
  | .onLine n => "line " ++ toString n

/-- The wording of a flaw inside a sentence. -/
def Flaw.clause : Flaw → String
  | .nullCharacter => "source code string cannot contain null bytes"
  | .onLine n => "<syntax error, line " ++ toString n ++ ">"

/-- Read a module: its tree, or what is wrong with the text. -/
def parse (text : List Char) : Except Flaw Node :=
  if text.contains '\x00' then .error .nullCharacter
  else
    let tokens := Token.scan 1 text
    match complete (file (rules (depthFor text.length))) (noMemory tokens) tokens with
    | .ok n => .ok n
    | .error line => .error (.onLine line)

end CodeAudit.Source
