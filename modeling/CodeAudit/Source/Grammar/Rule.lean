/-
  CodeAudit.Source.Grammar.Rule
  ─────────────────────────────
  **THE RULES THAT CALL EACH OTHER.**

  The grammar is written with open recursion: a rule is a plain definition
  that is handed all rules (`Rules`) and names the ones it needs.  The knot is
  tied in `CodeAudit.Source.Parse`.

  Some rules are remembered: what they found or missed at a position is kept,
  so a later alternative that needs the same construct at the same place takes
  it over, together with the mistakes that were or were not looked for.
-/
import CodeAudit.Source.Literal
import CodeAudit.Source.Reader

namespace CodeAudit.Source.Grammar

/-! ## §1. Rules and what they find. -/

/-- The rules that other rules refer to. -/
inductive Rule where
  | block
  | simpleStatement
  | elifBranch
  | expression
  | starExpressions
  | starExpression
  | namedExpression
  | starNamedExpression
  | disjunction
  | conjunction
  | inversion
  | bitOr
  | bitXor
  | bitAnd
  | shift
  | sum
  | term
  | factor
  | awaitPrimary
  | primary
  | slices
  | generator
  | literals
  | lambda
  | yielding
  | listDisplay
  | tuple
  | clauses
  | arguments
  | argumentList
  | starTargets
  | starTarget
  | starTargetAtom
  | targetPrimary
  | singleTarget
  | deletedTarget
  | closedPattern
  | pattern
  | starPattern
  | mistakenName
  | mistakenHintTarget
  deriving DecidableEq, Repr

/-- The arguments of a call: positional and starred ones, and keywords. -/
structure Arguments where
  line : Nat
  positional : List Node
  keywords : List Node

/-- What a rule finds. -/
@[reducible] def Rule.Result : Rule → Type
  | .block => List Node
  | .clauses => List Node
  | .arguments => Arguments
  | .argumentList => Arguments
  | _ => Node

/-- Rules whose outcomes are remembered. -/
def Rule.remembered : Rule → Bool
  | .block | .simpleStatement | .expression | .starExpression | .disjunction | .conjunction
  | .inversion | .bitOr | .bitXor | .bitAnd | .shift | .sum | .term | .factor | .awaitPrimary
  | .primary | .literals | .arguments | .starTarget | .starTargetAtom | .targetPrimary
  | .deletedTarget | .closedPattern | .starPattern | .mistakenName => true
  | _ => false

/-- The number of rules, which bounds how deep they call each other without
taking a token. -/
def ruleCount : Nat := 64

/-! ## §2. Memory. -/

/-- A remembered outcome: what a rule found and where that ended, or nothing. -/
structure Entry where
  rule : Rule
  outcome : Option (rule.Result × Nat)

/-- Remembered outcomes by position. -/
abbrev Memory := Array (List Entry)

/-- A reader with memory. -/
abbrev Reads := Reader Memory

/-- All rules. -/
abbrev Rules := (r : Rule) → Reads r.Result

/-- The remembered outcome of a rule among entries. -/
def outcomeOf? (r : Rule) : List Entry → Option (Option (r.Result × Nat))
  | [] => none
  | e :: rest => if h : e.rule = r then some (h ▸ e.outcome) else outcomeOf? r rest

/-- Remember the outcome of a rule at a position. -/
def remember (m : Memory) (position : Nat) (e : Entry) : Memory :=
  m.modify position (e :: ·)

/-- Take over the remembered outcome of a rule, or read and remember. -/
def remembering (r : Rule) (p : Reads r.Result) : Reads r.Result := fun env s =>
  let start := s.position
  match outcomeOf? r (s.memory[start]?.getD []) with
  | some (some (a, after)) => .found a { s with position := after }
  | some none => .missed s
  | none =>
      match p env s with
      | .found a s =>
          .found a { s with memory := remember s.memory start ⟨r, some (a, s.position)⟩ }
      | .missed s => .missed { s with memory := remember s.memory start ⟨r, none⟩ }
      | .failed f s => .failed f s

/-- Nothing remembered yet. -/
def noMemory (tokens : Tokens) : Memory := Array.replicate (tokens.all.size + 1) []

/-! ## §3. Common pieces. -/

open Reader

/-- A name, as an expression. -/
def ident : Reads Node := do
  let t ← kind .name
  return .ident t.line t.text

/-- The text of a name. -/
def nameText : Reads String := do return (← kind .name).text

/-- Operands joined by operators, grouped from the left. -/
def leftAssociative (operand : Reads Node) (operators : List String) : Reads Node := do
  let line ← here
  let first ← operand
  let rest ← many (do let _ ← oneOf operators; operand)
  return rest.foldl (fun left right => .binary line left right) first

end CodeAudit.Source.Grammar
