/-
  CodeAudit.Source.Grammar.Targets
  ────────────────────────────────
  **WHAT CAN BE ASSIGNED TO OR DELETED.**

  A target is a name, an attribute, an item, or a tuple or list of targets.
  `objectionable` finds the part of an expression that is no target.
-/
import CodeAudit.Source.Grammar.Rule

namespace CodeAudit.Source.Grammar

open Reader

/-! ## §1. Attributes and items as targets. -/

/-- What goes on a primary. -/
def trailerAhead : Reads Unit := ahead (oneOf ["(", "[", "."])

/-- One step inside a target; a further one has to follow. -/
def targetTrailer (g : Rules) (line : Nat) : Reads (Node → Node) :=
  (do let _ ← word "."
      let name ← nameText
      trailerAhead
      return fun value => .attr line value name)
    <|> (do
      let _ ← word "["
      let index ← g .slices
      let _ ← word "]"
      trailerAhead
      return fun value => .subscript line value index)
    <|> (do
      let argument ← g .generator
      trailerAhead
      return fun callee => .call line callee [argument] [])
    <|> (do
      let _ ← word "("
      let arguments ← perhaps (g .arguments)
      let _ ← word ")"
      trailerAhead
      let arguments := arguments.getD ⟨0, [], []⟩
      return fun callee => .call line callee arguments.positional arguments.keywords)

/-- What stands before the last attribute or item of a target. -/
def targetPrimary (g : Rules) (atom : Reads Node) : Reads Node := do
  let line ← here
  let first ← atom
  trailerAhead
  let steps ← many (targetTrailer g line)
  return steps.foldl (fun value step => step value) first

/-- An attribute or an item, with nothing behind it. -/
def attributeOrItem (g : Rules) : Reads Node :=
  (do let line ← here
      let value ← g .targetPrimary
      let _ ← word "."
      let name ← nameText
      notAhead trailerAhead
      return .attr line value name)
    <|> (do
      let line ← here
      let value ← g .targetPrimary
      let _ ← word "["
      let index ← g .slices
      let _ ← word "]"
      notAhead trailerAhead
      return .subscript line value index)

/-! ## §2. Targets of assignments. -/

/-- A name, or targets in brackets. -/
def starAtom (g : Rules) : Reads Node :=
  ident
    <|> (do
      let _ ← word "("
      let target ← g .starTargetAtom
      let _ ← word ")"
      return target)
    <|> (do
      let line ← here
      let _ ← word "("
      let items ← perhaps (
        (do let first ← g .starTarget
            let rest ← many1 (do let _ ← word ","; g .starTarget)
            let _ ← perhaps (word ",")
            return first :: rest)
          <|> (do
            let first ← g .starTarget
            let _ ← word ","
            return [first]))
      let _ ← word ")"
      return .tuple line (items.getD []))
    <|> (do
      let line ← here
      let _ ← word "["
      let items ← perhaps (do
        let items ← separated (g .starTarget) (word ",")
        let _ ← perhaps (word ",")
        return items)
      let _ ← word "]"
      return .list line (items.getD []))

/-- A target that is not starred. -/
def starTargetAtom (g : Rules) : Reads Node := attributeOrItem g <|> starAtom g

/-- A target, perhaps starred once. -/
def starTarget (g : Rules) : Reads Node :=
  (do let line ← here
      let _ ← word "*"
      notAhead (word "*")
      let value ← g .starTarget
      return .starred line value)
    <|> g .starTargetAtom

/-- Targets divided by commas. -/
def starTargets (g : Rules) : Reads Node :=
  (do let target ← g .starTarget
      notAhead (word ",")
      return target)
    <|> (do
      let line ← here
      let first ← g .starTarget
      let rest ← many (do let _ ← word ","; g .starTarget)
      let _ ← perhaps (word ",")
      return .tuple line (first :: rest))

/-- The single target of an annotated or augmented assignment. -/
def singleTarget (g : Rules) : Reads Node :=
  attributeOrItem g
    <|> ident
    <|> (do
      let _ ← word "("
      let target ← g .singleTarget
      let _ ← word ")"
      return target)

/-! ## §3. Targets of deletions. -/

/-- Deleted targets divided by commas. -/
def deletedTargets (g : Rules) : Reads (List Node) := do
  let items ← separated (g .deletedTarget) (word ",")
  let _ ← perhaps (word ",")
  return items

/-- A target of a deletion. -/
def deletedTarget (g : Rules) : Reads Node :=
  attributeOrItem g
    <|> ident
    <|> (do
      let _ ← word "("
      let target ← g .deletedTarget
      let _ ← word ")"
      return target)
    <|> (do
      let line ← here
      let _ ← word "("
      let items ← perhaps (deletedTargets g)
      let _ ← word ")"
      return .tuple line (items.getD []))
    <|> (do
      let line ← here
      let _ ← word "["
      let items ← perhaps (deletedTargets g)
      let _ ← word "]"
      return .list line (items.getD []))

/-! ## §4. Expressions that are no targets. -/

/-- What a target is for. -/
inductive Purpose where
  | assignment
  | deletion
  | loop
  deriving DecidableEq

/-- The first part of an expression that cannot be a target, if there is one.
In a loop, what stands before `in` is looked at. -/
def objectionable (purpose : Purpose) (e : Node) : Option Node :=
  match e with
  | .list _ items => items.attach.findSome? fun ⟨i, _⟩ => objectionable purpose i
  | .tuple _ items => items.attach.findSome? fun ⟨i, _⟩ => objectionable purpose i
  | .starred _ value => if purpose = .deletion then some e else objectionable purpose value
  | .comparison _ membership left _ =>
      if purpose = .loop then
        if membership then objectionable purpose left else none
      else some e
  | .ident _ _ | .subscript _ _ _ | .attr _ _ _ => none
  | _ => some e

/-- A mistake at the part of an expression that is no target; a miss when
there is none. -/
def refuse (purpose : Purpose) (e : Node) : Reads Node :=
  match objectionable purpose e with
  | some part => mistake part.line
  | none => miss

end CodeAudit.Source.Grammar
