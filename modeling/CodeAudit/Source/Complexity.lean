/-
  CodeAudit.Source.Complexity
  ───────────────────────────
  **CYCLOMATIC COMPLEXITY OF THE BLOCKS OF A MODULE.**

  A block is a function, a class, or a method of a class.  The complexity of a
  function is one more than its decisions; functions inside it are not
  entered.  The complexity of a class is the average over its methods, plus
  one when there are several; without methods it is one more than its
  decisions.
-/
import CodeAudit.Source.Node

namespace CodeAudit.Source

/-! ## §1. Decisions. -/

/-- The decisions of a node itself, its parts apart. -/
def Node.decisions : Node → Nat
  | .attempt _ isStar _ handlers otherwise _ =>
      if isStar then 0 else handlers.length + (if otherwise.isEmpty then 0 else 1)
  | .boolean _ values => values.length - 1
  | .branch _ _ _ _ => 1
  | .conditional _ _ _ _ => 1
  | .forLoop _ _ _ _ _ otherwise => 1 + (if otherwise.isEmpty then 0 else 1)
  | .whileLoop _ _ _ otherwise => 1 + (if otherwise.isEmpty then 0 else 1)
  | .clause _ _ conditions => 1 + conditions.length
  | .assertion _ _ _ => 1
  | _ => 0

/-! ## §2. Blocks. -/

/-- What a tree holds: decisions outside functions and classes, the
complexities of its functions, and those of its classes with their methods. -/
structure Tally where
  decisions : Nat
  functions : List Nat
  classes : List (Nat × List Nat)

namespace Tally

/-- Nothing. -/
def zero : Tally := ⟨0, [], []⟩

/-- Two tallies together. -/
def add (a b : Tally) : Tally :=
  ⟨a.decisions + b.decisions, a.functions ++ b.functions, a.classes ++ b.classes⟩

/-- Several tallies together. -/
def total (tallies : List Tally) : Tally := tallies.foldr add zero

/-- The complexity of a function from the tallies of its statements. -/
def functionComplexity (statements : List Tally) : Nat :=
  1 + (total statements).decisions

/-- The methods of a class. -/
def methods (statements : List Tally) : List Nat := statements.flatMap (·.functions)

/-- The complexity of a class from the tallies of its statements: that of its methods
on top of its own. -/
def classComplexity (statements : List Tally) : Nat :=
  let real := (methods statements).foldr (· + ·) (functionComplexity statements)
  let count := (methods statements).length
  if count = 0 then real else real / count + (if 1 < count then 1 else 0)

/-- The complexities of the blocks: functions, then each class and its methods. -/
def blocks (t : Tally) : List Nat :=
  t.functions ++ t.classes.flatMap fun (c, methods) => c :: methods

end Tally

/-- The statements of the body of a function are parts of it. -/
theorem Node.mem_children_of_mem_function_body {line endLine : Nat} {isAsync : Bool} {name : String}
    {parameters : Node} {body decorators : List Node} {returns : Option Node} {s : Node}
    (h : s ∈ body) :
    s ∈ (Node.function line endLine isAsync name parameters body decorators returns).children := by
  simp [children, h]

/-- The statements of the body of a class are parts of it. -/
theorem Node.mem_children_of_mem_class_body {line : Nat} {name : String}
    {bases keywords body decorators : List Node} {s : Node} (h : s ∈ body) :
    s ∈ (Node.classDef line name bases keywords body decorators).children := by
  simp [children, h]

/-- What a tree holds.  An assertion is not entered. -/
def Node.tally (n : Node) : Tally :=
  match n with
  | .function _ _ _ _ _ body _ _ =>
      ⟨0, [Tally.functionComplexity (body.attach.map fun ⟨s, _⟩ => s.tally)], []⟩
  | .classDef _ _ _ _ body _ =>
      let statements := body.attach.map fun ⟨s, _⟩ => s.tally
      ⟨0, [], [(Tally.classComplexity statements, Tally.methods statements)]⟩
  | .assertion line test message => ⟨(Node.assertion line test message).decisions, [], []⟩
  | n =>
      Tally.add ⟨n.decisions, [], []⟩
        (Tally.total (n.children.attach.map fun ⟨c, _⟩ => c.tally))
termination_by sizeOf n
decreasing_by
  · exact sizeOf_lt_of_mem_children (mem_children_of_mem_function_body ‹_›)
  · exact sizeOf_lt_of_mem_children (mem_children_of_mem_class_body ‹_›)
  · exact sizeOf_lt_of_mem_children ‹_›

/-- The complexities of the blocks of a module. -/
def Node.complexities (n : Node) : List Nat := n.tally.blocks

end CodeAudit.Source
