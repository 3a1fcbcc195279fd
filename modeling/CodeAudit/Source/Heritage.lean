/-
  CodeAudit.Source.Heritage
  ─────────────────────────
  **INHERITANCE DEPTH OF CLASSES.**

  Classes are met parent first, in the order of `Node.preorder`.  A class
  without a named base has depth one; otherwise it is one deeper than its
  deepest named base, where a base not met yet counts as one deep.
-/
import CodeAudit.Source.Walk

namespace CodeAudit.Source

/-- A class with its bases that are plain names. -/
structure Declared where
  name : String
  bases : List String
  deriving DecidableEq, Repr

/-- The plain name that a node is. -/
def Node.plainName? : Node → Option String
  | .ident _ id => some id
  | _ => none

/-- The class that a node declares. -/
def Node.declared? : Node → Option Declared
  | .classDef _ name bases _ _ _ => some ⟨name, bases.filterMap plainName?⟩
  | _ => none

/-- The classes of a tree, in the order in which they are met. -/
def Node.declarations (n : Node) : List Declared := n.preorder.filterMap declared?

/-- The depth of each class met so far, in order of first meeting. -/
abbrev Heritage := List (String × Nat)

namespace Heritage

/-- The depth of a base: one when it has not been met. -/
def baseDepth (h : Heritage) (base : String) : Nat := (h.lookup base).getD 1

/-- The depth of a class. -/
def depthOf (h : Heritage) (bases : List String) : Nat :=
  match bases with
  | [] => 1
  | b :: rest => (rest.map h.baseDepth).foldl max (h.baseDepth b) + 1

/-- Write the depth of a class: at its place when it was met before. -/
def record (h : Heritage) (name : String) (depth : Nat) : Heritage :=
  match h with
  | [] => [(name, depth)]
  | (n, d) :: rest => if n == name then (n, depth) :: rest else (n, d) :: record rest name depth

/-- Meet a class. -/
def meet (h : Heritage) (c : Declared) : Heritage := h.record c.name (h.depthOf c.bases)

/-- Meet the classes of a tree. -/
def visit (h : Heritage) (n : Node) : Heritage := n.declarations.foldl meet h

/-- The greatest depth; zero without classes. -/
def deepest (h : Heritage) : Nat := (h.map (·.2)).foldl max 0

end Heritage

end CodeAudit.Source
