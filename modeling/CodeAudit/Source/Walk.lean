/-
  CodeAudit.Source.Walk
  ─────────────────────
  **THE TWO TRAVERSALS.**

  `walk` visits a tree level by level, `preorder` parent first and then part
  by part.  Both visit every node of the tree once.
-/
import CodeAudit.Source.Node

namespace CodeAudit.Source.Node

/-! ## §1. Level by level. -/

/-- The parts of several nodes weigh less than the nodes. -/
theorem weight_flatMap_children_le (nodes : List Node) :
    weight (nodes.flatMap children) + nodes.length ≤ weight nodes := by
  induction nodes with
  | nil => simp
  | cons n rest ih =>
      have := weight_children_lt n
      simp only [List.flatMap_cons, weight_append, weight_cons, List.length_cons]
      omega

/-- Nodes, then all their parts, then the parts of those, and so on. -/
def levels (nodes : List Node) : List Node :=
  match nodes with
  | [] => []
  | n :: rest => (n :: rest) ++ levels ((n :: rest).flatMap children)
termination_by weight nodes
decreasing_by
  have := weight_flatMap_children_le (n :: rest)
  simp only [List.length_cons] at this
  omega

/-- All nodes of a tree, level by level. -/
def walk (n : Node) : List Node := levels [n]

/-! ## §2. Parent first. -/

/-- All nodes of a tree, each before its parts and the parts in order. -/
def preorder (n : Node) : List Node :=
  n :: n.children.attach.flatMap fun ⟨c, _⟩ => preorder c
termination_by sizeOf n
decreasing_by exact sizeOf_lt_of_mem_children ‹_›

end CodeAudit.Source.Node
