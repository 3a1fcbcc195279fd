/-
  CodeAudit.Proofs.Source.Parsing
  ───────────────────────────────
  **EVERY LINE OF A TREE IS A LINE OF THE TEXT.**

  The rules call each other at most so deep, and by induction on that number
  all of them find trees on allowed lines (`allFind_rules`).  The tokens of a
  text are on its lines, so the tree that is read from a text is a module
  (`parse_module`) with no line beyond its end (`parse_linesIn`), and neither
  has any node of the tree (`line_of_mem_preorder`).
-/
import CodeAudit.Proofs.Source.Statements
import CodeAudit.Proofs.Traversal
import CodeAudit.Source.Parse

namespace CodeAudit.Source

open CodeAudit.Text

variable {L : Nat → Prop}

/-! ## §1. The knot. -/

namespace Grammar

/-- Step: a rule finds trees on allowed lines once the rules that it calls do. -/
theorem finds_define {g : Rules} (hg : AllFind L g) (r : Rule) :
    Finds L (ResultIn L r) (define g r) := by
  have hatom := Finds.atom hg (atomMistakes g)
  cases r with
  | block => exact .block hg
  | simpleStatement => exact .simpleStatement hg
  | elifBranch => exact .branch hg _
  | expression => exact .expression hg
  | starExpressions => exact .tupleOf (hg .starExpression)
  | starExpression => exact .starExpression hg
  | namedExpression => exact .namedExpression hg
  | starNamedExpression => exact .starNamedExpression hg
  | disjunction => exact .logical (hg .conjunction) _
  | conjunction => exact .logical (hg .inversion) _
  | inversion => exact .inversion hg (.comparison hg)
  | bitOr => exact .leftAssociative (hg .bitXor) _
  | bitXor => exact .leftAssociative (hg .bitAnd) _
  | bitAnd => exact .leftAssociative (hg .shift) _
  | shift => exact .leftAssociative (hg .sum) _
  | sum => exact .leftAssociative (hg .term) _
  | term => exact .leftAssociative (hg .factor) _
  | factor => exact .factor hg
  | awaitPrimary => exact .awaitPrimary hg
  | primary => exact .primary hg hatom
  | slices => exact .slices hg
  | generator => exact .generator hg _
  | literals => exact .literals hg
  | lambda => exact .lambda hg
  | yielding => exact .yielding hg
  | listDisplay => exact .listDisplay hg
  | tuple => exact .tuple hg
  | clauses => exact .clauses hg _
  | arguments => exact .arguments hg
  | argumentList => exact .argumentList hg
  | starTargets => exact .starTargets hg
  | starTarget => exact .starTarget hg
  | starTargetAtom => exact .starTargetAtom hg
  | targetPrimary => exact .targetPrimary hg hatom
  | singleTarget => exact .singleTarget hg
  | deletedTarget => exact .deletedTarget hg
  | closedPattern => exact .closedPattern hg
  | pattern => exact .pattern hg
  | starPattern => exact .starPattern
  | mistakenName => exact .mistakenName hg
  | mistakenHintTarget => exact .mistakenHintTarget hg

/-- **All rules find trees on allowed lines, however deep they call each other.** -/
theorem allFind_rules (n : Nat) : AllFind L (rules n) := by
  induction n with
  | zero => exact fun _ => .miss
  | succ n ih =>
      intro r
      have hdefine : Finds L (ResultIn L r) (define (rules n) r) := finds_define ih r
      exact .ite (.remembering hdefine) hdefine

end Grammar

/-! ## §2. The lines of a text. -/

/-- A text has a line more than it has line feeds. -/
theorem length_splitLines (text : List Char) : (splitLines text).length = text.count '\n' + 1 := by
  unfold splitLines
  induction text with
  | nil => rfl
  | cons c rest ih =>
      unfold cutAt
      by_cases hc : c = '\n'
      · subst hc
        rw [List.count_cons_self, ← ih]
        rfl
      · have hcut : (c == '\n') = false := beq_false_of_ne hc
        rw [List.count_cons_of_ne hc, ← ih]
        simp only [hcut, Bool.false_eq_true, if_false]
        split
        · rename_i hrest
          rw [hrest] at ih
          cases ih
        · rename_i piece pieces hrest
          rw [hrest]
          rfl

/-- The number of a line of a text. -/
def LineOf (text : List Char) (line : Nat) : Prop := 1 ≤ line ∧ line ≤ (splitLines text).length

/-- What is read of a text is what the rule for a whole file finds. -/
theorem parse_found {text : List Char} (hclean : '\r' ∉ text) {P : Node → Prop}
    (hfile : ∀ n, Grammar.Finds (LineOf text) P (Grammar.file (Grammar.rules n))) {tree : Node}
    (h : parse text = .ok tree) : P tree := by
  -- A text starts on line 1 and goes on to the line after its last line feed.
  have hfit : Token.AllFit (LineOf text) (Token.scan 1 text) := by
    refine Token.fits_scan hclean fun k hk => ⟨Nat.le_add_right 1 k, ?_⟩
    rw [length_splitLines]
    omega
  unfold parse at h
  split at h
  · cases h
  simp only at h
  split at h
  · rename_i n hcomplete
    cases h
    exact Grammar.Finds.ok_of_complete (hfile _) hfit hcomplete
  · cases h

/-- **The tree of a text is on the lines of the text.** -/
theorem parse_linesIn {text : List Char} (hclean : '\r' ∉ text) {tree : Node}
    (h : parse text = .ok tree) : tree.LinesIn (LineOf text) :=
  parse_found hclean (fun _ => .file (Grammar.allFind_rules _)) h

/-- The tree of a text is a module. -/
theorem parse_module {text : List Char} (hclean : '\r' ∉ text) {tree : Node}
    (h : parse text = .ok tree) : ∃ body, tree = .module body := by
  refine parse_found hclean (P := fun n => ∃ body, n = .module body) (fun n => ?_) h
  refine .bind (.perhaps (.statements (Grammar.allFind_rules n))) fun body _ => ?_
  exact .bind (.kind _) fun _ _ => .pure ⟨_, rfl⟩

/-- The lines of a tree are the lines of its nodes. -/
theorem line_of_mem_preorder {tree : Node} (h : tree.LinesIn L) :
    ∀ n ∈ tree.preorder, n.lineless = true ∨ L n.line := by
  induction h with
  | mk line parts ih =>
      intro n hn
      rw [Node.preorder_eq] at hn
      rcases List.mem_cons.mp hn with rfl | hn
      · exact line
      · obtain ⟨c, hc, hn⟩ := List.mem_flatMap.mp hn
        exact ih c hc n hn

/-- The nodes that a walk comes to are on the lines of the tree. -/
theorem line_of_mem_walk {tree : Node} (h : tree.LinesIn L) {n : Node} (hn : n ∈ tree.walk) :
    n.lineless = true ∨ L n.line :=
  line_of_mem_preorder h n (tree.walk_perm.mem_iff.mp hn)

end CodeAudit.Source
