/-
  CodeAudit.Proofs.Blocks
  ───────────────────────
  **BLOCKS AND THEIR COMPLEXITY.**

  One pass over a tree tallies decisions, functions and classes together.
  Seen from outside, a tree has a surface: the nodes that are reached without
  looking into functions, classes and assertions.  Its functions and classes,
  and the functions on the surface of each class, are its blocks; and the
  pass gives each of them the complexity that its own surface settles.

    • `tally_eq` — the pass tallies the surface,
    • `complexities_eq` — so it lists the complexities of the blocks,
    • `one_le_complexity` — none of which is below one,
    • `totals_file`, `totalsOf_blocks` — the blocks of a file and of a project
      account for two counters, however the audit of a file ends,
    • `blocks_account_for_complexity` — so they do after every audit.
-/
import CodeAudit.Proofs.Aftermath

namespace CodeAudit.Source

namespace Node

/-! ## §1. The surface of a tree. -/

/-- Whether a node is looked at from outside only. -/
def isClosed : Node → Bool
  | .function _ _ _ _ _ _ _ _ => true
  | .classDef _ _ _ _ _ _ => true
  | .assertion _ _ _ => true
  | _ => false

/-- The nodes that are reached without looking into functions, classes and
assertions. -/
def surface (n : Node) : List Node :=
  n :: if n.isClosed then [] else n.children.attach.flatMap fun c => surface c.1
termination_by sizeOf n
decreasing_by exact sizeOf_lt_of_mem_children c.2

theorem surface_closed {n : Node} (h : n.isClosed = true) : n.surface = [n] := by
  rw [surface, if_pos h]

theorem surface_open {n : Node} (h : n.isClosed = false) :
    n.surface = n :: n.children.flatMap surface := by
  rw [surface, h, if_neg Bool.false_ne_true, List.flatMap_subtype (g := surface) (fun c h => rfl),
    List.unattach_attach]

/-- Whether a node is a function. -/
def isFunction : Node → Bool
  | .function _ _ _ _ _ _ _ _ => true
  | _ => false

/-- Whether a node is a class. -/
def isClass : Node → Bool
  | .classDef _ _ _ _ _ _ => true
  | _ => false

/-- The decisions on the surface of statements. -/
def decisionsIn (body : List Node) : Nat := ((body.flatMap surface).map decisions).sum

/-- The functions on the surface of statements. -/
def functionsIn (body : List Node) : List Node := (body.flatMap surface).filter isFunction

/-- The methods of a class. -/
def methods : Node → List Node
  | .classDef _ _ _ _ body _ => functionsIn body
  | _ => []

/-- One more than the decisions of a function. -/
def flow : Node → Nat
  | .function _ _ _ _ _ body _ _ => 1 + decisionsIn body
  | _ => 0

/-- The complexity of a block: that of a function is its flow, and that of a class
is averaged over its methods.  Other nodes have none. -/
def complexity : Node → Nat
  | .classDef _ _ _ _ body _ =>
      let whole := 1 + decisionsIn body + ((functionsIn body).map flow).sum
      let count := (functionsIn body).length
      if count = 0 then whole else whole / count + (if 1 < count then 1 else 0)
  | n => n.flow

/-- The blocks of a tree: its functions, then each class and the methods of the
class. -/
def blocks (n : Node) : List Node :=
  n.surface.filter isFunction ++ (n.surface.filter isClass).flatMap fun c => c :: c.methods

/-! ## §2. The pass tallies the surface. -/

/-- What nodes that are looked at from outside amount to. -/
def tallyOf (nodes : List Node) : Tally where
  decisions := (nodes.map decisions).sum
  functions := (nodes.filter isFunction).map complexity
  classes := (nodes.filter isClass).map fun c => (c.complexity, c.methods.map complexity)

theorem tallyOf_append (a b : List Node) : tallyOf (a ++ b) = (tallyOf a).add (tallyOf b) := by
  simp [tallyOf, Tally.add]

/-- Nodes one after the other amount to what each of them does. -/
theorem tallyOf_flatMap (nodes : List Node) (parts : Node → List Node) :
    tallyOf (nodes.flatMap parts) = Tally.total (nodes.map fun n => tallyOf (parts n)) := by
  induction nodes with
  | nil => rfl
  | cons n rest ih =>
      rw [List.flatMap_cons, tallyOf_append, ih]
      rfl

/-- A node that is open has decisions only. -/
theorem tallyOf_open {n : Node} (h : n.isClosed = false) : tallyOf [n] = ⟨n.decisions, [], []⟩ := by
  have hkinds : n.isFunction = false ∧ n.isClass = false := by
    cases n with
    | function | classDef => cases h
    | _ => exact ⟨rfl, rfl⟩
  simp [tallyOf, hkinds.1, hkinds.2]

theorem tally_open {n : Node} (h : n.isClosed = false) :
    n.tally = Tally.add ⟨n.decisions, [], []⟩ (Tally.total (n.children.map tally)) := by
  rw [tally.eq_def]
  split
  · cases h
  · cases h
  · cases h
  · rw [List.map_subtype (g := tally) (fun c h => rfl), List.unattach_attach]

theorem tally_function (line endLine : Nat) (isAsync : Bool) (name : String) (parameters : Node)
    (body decorators : List Node) (returns : Option Node) :
    (function line endLine isAsync name parameters body decorators returns).tally
      = ⟨0, [Tally.functionComplexity (body.map tally)], []⟩ := by
  rw [tally, List.map_subtype (g := tally) (fun s h => rfl), List.unattach_attach]

theorem tally_classDef (line : Nat) (name : String) (bases keywords body decorators : List Node) :
    (classDef line name bases keywords body decorators).tally
      = ⟨0, [], [(Tally.classComplexity (body.map tally), Tally.methods (body.map tally))]⟩ := by
  rw [tally, List.map_subtype (g := tally) (fun s h => rfl), List.unattach_attach]

/-- The flow of a function, from the tallies of its statements. -/
theorem functionComplexity_eq {body : List Node} (h : ∀ s ∈ body, s.tally = tallyOf s.surface) :
    Tally.functionComplexity (body.map tally) = 1 + decisionsIn body := by
  unfold Tally.functionComplexity
  rw [List.map_congr_left h, ← tallyOf_flatMap]
  rfl

/-- The methods of a class, from the tallies of its statements. -/
theorem methods_eq {body : List Node} (h : ∀ s ∈ body, s.tally = tallyOf s.surface) :
    Tally.methods (body.map tally) = (functionsIn body).map complexity := by
  unfold Tally.methods functionsIn
  rw [List.map_congr_left h, List.flatMap_map, List.filter_flatMap, List.map_flatMap]
  rfl

/-- The complexity of a function is its flow. -/
theorem complexity_of_isFunction {n : Node} (h : n.isFunction = true) : n.complexity = n.flow := by
  cases n with
  | function => rfl
  | _ => cases h

theorem map_complexity_functionsIn (body : List Node) :
    (functionsIn body).map complexity = (functionsIn body).map flow :=
  List.map_congr_left fun _ hf => complexity_of_isFunction (List.mem_filter.mp hf).2

/-- Adding numbers one by one adds their sum. -/
theorem foldr_add (start : Nat) (ns : List Nat) : ns.foldr (· + ·) start = start + ns.sum := by
  induction ns with
  | nil => rfl
  | cons n rest ih =>
      rw [List.foldr_cons, ih, List.sum_cons]
      omega

/-- The complexity of a class, from the tallies of its statements. -/
theorem classComplexity_eq {body : List Node} (h : ∀ s ∈ body, s.tally = tallyOf s.surface)
    (line : Nat) (name : String) (bases keywords decorators : List Node) :
    Tally.classComplexity (body.map tally)
      = (classDef line name bases keywords body decorators).complexity := by
  have hcount : (Tally.methods (body.map tally)).length = (functionsIn body).length := by
    rw [methods_eq h, List.length_map]
  have hwhole : (Tally.methods (body.map tally)).foldr (· + ·)
      (Tally.functionComplexity (body.map tally))
        = 1 + decisionsIn body + ((functionsIn body).map flow).sum := by
    rw [foldr_add, functionComplexity_eq h, methods_eq h, map_complexity_functionsIn]
  unfold Tally.classComplexity
  simp only [hcount, hwhole]
  rfl

/-- **The pass tallies what is on the surface.** -/
theorem tally_eq (n : Node) : n.tally = tallyOf n.surface := by
  -- Every part is smaller, so all parts may be taken as tallied.
  induction n using preorder.induct with
  | case1 n ih =>
      cases hclosed : n.isClosed with
      | false =>
          rw [tally_open hclosed, surface_open hclosed, ← List.singleton_append, tallyOf_append,
            tallyOf_open hclosed, tallyOf_flatMap, List.map_congr_left ih]
      | true =>
          rw [surface_closed hclosed]
          cases n with
          | function line endLine isAsync name parameters body decorators returns =>
              have hbody : ∀ s ∈ body, s.tally = tallyOf s.surface :=
                fun s hs => ih s (mem_children_of_mem_function_body hs)
              rw [tally_function, functionComplexity_eq hbody]
              rfl
          | classDef line name bases keywords body decorators =>
              have hbody : ∀ s ∈ body, s.tally = tallyOf s.surface :=
                fun s hs => ih s (mem_children_of_mem_class_body hs)
              rw [tally_classDef, methods_eq hbody,
                classComplexity_eq hbody line name bases keywords decorators]
              rfl
          | assertion line test message =>
              rw [tally]
              rfl
          | _ => cases hclosed

/-- **The complexities of a tree are those of its blocks.** -/
theorem complexities_eq (n : Node) : n.complexities = n.blocks.map complexity := by
  unfold complexities blocks Tally.blocks
  rw [tally_eq, List.map_append, List.map_flatMap]
  show _ ++ List.flatMap _ ((n.surface.filter isClass).map _) = _
  rw [List.flatMap_map]
  rfl

/-- The methods of a class count for its average, a function in a method does not. -/
example : ((parse "class C:\n def f(): assert a\n def g():\n  def h(): pass\n".toList).toOption.map
    fun tree => tree.blocks.map complexity) = some [3, 2, 1] := by
  decide +kernel

/-! ## §3. No block below one. -/

/-- Whether a node is a function or a class. -/
def isBlock (n : Node) : Bool := n.isFunction || n.isClass

theorem one_le_flow {n : Node} (h : n.isFunction = true) : 1 ≤ n.flow := by
  cases n with
  | function => exact Nat.le_add_right 1 _
  | _ => cases h

/-- Functions weigh one each at least. -/
theorem length_le_sum_flow {fs : List Node} (h : ∀ f ∈ fs, f.isFunction = true) :
    fs.length ≤ (fs.map flow).sum := by
  induction fs with
  | nil => exact Nat.le_refl 0
  | cons f rest ih =>
      obtain ⟨hf, hrest⟩ := List.forall_mem_cons.mp h
      have hone := one_le_flow hf
      have hmore := ih hrest
      rw [List.length_cons, List.map_cons, List.sum_cons]
      omega

/-- **Functions and classes have a complexity of one at least.**  The whole of a
class outweighs the number of its methods, so its average is not below one. -/
theorem one_le_complexity {n : Node} (h : n.isBlock = true) : 1 ≤ n.complexity := by
  cases n with
  | function => exact Nat.le_add_right 1 _
  | classDef line name bases keywords body decorators =>
      have hmethods : (functionsIn body).length ≤ ((functionsIn body).map flow).sum :=
        length_le_sum_flow fun f hf => (List.mem_filter.mp hf).2
      simp only [complexity]
      split
      · omega
      · rename_i hcount
        have haverage : 1 ≤ (1 + decisionsIn body + ((functionsIn body).map flow).sum)
            / (functionsIn body).length :=
          Nat.div_pos (by omega) (Nat.pos_of_ne_zero hcount)
        omega
  | _ => cases h

/-- Blocks are functions and classes. -/
theorem isBlock_of_mem_blocks {n b : Node} (h : b ∈ n.blocks) : b.isBlock = true := by
  unfold isBlock
  rcases List.mem_append.mp h with hfunction | hclass
  · rw [(List.mem_filter.mp hfunction).2, Bool.true_or]
  · obtain ⟨c, hc, hb⟩ := List.mem_flatMap.mp hclass
    rcases List.mem_cons.mp hb with rfl | hmethod
    · rw [(List.mem_filter.mp hc).2, Bool.or_true]
    · cases c with
      | classDef => rw [(List.mem_filter.mp hmethod).2, Bool.true_or]
      | _ => cases hmethod

end Node

end CodeAudit.Source

namespace CodeAudit.Audit

open CodeAudit.Data CodeAudit.Source

/-! ## §4. Files and projects. -/

/-- The counters that blocks add to. -/
def blockCounters : List Counter := [.cyclomatic, .branches]

/-- What a block adds to a counter. -/
def share (c : Counter) (b : Node) : Int :=
  Totals.of [(.cyclomatic, (b.complexity : Int)), (.branches, (b.complexity : Int) - 1)] c

theorem share_cyclomatic (b : Node) : share .cyclomatic b = b.complexity := by
  simp [share]

theorem share_branches (b : Node) : share .branches b = b.complexity - 1 := by
  simp [share]

/-- The blocks of a tree add their shares. -/
theorem totals_complexityCounts (tree : Node) (c : Counter) :
    Totals.of (complexityCounts tree) c = (tree.blocks.map (share c)).sum := by
  unfold complexityCounts
  rw [tree.complexities_eq, List.flatMap_map]
  induction tree.blocks with
  | nil => rfl
  | cons b rest ih =>
      rw [List.flatMap_cons, Totals.of_append, Pi.add_apply, ih, List.map_cons, List.sum_cons]
      rfl

/-- No node adds to the counters of blocks. -/
theorem totals_tree (tree : Node) {c : Counter} (hc : c ∈ blockCounters) :
    treeTotals tree c = (tree.blocks.map (share c)).sum := by
  have hapart : ∀ d ∈ blockCounters, d ∉ nodeCounters := by decide
  have hnodes : Totals.of (tree.walk.flatMap structuralCounts) c = 0 := by
    refine Totals.of_apply_eq_zero fun hmem => hapart c hc ?_
    obtain ⟨p, hp, rfl⟩ := List.mem_map.mp hmem
    obtain ⟨n, -, hp⟩ := List.mem_flatMap.mp hp
    exact raised_node n p hp
  unfold treeTotals
  rw [Totals.of_append, Pi.add_apply, hnodes, totals_complexityCounts, Int.add_zero]

/-- The linter and the lines of a text add nothing to what blocks count. -/
theorem totals_afterTree (lint : LintReply) (text : List Char) {c : Counter}
    (hc : c ∈ blockCounters) : (contributionOf (lintSteps lint ++ lineSteps text)).totals c = 0 := by
  have hapart : ∀ d ∈ blockCounters, d ∉ [Counter.lint] ∧ d ∉ [Counter.codeLines] ∧
      d ∉ [Counter.commentLines] := by decide
  obtain ⟨hlint, hcode, hcomment⟩ := hapart c hc
  refine contributionOf_of_unraised (List.forall_mem_append.mpr ⟨?_, ?_⟩)
  · cases lint with
    | messages n => exact List.forall_mem_singleton.mpr hlint
    | fails reason =>
        exact List.forall_mem_cons.mpr
          ⟨List.not_mem_nil, List.forall_mem_singleton.mpr List.not_mem_nil⟩
  · unfold lineSteps
    split
    · exact List.forall_mem_cons.mpr ⟨hcode, List.forall_mem_singleton.mpr hcomment⟩
    · exact List.forall_mem_singleton.mpr List.not_mem_nil

/-- The blocks of a file: those of its tree, and none if it cannot be read. -/
def blocksIn (bytes : List UInt8) : List Node := ((readable? bytes).map Node.blocks).getD []

/-- **The blocks of a file account for what it adds, however its audit ends.** -/
theorem totals_file (k : Keywords) (lint : LintReply) (bytes : List UInt8) {c : Counter}
    (hc : c ∈ blockCounters) :
    (fileContribution k lint bytes).totals c = ((blocksIn bytes).map (share c)).sum := by
  unfold fileContribution fileSteps blocksIn readable?
  cases htext : fileText bytes with
  | error fault => rfl
  | ok text =>
      simp only [Except.toOption, Option.bind_some]
      unfold textSteps
      cases htree : parse text with
      | error flaw => rfl
      | ok tree =>
          have hlines : OnLines text tree := onLines_of_parse (clean_of_fileText htext) htree
          obtain ⟨found, hwalk⟩ := walkFindings_ok k hlines
          -- The blocks are counted first, so what ends the audit comes after them.
          simp only [List.append_assoc]
          rw [contributionOf_append (goOn_of_onLines k hlines), contributionOf_tree hlines hwalk]
          show treeTotals tree c + _ = _
          rw [totals_tree tree hc, totals_afterTree lint text hc, Int.add_zero]
          rfl

theorem isBlock_of_mem_blocksIn {bytes : List UInt8} {b : Node} (h : b ∈ blocksIn bytes) :
    b.isBlock = true := by
  unfold blocksIn at h
  cases hread : readable? bytes with
  | none =>
      rw [hread] at h
      cases h
  | some tree =>
      rw [hread] at h
      exact Node.isBlock_of_mem_blocks h

/-- The blocks of the modules of a project. -/
def Job.blocks (j : Job) : List Node := j.modules.flatMap fun m => blocksIn m.2

theorem Job.isBlock_of_mem_blocks {j : Job} {b : Node} (h : b ∈ j.blocks) : b.isBlock = true := by
  obtain ⟨m, -, hb⟩ := List.mem_flatMap.mp h
  exact isBlock_of_mem_blocksIn hb

/-- **The totals of a project are summed over its blocks.** -/
theorem totalsOf_blocks (k : Keywords) (lint : String → LintReply)
    (files : List (String × List UInt8)) {c : Counter} (hc : c ∈ blockCounters) :
    totalsOf k lint files c = ((files.flatMap fun m => blocksIn m.2).map (share c)).sum := by
  unfold totalsOf contributions
  induction files with
  | nil => rfl
  | cons f rest ih =>
      simp only [List.map_cons, List.sum_cons, Pi.add_apply, List.flatMap_cons, List.map_append,
        List.sum_append]
      rw [ih, totals_file k (lint f.1) f.2 hc]

/-- The counters of blocks after an audit. -/
theorem metric?_blocks (e : Edition) (s : Standing) (j : Job) {c : Counter}
    (hc : c ∈ blockCounters) :
    metric? (s.after e j).report c.key = some (.int (j.blocks.map (share c)).sum) := by
  have hscan : ∀ d ∈ blockCounters, d ≠ .vulnerableDependencies := by decide
  have htotal : (totalsOf .standard j.services.lint j.modules).afterScan j.services.scanner c
      = (j.blocks.map (share c)).sum := by
    rw [Totals.afterScan_of_ne _ _ (hscan c hc), totalsOf_blocks _ _ _ hc]
    rfl
  show Dict.get? (summaryOf e j.services.model _ _) c.key = _
  rw [get?_summaryOf_key, htotal]

/-! ## §5. Shares of blocks. -/

/-- The complexities of blocks add up in the one counter. -/
theorem sum_share_cyclomatic (bs : List Node) :
    (bs.map (share .cyclomatic)).sum = ((bs.map Node.complexity).sum : Nat) := by
  induction bs with
  | nil => rfl
  | cons b rest ih =>
      rw [List.map_cons, List.sum_cons, ih, share_cyclomatic, List.map_cons, List.sum_cons]
      push_cast
      rfl

/-- The other one falls short of it by one for each block, and no share is
negative. -/
theorem sum_share_branches {bs : List Node} (h : ∀ b ∈ bs, b.isBlock = true) :
    (bs.map (share .cyclomatic)).sum - (bs.map (share .branches)).sum = bs.length ∧
      0 ≤ (bs.map (share .branches)).sum := by
  induction bs with
  | nil => exact ⟨rfl, Int.le_refl 0⟩
  | cons b rest ih =>
      obtain ⟨hb, hrest⟩ := List.forall_mem_cons.mp h
      obtain ⟨hlength, hnonneg⟩ := ih hrest
      have hone := Node.one_le_complexity hb
      simp only [List.map_cons, List.sum_cons, List.length_cons, share_cyclomatic, share_branches]
      omega

/-- **The pass over a tree lists the complexities of its blocks, and no function or
class has one below one.  Hence, after any audit of a session, the complexity
of a project is that of the blocks in the modules that can be read, and the
branches fall short of it by the number of blocks.** -/
theorem blocks_account_for_complexity :
    (∀ tree : Node, tree.complexities = tree.blocks.map Node.complexity) ∧
    (∀ n : Node, n.isBlock = true → 1 ≤ n.complexity) ∧
    ∀ (e : Edition) (jobs : List Job) (j : Job), ∃ cyclomatic branches : Int,
      let outcome := (session e jobs).audit e j.services j.directory j.files
      outcome.1 = .ok () ∧
        metric? outcome.2.1.report Counter.cyclomatic.key = some (.int cyclomatic) ∧
        metric? outcome.2.1.report Counter.branches.key = some (.int branches) ∧
        (∀ b ∈ j.blocks, b.isBlock = true) ∧
        cyclomatic = ((j.blocks.map Node.complexity).sum : Nat) ∧
        cyclomatic - branches = j.blocks.length ∧ 0 ≤ branches ∧ branches ≤ cyclomatic := by
  refine ⟨Node.complexities_eq, fun n => Node.one_le_complexity, fun e jobs j => ?_⟩
  obtain ⟨trace, haudit⟩ := audit_session e jobs j
  have hblocks : ∀ b ∈ j.blocks, b.isBlock = true := fun b => Job.isBlock_of_mem_blocks
  obtain ⟨hapart, hnonneg⟩ := sum_share_branches hblocks
  refine ⟨(j.blocks.map (share .cyclomatic)).sum, (j.blocks.map (share .branches)).sum, ?_⟩
  rw [haudit]
  refine ⟨rfl, ?_, ?_, hblocks, sum_share_cyclomatic j.blocks, hapart, hnonneg, ?_⟩
  · exact metric?_blocks e (standing e jobs) j (by decide)
  · exact metric?_blocks e (standing e jobs) j (by decide)
  · omega

end CodeAudit.Audit
