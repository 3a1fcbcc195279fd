/-
  CodeAudit.Proofs.Classes
  ────────────────────────
  **CLASSES COUNTED AND CLASSES MET.**

  A file's classes are met before its nodes are walked, and counted during
  the walk.  The two numbers can only differ if the audit of the file ends in
  between, and it does not: the checks of a walk go on to its end
  (`treeSteps_goOn`).  A linter or a count of lines that
  fails comes later and changes neither number.

  The difference of the two is followed through the steps (`excess`); it is
  nothing for every file, whatever happens to it (`excess_file`).  So the
  classes of a project bound its heritage (`classes_bound_heritage`).
-/
import CodeAudit.Audit.TestSuite
import CodeAudit.Proofs.Checks
import CodeAudit.Proofs.Session
import CodeAudit.Proofs.Source.Parsing

namespace CodeAudit.Audit

open CodeAudit.Data CodeAudit.Source

/-! ## §1. Steps go on. -/

/-- Steps of which none ends the audit. -/
def GoOn (steps : List Step) : Prop := ∀ s ∈ steps, s.halts = false

theorem GoOn.append {a b : List Step} (ha : GoOn a) (hb : GoOn b) : GoOn (a ++ b) := by
  intro s hs
  rcases List.mem_append.mp hs with hs | hs
  · exact ha s hs
  · exact hb s hs

theorem GoOn.flatMap {α : Type} {xs : List α} {steps : α → List Step}
    (h : ∀ x ∈ xs, GoOn (steps x)) : GoOn (xs.flatMap steps) := by
  intro s hs
  obtain ⟨x, hx, hs⟩ := List.mem_flatMap.mp hs
  exact h x hx s hs

theorem GoOn.map {α : Type} (xs : List α) {step : α → Step} (h : ∀ x, (step x).halts = false) :
    GoOn (xs.map step) := by
  intro s hs
  obtain ⟨x, -, rfl⟩ := List.mem_map.mp hs
  exact h x

theorem countSteps_goOn (counts : List (Counter × Int)) : GoOn (countSteps counts) :=
  .map counts fun _ => rfl

/-- The steps at a node go on when its line is in the text. -/
theorem nodeSteps_goOn (k : Keywords) {text : List Char} {n : Node}
    (h : n.lineless = true ∨ LineOf text n.line) : GoOn (nodeSteps k (SourceLines.of text) n) := by
  refine .append (.flatMap fun c _ => ?_) (countSteps_goOn _)
  obtain ⟨fs, hfs⟩ := run_ok c k h
  unfold checkSteps
  rw [hfs]
  exact .map fs fun _ => rfl

/-- The text of a file has line feeds only. -/
theorem clean_of_fileText {bytes : List UInt8} {text : List Char} (h : fileText bytes = .ok text) :
    '\r' ∉ text := by
  unfold fileText at h
  cases hdecode : Text.Utf8.decode bytes with
  | error fault =>
      rw [hdecode] at h
      cases h
  | ok cs =>
      rw [hdecode] at h
      cases h
      exact Token.not_mem_unifyNewlines cs

/-- A file can be read when it has a text and the text has a tree. -/
theorem readable?_eq_some_iff {bytes : List UInt8} {tree : Node} :
    readable? bytes = some tree ↔ ∃ text, fileText bytes = .ok text ∧ parse text = .ok tree := by
  unfold readable?
  rw [Option.bind_eq_some_iff]
  constructor
  · rintro ⟨text, htext, htree⟩
    exact ⟨text, eq_ok_of_toOption htext, eq_ok_of_toOption htree⟩
  · rintro ⟨text, htext, htree⟩
    refine ⟨text, ?_, ?_⟩
    · rw [htext]
      rfl
    · rw [htree]
      rfl

/-- **The walk of a tree that was read from the text goes on to its end.** -/
theorem treeSteps_goOn (k : Keywords) {text : List Char} (hclean : '\r' ∉ text) {tree : Node}
    (h : parse text = .ok tree) : GoOn (treeSteps k text tree) := by
  refine .append (.append (countSteps_goOn _) (.map _ fun _ => rfl)) (.flatMap fun n hn => ?_)
  exact nodeSteps_goOn k (line_of_mem_walk (parse_linesIn hclean h) hn)

/-! ## §2. Classes counted less classes met. -/

/-- How many more classes are counted than met. -/
def Contribution.excess (c : Contribution) : Int := c.totals .classes - c.declared.length

@[simp] theorem Contribution.excess_followedBy (a b : Contribution) :
    (a.followedBy b).excess = a.excess + b.excess := by
  show (a.totals + b.totals) .classes - ((a.declared ++ b.declared).length : Int) = _
  rw [Pi.add_apply, List.length_append]
  unfold excess
  omega

/-- Steps that have nothing to do with classes, whether they go on or not. -/
theorem excess_eq_zero {steps : List Step} (h : ∀ s ∈ steps, s.contribution.excess = 0) :
    (contributionOf steps).excess = 0 := by
  induction steps with
  | nil => rfl
  | cons s rest ih =>
      obtain ⟨hs, hrest⟩ := List.forall_mem_cons.mp h
      unfold contributionOf
      split
      · exact hs
      · rw [Contribution.excess_followedBy, hs, ih hrest]
        rfl

/-- Steps that go on all count. -/
theorem excess_of_goOn {steps : List Step} (h : GoOn steps) :
    (contributionOf steps).excess = (steps.map (·.contribution.excess)).sum := by
  induction steps with
  | nil => rfl
  | cons s rest ih =>
      obtain ⟨hs, hrest⟩ := List.forall_mem_cons.mp h
      unfold contributionOf
      rw [hs, if_neg Bool.false_ne_true, Contribution.excess_followedBy, ih hrest, List.map_cons,
        List.sum_cons]

/-- Raising counters counts the classes among them. -/
theorem excess_countSteps (counts : List (Counter × Int)) :
    ((countSteps counts).map (·.contribution.excess)).sum = Totals.of counts .classes := by
  induction counts with
  | nil => rfl
  | cons p rest ih =>
      obtain ⟨c, n⟩ := p
      rw [Totals.of_cons, Pi.add_apply, ← ih]
      show (Pi.single c n : Totals) .classes - 0 + _ = _
      rw [Int.sub_zero]
      rfl

/-- Meeting classes takes as many off the excess. -/
theorem excess_meets (cs : List Declared) :
    ((cs.map Step.meet).map (·.contribution.excess)).sum = -(cs.length : Int) := by
  induction cs with
  | nil => rfl
  | cons c rest ih =>
      rw [List.map_cons, List.map_cons, List.sum_cons, ih, List.length_cons]
      show (0 - 1 : Int) + _ = _
      omega

/-- A check finds, or ends the audit, and meets no class. -/
theorem excess_checkSteps (k : Keywords) (lines : SourceLines) (n : Node) (c : Check) :
    ((checkSteps k lines n c).map (·.contribution.excess)).sum = 0 := by
  refine List.sum_eq_zero fun x hx => ?_
  obtain ⟨s, hs, rfl⟩ := List.mem_map.mp hx
  unfold checkSteps at hs
  split at hs
  · obtain ⟨f, -, rfl⟩ := List.mem_map.mp hs
    rfl
  · rw [List.mem_singleton] at hs
    subst hs
    rfl

/-- A walk counts the classes among its nodes. -/
theorem excess_nodes (k : Keywords) (lines : SourceLines) (nodes : List Node) :
    ((nodes.flatMap (nodeSteps k lines)).map (·.contribution.excess)).sum
      = Totals.of (nodes.flatMap structuralCounts) .classes := by
  have hchecks : ∀ (n : Node) (cs : List Check),
      ((cs.flatMap (checkSteps k lines n)).map (·.contribution.excess)).sum = 0 := by
    intro n cs
    induction cs with
    | nil => rfl
    | cons c rest ih =>
        rw [List.flatMap_cons, List.map_append, List.sum_append, excess_checkSteps, ih]
        rfl
  induction nodes with
  | nil => rfl
  | cons n rest ih =>
      rw [List.flatMap_cons, List.flatMap_cons, List.map_append, List.sum_append, ih, nodeSteps,
        List.map_append, List.sum_append, hchecks, excess_countSteps, Totals.of_append, Pi.add_apply,
        zero_add]

/-- **A tree counts as many classes as it meets.** -/
theorem excess_tree (k : Keywords) {text : List Char} (hclean : '\r' ∉ text) {tree : Node}
    (h : parse text = .ok tree) : (contributionOf (treeSteps k text tree)).excess = 0 := by
  rw [excess_of_goOn (treeSteps_goOn k hclean h), treeSteps, List.map_append, List.sum_append,
    List.map_append, List.sum_append, excess_countSteps, excess_meets, excess_nodes, classes_walk,
    classes_complexityCounts]
  omega

/-! ## §3. Files and projects. -/

/-- Neither the linter nor the lines of a text have anything to do with classes. -/
theorem excess_afterTree (lint : LintReply) (text : List Char) :
    (contributionOf (lintSteps lint ++ lineSteps text)).excess = 0 := by
  refine excess_eq_zero fun s hs => ?_
  rcases List.mem_append.mp hs with hs | hs
  · cases lint with
    | messages n =>
        rw [lintSteps, List.mem_singleton] at hs
        subst hs
        rfl
    | fails reason =>
        rw [lintSteps, List.mem_cons, List.mem_singleton] at hs
        rcases hs with rfl | rfl <;> rfl
  · unfold lineSteps at hs
    split at hs
    · simp only [countSteps, lineCounts, List.map_cons, List.map_nil, List.mem_cons,
        List.not_mem_nil, or_false] at hs
      rcases hs with rfl | rfl <;> rfl
    · rw [List.mem_singleton] at hs
      subst hs
      rfl

/-- **A file counts as many classes as it meets, however its audit ends.** -/
theorem excess_file (k : Keywords) (lint : LintReply) (bytes : List UInt8) :
    (fileContribution k lint bytes).excess = 0 := by
  unfold fileContribution fileSteps
  split
  · rfl
  · rename_i text htext
    have hclean := clean_of_fileText htext
    unfold textSteps
    split
    · rfl
    · rename_i tree htree
      rw [List.append_assoc, contributionOf_append (treeSteps_goOn k hclean htree),
        Contribution.excess_followedBy, excess_tree k hclean htree, excess_afterTree]
      rfl

/-- The files of a project count the classes that they declare. -/
theorem totalsOf_classes (k : Keywords) (lint : String → LintReply)
    (files : List (String × List UInt8)) :
    totalsOf k lint files .classes
      = (((contributions k lint files).flatMap (·.declared)).length : Int) := by
  unfold totalsOf contributions
  induction files with
  | nil => rfl
  | cons f rest ih =>
      have hfile := excess_file k (lint f.1) f.2
      unfold Contribution.excess at hfile
      simp only [List.map_cons, List.sum_cons, List.flatMap_cons, List.length_append, Pi.add_apply]
      rw [ih]
      push_cast
      omega

/-- The classes of a project bound its heritage. -/
theorem bounded_heritageOf (k : Keywords) (lint : String → LintReply)
    (files : List (String × List UInt8)) :
    ∃ met : Nat, totalsOf k lint files .classes = met ∧ (heritageOf k lint files).Bounded met := by
  refine ⟨_, totalsOf_classes k lint files, ?_⟩
  have h := Heritage.bounded_foldl Heritage.bounded_nil
    ((contributions k lint files).flatMap (·.declared))
  rwa [Nat.zero_add] at h

/-- **Both traversals visit the nodes of a tree as often, so a tree counts as many
classes as it meets, and so does a file whatever its audit runs into.  Hence
after any audit of a session the classes bound the heritage of the project.** -/
theorem classes_bound_heritage :
    (∀ tree : Node, tree.walk.Perm tree.preorder ∧
      Totals.of (tree.walk.flatMap structuralCounts) .classes = tree.declarations.length) ∧
    (∀ (k : Keywords) (lint : LintReply) (bytes : List UInt8),
      (fileContribution k lint bytes).totals .classes
        = (fileContribution k lint bytes).declared.length) ∧
    ∀ (e : Edition) (jobs : List Job) (j : Job), ∃ classes depth : Nat,
      let outcome := (session e jobs).audit e j.services j.directory j.files
      let heritage := (survey .standard j.services.lint j.modules).heritage
      outcome.1 = .ok () ∧
        metric? outcome.2.1.report Counter.classes.key = some (.int classes) ∧
        metric? outcome.2.1.report depthKey = some (.int depth) ∧
        (heritage.map (·.1)).Nodup ∧ heritage.length ≤ classes ∧ 0 ∉ heritage.map (·.2) ∧
        depth = heritage.deepest ∧ depth ≤ classes + 1 ∧ (depth = 0 ↔ classes = 0) := by
  refine ⟨fun tree => ⟨tree.walk_perm, classes_walk tree⟩, fun k lint bytes => ?_,
    fun e jobs j => ?_⟩
  · exact Int.sub_eq_zero.mp (excess_file k lint bytes)
  obtain ⟨met, hmet, hbounded⟩ := bounded_heritageOf .standard j.services.lint j.modules
  obtain ⟨trace, -, haudit⟩ := audit_report (standing e jobs) e .standard j.services j.directory
    j.files
  have hscan : (totalsOf .standard j.services.lint j.modules).afterScan j.services.scanner .classes
      = met := by
    rw [Totals.afterScan_of_ne _ _ (by decide), hmet]
  have hdepths : 0 ∉ (heritageOf .standard j.services.lint j.modules).map (·.2) := by
    intro hmem
    obtain ⟨p, hp, hzero⟩ := List.mem_map.mp hmem
    have hone := hbounded.one_le p hp
    omega
  -- What earlier audits left in the report is of no account for the metrics.
  refine ⟨met, (heritageOf .standard j.services.lint j.modules).deepest, ?_⟩
  rw [session_report, haudit, survey_eq]
  refine ⟨rfl, ?_, ?_, hbounded.nodup, hbounded.names_le, hdepths, rfl,
    Heritage.deepest_le hbounded, Heritage.deepest_eq_zero_iff hbounded⟩
  · show Dict.get? (summaryOf e j.services.model _ _) Counter.classes.key = _
    rw [get?_summaryOf_key, ← hscan]
    rfl
  · show Dict.get? (summaryOf e j.services.model _ _) depthKey = _
    rw [get?_summaryOf e j.services.model _ _ (by decide) (by decide), get?_depth]
    rfl

end CodeAudit.Audit
