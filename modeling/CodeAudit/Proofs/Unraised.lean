/-
  CodeAudit.Proofs.Unraised
  ─────────────────────────
  **COUNTERS THAT NO AUDIT RAISES.**

  A check makes findings and raises no counter; the counters are raised by
  the complexity, the structure, the linter and the lines of a file.  So the
  counters that are named after the checks stay where they start, whatever is
  found: at zero.

    • `raised_file` — the counters that the audit of a file can raise,
    • `metric?_unraised` — every other one but that of the dependencies is
      zero after every audit,
    • `security_metrics_stay_zero` — the metrics of security count the
      findings of a session if and only if there are none.
-/
import CodeAudit.Proofs.Breakdowns
import CodeAudit.Proofs.Conservation

namespace CodeAudit.Audit

open CodeAudit.Data CodeAudit.Source CodeAudit.Report

/-! ## §1. The counters that steps raise. -/

/-- The counters that a step raises. -/
def Step.raised : Step → List Counter
  | .count c _ => [c]
  | _ => []

/-- A step leaves the counters that it does not raise. -/
theorem contribution_of_unraised {s : Step} {c : Counter} (h : c ∉ s.raised) :
    s.contribution.totals c = 0 := by
  cases s with
  | count d n =>
      have hne : c ≠ d := fun heq => h (List.mem_singleton.mpr heq)
      show (Pi.single d n : Totals) c = 0
      rw [Pi.single_eq_of_ne hne]
  | _ => rfl

/-- Steps up to the first that halts leave the counters that none of them raises. -/
theorem contributionOf_of_unraised {steps : List Step} {c : Counter}
    (h : ∀ s ∈ steps, c ∉ s.raised) : (contributionOf steps).totals c = 0 := by
  induction steps with
  | nil => rfl
  | cons s rest ih =>
      obtain ⟨hs, hrest⟩ := List.forall_mem_cons.mp h
      unfold contributionOf
      split
      · exact contribution_of_unraised hs
      · show s.contribution.totals c + (contributionOf rest).totals c = 0
        rw [contribution_of_unraised hs, ih hrest]
        rfl

/-! ## §2. Files. -/

/-- Steps that raise accumulated counters only. -/
def Accumulates (steps : List Step) : Prop := ∀ s ∈ steps, ∀ c ∈ s.raised, c ∈ accumulated

theorem Accumulates.append {a b : List Step} (ha : Accumulates a) (hb : Accumulates b) :
    Accumulates (a ++ b) :=
  List.forall_mem_append.mpr ⟨ha, hb⟩

theorem accumulates_countSteps {counts : List (Counter × Int)}
    (h : ∀ p ∈ counts, p.1 ∈ accumulated) : Accumulates (countSteps counts) := by
  intro s hs c hc
  obtain ⟨p, hp, rfl⟩ := List.mem_map.mp hs
  rw [show c = p.1 from List.mem_singleton.mp hc]
  exact h p hp

/-- The counters that the blocks and nodes of a tree add to. -/
def treeCounters : List Counter :=
  [.cyclomatic, .branches, .classes, .functions, .functionLines, .parameters, .hints, .decorators]

theorem treeCounters_subset : treeCounters ⊆ accumulated := by decide

/-- The counters that the nodes alone add to. -/
def nodeCounters : List Counter :=
  [.classes, .functions, .functionLines, .parameters, .hints, .decorators]

theorem nodeCounters_subset : nodeCounters ⊆ treeCounters := by decide

/-- What blocks add to counters. -/
theorem raised_complexity (tree : Node) : ∀ p ∈ complexityCounts tree, p.1 ∈ treeCounters := by
  intro p hp
  obtain ⟨complexity, -, hp⟩ := List.mem_flatMap.mp hp
  rcases List.mem_cons.mp hp with rfl | hp
  · simp [treeCounters]
  · rw [List.mem_singleton.mp hp]
    simp [treeCounters]

/-- What a node adds to counters. -/
theorem raised_node (n : Node) : ∀ p ∈ structuralCounts n, p.1 ∈ nodeCounters := by
  have hhint : Counter.hints ∈ nodeCounters := by decide
  intro p hp
  unfold structuralCounts at hp
  split at hp
  · rw [List.mem_singleton.mp hp]
    simp [nodeCounters]
  · -- A function adds itself, its lines, its parameters, its hints and its decorators.
    simp only [List.mem_append, List.mem_cons, List.not_mem_nil, or_false, List.mem_map] at hp
    rcases hp with (((rfl | rfl | rfl) | ⟨_, -, rfl⟩) | hreturns) | rfl
    · simp [nodeCounters]
    · simp [nodeCounters]
    · simp [nodeCounters]
    · exact hhint
    · split at hreturns
      · rw [List.mem_singleton.mp hreturns]
        exact hhint
      · cases hreturns
    · simp [nodeCounters]
  · rw [List.mem_singleton.mp hp]
    exact hhint
  · cases hp

theorem raised_structure (n : Node) : ∀ p ∈ structuralCounts n, p.1 ∈ treeCounters :=
  fun p hp => nodeCounters_subset (raised_node n p hp)

/-- What the lines of a text add to counters. -/
theorem accumulated_lines (count : Lines.Count) : ∀ p ∈ lineCounts count, p.1 ∈ accumulated := by
  intro p hp
  rcases List.mem_cons.mp hp with rfl | hp
  · simp [accumulated]
  · rw [List.mem_singleton.mp hp]
    simp [accumulated]

/-- A check raises nothing, and neither does a halt. -/
theorem accumulates_checkSteps (k : Keywords) (lines : SourceLines) (n : Node) (c : Check) :
    Accumulates (checkSteps k lines n c) := by
  intro s hs d hd
  unfold checkSteps at hs
  split at hs
  · obtain ⟨f, -, rfl⟩ := List.mem_map.mp hs
    cases hd
  · rw [List.mem_singleton.mp hs] at hd
    cases hd

/-- The walk of a tree. -/
theorem accumulates_treeSteps (k : Keywords) (text : List Char) (tree : Node) :
    Accumulates (treeSteps k text tree) := by
  have hmeet : Accumulates (tree.declarations.map .meet) := by
    intro s hs c hc
    obtain ⟨d, -, rfl⟩ := List.mem_map.mp hs
    cases hc
  have hnode : ∀ n ∈ tree.walk, Accumulates (nodeSteps k (SourceLines.of text) n) := by
    intro n _
    refine .append (List.forall_mem_flatMap.mpr fun c _ => ?_)
      (accumulates_countSteps fun p hp => treeCounters_subset (raised_structure n p hp))
    exact accumulates_checkSteps k _ n c
  have hblocks : Accumulates (countSteps (complexityCounts tree)) :=
    accumulates_countSteps fun p hp => treeCounters_subset (raised_complexity tree p hp)
  exact .append (.append hblocks hmeet) (List.forall_mem_flatMap.mpr hnode)

theorem accumulates_lintSteps (lint : LintReply) : Accumulates (lintSteps lint) := by
  intro s hs c hc
  cases lint with
  | messages n =>
      rw [List.mem_singleton.mp hs] at hc
      rw [show c = .lint from List.mem_singleton.mp hc]
      simp [accumulated]
  | fails reason =>
      rcases List.mem_cons.mp hs with rfl | hs
      · cases hc
      · rw [List.mem_singleton.mp hs] at hc
        cases hc

theorem accumulates_lineSteps (text : List Char) : Accumulates (lineSteps text) := by
  unfold lineSteps
  split
  · exact accumulates_countSteps (accumulated_lines _)
  · intro s hs c hc
    rw [List.mem_singleton.mp hs] at hc
    cases hc

/-- **The audit of a file raises accumulated counters only.** -/
theorem raised_file (k : Keywords) (lint : LintReply) (bytes : List UInt8) :
    Accumulates (fileSteps k lint bytes) := by
  have hhalt : ∀ reason : String, Accumulates [.halt reason] := by
    intro reason s hs c hc
    rw [List.mem_singleton.mp hs] at hc
    cases hc
  unfold fileSteps
  split
  · exact hhalt _
  · unfold textSteps
    split
    · exact hhalt _
    · exact .append (.append (accumulates_treeSteps k _ _) (accumulates_lintSteps lint))
        (accumulates_lineSteps _)

/-! ## §3. Projects. -/

/-- No file adds to a counter that is not accumulated. -/
theorem totalsOf_of_unraised {c : Counter} (hc : c ∉ accumulated) (k : Keywords)
    (lint : String → LintReply) (files : List (String × List UInt8)) :
    totalsOf k lint files c = 0 := by
  unfold totalsOf contributions
  rw [Totals.sum_apply, List.map_map, List.map_map]
  refine List.sum_eq_zero fun x hx => ?_
  obtain ⟨f, -, rfl⟩ := List.mem_map.mp hx
  exact contributionOf_of_unraised fun s hs hraised =>
    hc (raised_file k (lint f.1) f.2 s hs c hraised)

/-- **A counter that files and scans leave alone is zero after every audit.** -/
theorem metric?_unraised {c : Counter} (hc : c ∉ accumulated) (hscan : c ≠ .vulnerableDependencies)
    (e : Edition) (s : Standing) (j : Job) : metric? (s.after e j).report c.key = some (.int 0) := by
  have htotal : (totalsOf .standard j.services.lint j.modules).afterScan j.services.scanner c
      = 0 := by
    rw [Totals.afterScan_of_ne _ _ hscan, totalsOf_of_unraised hc]
  show Dict.get? (summaryOf e j.services.model _ _) c.key = _
  rw [get?_summaryOf_key, htotal]

/-! ## §4. The metrics of security. -/

/-- The metrics of security, each with the category that it is named after. -/
def securityMetrics : List (Category × Counter) :=
  [(.sqlInjection, .sqlInjections), (.crossSiteScripting, .crossSiteScripting),
   (.sensitiveVariable, .sensitiveVariables), (.missingToken, .tokenProtection)]

/-- A metric of a report is the number of listed findings of a category. -/
def CountsFindings (report : Dict) (p : Category × Counter) : Prop :=
  metric? report p.2.key = some (.int ((listedTitles report).count p.1.title))

/-- What a session lists of a category comes from its modules, the findings of
scans apart. -/
theorem category_listed_iff {c : Category} (hc : c ≠ .vulnerableDependency) (e : Edition)
    (jobs : List Job) :
    (∃ f ∈ (standing e jobs).listing.findings, f.category = c) ↔
      ∃ j ∈ jobs, ∃ m ∈ j.modules, ∃ f ∈ j.findingsIn m, f.category = c := by
  constructor
  · rintro ⟨f, hf, hcategory⟩
    obtain ⟨j, hj, ⟨m, hm, hfm⟩ | hscan⟩ := findings_from e jobs hf
    · exact ⟨j, hj, m, hm, f, hfm, hcategory⟩
    · exact absurd (hcategory.symm.trans (advises_scan hscan).category) hc
  · rintro ⟨j, hj, m, hm, f, hf, hcategory⟩
    exact ⟨f, findings_kept e hj hm hf, hcategory⟩

/-- The metrics of security are zero after every audit, so they count findings
only where there is nothing to count. -/
theorem countsFindings_iff {p : Category × Counter} (hp : p ∈ securityMetrics) (e : Edition)
    (s : Standing) (j : Job) :
    metric? (s.after e j).report p.2.key = some (.int 0) ∧
      (CountsFindings (s.after e j).report p ↔ p.1.title ∉ listedTitles (s.after e j).report) := by
  have hraised : ∀ q ∈ securityMetrics, q.2 ∉ accumulated := by decide
  have hscan : ∀ q ∈ securityMetrics, q.2 ≠ .vulnerableDependencies := by decide
  have hzero := metric?_unraised (hraised p hp) (hscan p hp) e s j
  refine ⟨hzero, ?_⟩
  unfold CountsFindings
  rw [hzero, ← List.count_eq_zero]
  constructor
  · intro h
    injection h with h
    injection h with h
    omega
  · intro h
    rw [h]
    rfl

/-- **The metrics of security stay at zero**, whatever the modules of a session
hold and the services reply: they count the listed findings if and only if no
module of the session has one. -/
theorem security_metrics_stay_zero (e : Edition) (jobs : List Job) (j : Job) :
    let outcome := (session e jobs).audit e j.services j.directory j.files
    outcome.1 = .ok () ∧ ∀ p ∈ securityMetrics,
      metric? outcome.2.1.report p.2.key = some (.int 0) ∧
        (CountsFindings outcome.2.1.report p ↔
          ∀ i ∈ jobs ++ [j], ∀ m ∈ i.modules, ∀ f ∈ i.findingsIn m, f.category ≠ p.1) := by
  have hcategory : ∀ p ∈ securityMetrics, p.1 ≠ .vulnerableDependency := by decide
  obtain ⟨trace, haudit⟩ := audit_session e jobs j
  rw [haudit]
  refine ⟨rfl, fun p hp => ?_⟩
  obtain ⟨hzero, hcounts⟩ := countsFindings_iff hp e (standing e jobs) j
  refine ⟨hzero, ?_⟩
  show CountsFindings ((standing e jobs).after e j).report p ↔ _
  rw [hcounts, title_listed_iff, ← standing_append, category_listed_iff (hcategory p hp)]
  push Not
  rfl

/-- A project of one module: a secret in a variable, a query and a page made from
a variable, and a state change without a token. -/
def carelessProject : Job where
  services := ⟨fun _ => .messages 0, .absent, .predicts (.int 0), .fails "offline"⟩
  directory := "proj"
  files :=
    .single ⟨"a.py", "key = 1\nc.execute(q)\nr.render(q)\ndef f():\n    s.post()\n".toUTF8.toList⟩

/-- **A careless project has one finding of each kind, and no metric of security
counts it.** -/
theorem careless_findings_uncounted :
    let report := (session .full [carelessProject]).report
    ∀ p ∈ securityMetrics,
      (listedTitles report).count p.1.title = 1 ∧ metric? report p.2.key = some (.int 0) ∧
        ¬ CountsFindings report p := by
  have htitles : (foundIn carelessProject.services carelessProject.modules).findings.map
      (·.category.title) = ["Variable sensible", "Protection CSRF manquante",
        "Injection SQL potentielle", "XSS potentiel"] := by
    decide +kernel
  have hlisted : listedTitles (standing .full [carelessProject]).report
      = ["Variable sensible", "Protection CSRF manquante", "Injection SQL potentielle",
        "XSS potentiel"] := by
    rw [listedTitles_report, (standing_one .full carelessProject).1, htitles]
  have hcount : ∀ p ∈ securityMetrics, ["Variable sensible", "Protection CSRF manquante",
      "Injection SQL potentielle", "XSS potentiel"].count p.1.title = 1 := by decide
  intro report p hp
  obtain ⟨hzero, hcounts⟩ := countsFindings_iff hp .full .start carelessProject
  have hone : (listedTitles report).count p.1.title = 1 := by
    show (listedTitles (session .full [carelessProject]).report).count p.1.title = 1
    rw [session_report, hlisted, hcount p hp]
  have hreport : report = (Standing.after .full .start carelessProject).report := by
    show (session .full [carelessProject]).report = _
    rw [session_report]
    rfl
  refine ⟨hone, ?_, ?_⟩
  · rw [hreport, hzero]
  · rw [hreport, hcounts, not_not, ← hreport, ← List.count_pos_iff, hone]
    exact Nat.one_pos

end CodeAudit.Audit
