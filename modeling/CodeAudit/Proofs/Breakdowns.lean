/-
  CodeAudit.Proofs.Breakdowns
  ───────────────────────────
  **FILES THAT BREAK DOWN.**

  Findings come from three hands: the checks of a node, a scan of
  dependencies, and the end of an audit that could not go on.  Only the last
  leaves a finding without a recommendation, and it leaves exactly one.

    • `advises_scan`, `madeBy_tree` — scans and walks recommend something,
    • `findings_file` — a file has findings of checks, and one more at the end
      if and only if it breaks down,
    • `failure_listed_iff` — a session lists a failure if and only if one of
      its modules has broken down.
-/
import CodeAudit.Proofs.Classes
import CodeAudit.Proofs.Listed

namespace CodeAudit.Audit

open CodeAudit.Data CodeAudit.Source

/-! ## §1. The findings of a scan. -/

/-- **A scan finds vulnerable dependencies, and recommends something.** -/
theorem advises_scan {r : ScannerReply} {f : Finding} (hf : f ∈ r.findings) :
    f.Advises .vulnerableDependency := by
  unfold ScannerReply.findings at hf
  split at hf
  · obtain ⟨hole, -, hhole⟩ := List.mem_filterMap.mp hf
    cases hole with
    | dict es =>
        cases hhole
        exact ⟨rfl, rfl⟩
    | _ => cases hhole
  · cases hf

/-! ## §2. The findings of steps. -/

/-- What steps find is found by one of them. -/
theorem mem_findings_contributionOf {steps : List Step} {f : Finding}
    (hf : f ∈ (contributionOf steps).findings) : ∃ s ∈ steps, f ∈ s.contribution.findings := by
  induction steps with
  | nil => cases hf
  | cons s rest ih =>
      unfold contributionOf at hf
      split at hf
      · exact ⟨s, List.mem_cons_self, hf⟩
      · rcases List.mem_append.mp hf with hf | hf
        · exact ⟨s, List.mem_cons_self, hf⟩
        · obtain ⟨t, ht, hft⟩ := ih hf
          exact ⟨t, List.mem_cons_of_mem _ ht, hft⟩

/-- The walk of a tree finds what the checks find. -/
theorem madeBy_tree (k : Keywords) {text : List Char} (hclean : '\r' ∉ text) {tree : Node}
    (h : parse text = .ok tree) :
    ∀ f ∈ (contributionOf (treeSteps k text tree)).findings, ∃ c : Check, f.MadeBy c := by
  intro f hf
  obtain ⟨s, hs, hfs⟩ := mem_findings_contributionOf hf
  have hgo : s.halts = false := treeSteps_goOn k hclean h s hs
  -- Of the steps of a walk only those of checks find something.
  unfold treeSteps at hs
  rcases List.mem_append.mp hs with hs | hs
  · rcases List.mem_append.mp hs with hs | hs
    · obtain ⟨p, -, rfl⟩ := List.mem_map.mp hs
      cases hfs
    · obtain ⟨d, -, rfl⟩ := List.mem_map.mp hs
      cases hfs
  · obtain ⟨n, -, hs⟩ := List.mem_flatMap.mp hs
    unfold nodeSteps at hs
    rcases List.mem_append.mp hs with hs | hs
    · obtain ⟨c, -, hs⟩ := List.mem_flatMap.mp hs
      refine ⟨c, ?_⟩
      unfold checkSteps at hs
      split at hs
      · rename_i found hrun
        obtain ⟨g, hg, rfl⟩ := List.mem_map.mp hs
        rw [show f = g from List.mem_singleton.mp hfs]
        exact madeBy_run c hrun g hg
      · rw [List.mem_singleton] at hs
        subst hs
        cases hgo
    · obtain ⟨p, -, rfl⟩ := List.mem_map.mp hs
      cases hfs

/-! ## §3. Files. -/

/-- A file breaks down: its audit does not come to its end. -/
inductive BreaksDown (lint : LintReply) (bytes : List UInt8) : Prop where
  /-- Its bytes are no text. -/
  | decoding {fault : Text.Utf8.Fault} (h : fileText bytes = .error fault)
  /-- Its text is no module. -/
  | parsing {text : List Char} {flaw : Flaw} (htext : fileText bytes = .ok text)
      (h : parse text = .error flaw)
  /-- The linter breaks down over it. -/
  | linting {text : List Char} {tree : Node} {reason : String} (htext : fileText bytes = .ok text)
      (htree : parse text = .ok tree) (h : lint = .fails reason)
  /-- Its lines cannot be counted. -/
  | counting {text : List Char} {tree : Node} {count : Int} {line : Nat}
      (htext : fileText bytes = .ok text) (htree : parse text = .ok tree)
      (hlint : lint = .messages count) (h : Lines.count text = .error line)

/-- What follows the walk: nothing is found, or the audit ends. -/
theorem findings_afterTree (lint : LintReply) (text : List Char) :
    (∃ count c, lint = .messages count ∧ Lines.count text = .ok c ∧
      (contributionOf (lintSteps lint ++ lineSteps text)).findings = []) ∨
    ((∃ reason, lint = .fails reason) ∨
        ∃ count line, lint = .messages count ∧ Lines.count text = .error line) ∧
      ∃ reason, (contributionOf (lintSteps lint ++ lineSteps text)).findings = [.failed reason] := by
  cases lint with
  | fails reason => exact .inr ⟨.inl ⟨reason, rfl⟩, reason, rfl⟩
  | messages count =>
      unfold lineSteps
      cases hcount : Lines.count text with
      | error line => exact .inr ⟨.inr ⟨count, line, rfl, rfl⟩, Lines.unfinished line, rfl⟩
      | ok c => exact .inl ⟨count, c, rfl, rfl, rfl⟩

/-- The findings of a file: those of checks, and one more if it breaks down. -/
inductive FileFindings (lint : LintReply) (bytes : List UInt8) (all : List Finding) : Prop where
  | whole (hwhole : ¬ BreaksDown lint bytes) (h : ∀ f ∈ all, ∃ c : Check, f.MadeBy c)
  | broken {found : List Finding} {reason : String} (hbroken : BreaksDown lint bytes)
      (h : ∀ f ∈ found, ∃ c : Check, f.MadeBy c) (hall : all = found ++ [.failed reason])

/-- **A file has the findings of checks, and a failure behind them if and only if
it breaks down.** -/
theorem findings_file (k : Keywords) (lint : LintReply) (bytes : List UInt8) :
    FileFindings lint bytes (fileContribution k lint bytes).findings := by
  unfold fileContribution fileSteps
  cases htext : fileText bytes with
  | error fault => exact .broken (.decoding htext) (List.forall_mem_nil _) rfl
  | ok text =>
      simp only
      unfold textSteps
      cases htree : parse text with
      | error flaw => exact .broken (.parsing htext htree) (List.forall_mem_nil _) rfl
      | ok tree =>
          have hclean := clean_of_fileText htext
          have hwalk := madeBy_tree k hclean htree
          have hsplit : (contributionOf (treeSteps k text tree ++ lintSteps lint
              ++ lineSteps text)).findings
              = (contributionOf (treeSteps k text tree)).findings
                ++ (contributionOf (lintSteps lint ++ lineSteps text)).findings := by
            rw [List.append_assoc, contributionOf_append (treeSteps_goOn k hclean htree)]
            rfl
          simp only
          rw [hsplit]
          rcases findings_afterTree lint text with ⟨count, c, hlint, hcount, hnone⟩ | ⟨hend, reason, hlast⟩
          · rw [hnone, List.append_nil]
            refine .whole ?_ hwalk
            -- Each way of breaking down is at odds with one of the four outcomes.
            rintro (⟨h⟩ | ⟨h, h'⟩ | ⟨h, -, h'⟩ | ⟨h, -, -, h'⟩)
            · rw [htext] at h
              cases h
            · rw [htext] at h
              cases h
              rw [htree] at h'
              cases h'
            · rw [hlint] at h'
              cases h'
            · rw [htext] at h
              cases h
              rw [hcount] at h'
              cases h'
          · rw [hlast]
            refine .broken ?_ hwalk rfl
            rcases hend with ⟨_, hlint⟩ | ⟨_, _, hlint, hcount⟩
            · exact .linting htext htree hlint
            · exact .counting htext htree hlint hcount

/-! ## §4. Sessions. -/

/-- What the audit of a module alone finds. -/
theorem findings_module (j : Job) (m : String × List UInt8) :
    FileFindings (j.services.lint m.1) m.2 (j.findingsIn m) := by
  unfold Job.findingsIn
  rw [findings_alone]
  exact findings_file .standard _ _

/-- A finding of a module recommends nothing only if it tells of a failure. -/
theorem recommended_module {j : Job} {m : String × List UInt8} {f : Finding}
    (hf : f ∈ j.findingsIn m) : f.recommendation.isSome = true ↔ f.category ≠ .failure := by
  have hcheck : (∃ c : Check, f.MadeBy c) →
      (f.recommendation.isSome = true ↔ f.category ≠ .failure) := by
    rintro ⟨c, hmade⟩
    rw [hmade.category]
    exact iff_of_true hmade.recommended (category_ne_failure c)
  rcases findings_module j m with ⟨-, h⟩ | ⟨-, h, hall⟩
  · exact hcheck (h f hf)
  · rw [hall] at hf
    rcases List.mem_append.mp hf with hf | hf
    · exact hcheck (h f hf)
    · rw [List.mem_singleton.mp hf]
      exact iff_of_false Bool.false_ne_true (fun hne => hne rfl)

/-- **A listed finding recommends nothing if and only if it tells of a failure.** -/
theorem recommended_iff (e : Edition) (jobs : List Job) {f : Finding}
    (hf : f ∈ (standing e jobs).listing.findings) :
    f.recommendation.isSome = true ↔ f.category ≠ .failure := by
  obtain ⟨j, -, ⟨m, -, hm⟩ | hscan⟩ := findings_from e jobs hf
  · exact recommended_module hm
  · obtain ⟨hcategory, hsome⟩ := advises_scan hscan
    rw [hcategory]
    exact iff_of_true hsome (by decide)

/-- What a module is found to hold is told in whole texts. -/
theorem whole_module {j : Job} {m : String × List UInt8} {f : Finding} (hf : f ∈ j.findingsIn m) :
    f.isWhole = true := by
  rcases findings_module j m with ⟨-, h⟩ | ⟨-, h, hall⟩
  · obtain ⟨c, hmade⟩ := h f hf
    exact hmade.whole
  · rw [hall] at hf
    rcases List.mem_append.mp hf with hf | hf
    · obtain ⟨c, hmade⟩ := h f hf
      exact hmade.whole
    · rw [List.mem_singleton.mp hf]
      rfl

/-- Whether what a scan tells of dependencies is whole: no text of its reply that a
finding quotes holds half of a surrogate pair alone. -/
def ScannerReply.isWhole (r : ScannerReply) : Bool := r.findings.all (·.isWhole)

/-- **Only a scan can list a finding that is not whole.** -/
theorem whole_listed (e : Edition) (jobs : List Job)
    (hscans : ∀ j ∈ jobs, j.services.scanner.isWhole = true) {f : Finding}
    (hf : f ∈ (standing e jobs).listing.findings) : f.isWhole = true := by
  obtain ⟨j, hj, ⟨m, -, hm⟩ | hscan⟩ := findings_from e jobs hf
  · exact whole_module hm
  · exact List.all_eq_true.mp (hscans j hj) f hscan

example : (ScannerReply.ends 1 "[\x7b\"advisory\": \"\\ud83d\\ude00\"\x7d]").isWhole = true ∧
    (ScannerReply.ends 1 "[\x7b\"advisory\": \"\\ud83d\"\x7d]").isWhole = false := by
  decide +kernel

/-- A module has a failure among its findings if and only if it breaks down. -/
theorem failure_module_iff (j : Job) (m : String × List UInt8) :
    (∃ f ∈ j.findingsIn m, f.category = .failure) ↔ BreaksDown (j.services.lint m.1) m.2 := by
  rcases findings_module j m with ⟨hwhole, h⟩ | ⟨hbroken, -, hall⟩
  · refine iff_of_false ?_ hwhole
    rintro ⟨f, hf, hfailure⟩
    obtain ⟨c, hmade⟩ := h f hf
    exact category_ne_failure c (hmade.category.symm.trans hfailure)
  · refine iff_of_true ?_ hbroken
    rw [hall]
    exact ⟨_, List.mem_append_right _ List.mem_cons_self, rfl⟩

/-- **A session lists a failure if and only if one of its modules has broken
down.** -/
theorem failure_listed_iff (e : Edition) (jobs : List Job) :
    (∃ f ∈ (standing e jobs).listing.findings, f.category = .failure) ↔
      ∃ j ∈ jobs, ∃ m ∈ j.modules, BreaksDown (j.services.lint m.1) m.2 := by
  constructor
  · rintro ⟨f, hf, hfailure⟩
    obtain ⟨j, hj, ⟨m, hm, hfm⟩ | hscan⟩ := findings_from e jobs hf
    · exact ⟨j, hj, m, hm, (failure_module_iff j m).mp ⟨f, hfm, hfailure⟩⟩
    · rw [(advises_scan hscan).category] at hfailure
      cases hfailure
  · rintro ⟨j, hj, m, hm, hbroken⟩
    obtain ⟨f, hf, hfailure⟩ := (failure_module_iff j m).mpr hbroken
    exact ⟨f, findings_kept e hj hm hf, hfailure⟩

end CodeAudit.Audit
