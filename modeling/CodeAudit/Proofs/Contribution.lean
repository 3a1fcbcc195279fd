/-
  CodeAudit.Proofs.Contribution
  ─────────────────────────────
  **WHAT A FILE CONTRIBUTES.**

  The steps of a file's audit act on metrics and heritage that earlier files
  have left behind.  None of them looks at what is there: a step adds a fixed
  amount, meets a fixed class, makes a fixed finding or halts.  So a list of
  steps has a contribution of its own, whatever it acts on:

    • `Ledger.run_ofTotals` — running steps adds their contribution,
    • `auditFile_ofTotals` — so does auditing a file, halted or not,
    • `survey_eq` — auditing files adds up their contributions.
-/
import CodeAudit.Audit.Project
import CodeAudit.Proofs.Totals

namespace CodeAudit.Audit

open CodeAudit.Data CodeAudit.Source

/-! ## §1. The contribution of steps. -/

/-- What steps contribute: amounts to the counters, classes met, findings. -/
structure Contribution where
  totals : Totals
  declared : List Declared
  findings : List Finding

namespace Contribution

/-- Nothing. -/
def none : Contribution := ⟨0, [], []⟩

/-- One contribution, then another. -/
def followedBy (a b : Contribution) : Contribution :=
  ⟨a.totals + b.totals, a.declared ++ b.declared, a.findings ++ b.findings⟩

@[simp] theorem none_followedBy (a : Contribution) : none.followedBy a = a := by
  simp [none, followedBy]

@[simp] theorem followedBy_none (a : Contribution) : a.followedBy none = a := by
  simp [none, followedBy]

theorem followedBy_assoc (a b c : Contribution) :
    (a.followedBy b).followedBy c = a.followedBy (b.followedBy c) := by
  simp [followedBy, add_assoc]

end Contribution

/-- The contribution of one step; a halt leaves the finding that says why. -/
def Step.contribution : Step → Contribution
  | .count c n => ⟨Pi.single c n, [], []⟩
  | .need _ => .none
  | .meet c => ⟨0, [c], []⟩
  | .find f => ⟨0, [], [f]⟩
  | .halt reason => ⟨0, [], [.failed reason]⟩

/-- Whether a step ends the audit of a file. -/
def Step.halts : Step → Bool
  | .halt _ => true
  | _ => false

/-- The contribution of steps up to the first that halts. -/
def contributionOf : List Step → Contribution
  | [] => .none
  | s :: rest => if s.halts then s.contribution else s.contribution.followedBy (contributionOf rest)

/-- What comes before steps that never halt is contributed first. -/
theorem contributionOf_append {a : List Step} (ha : ∀ s ∈ a, s.halts = false) (b : List Step) :
    contributionOf (a ++ b) = (contributionOf a).followedBy (contributionOf b) := by
  induction a with
  | nil => simp [contributionOf]
  | cons s rest ih =>
      have hs : s.halts = false := ha s List.mem_cons_self
      have hrest : ∀ t ∈ rest, t.halts = false := fun t ht => ha t (List.mem_cons_of_mem _ ht)
      simp only [List.cons_append, contributionOf, hs, Bool.false_eq_true, if_false]
      rw [ih hrest, Contribution.followedBy_assoc]

/-! ## §2. Running steps. -/

namespace Ledger

/-- A step that does not halt succeeds on metrics that denote totals, and adds
its contribution. -/
theorem step_ofTotals (t : Totals) (h : Heritage) (fs : List Finding) {s : Step}
    (hs : s.halts = false) :
    step ⟨.ofTotals t, h, fs⟩ s
      = .ok ⟨.ofTotals (t + s.contribution.totals), s.contribution.declared.foldl Heritage.meet h,
          fs ++ s.contribution.findings⟩ := by
  cases s with
  | count c n => simp [step, Step.contribution]
  | need c => simp [step, Step.contribution, Contribution.none]
  | meet c => simp [step, Step.contribution]
  | find f => simp [step, Step.contribution]
  | halt reason => cases hs

/-- **Steps add their contribution, whatever they act on.** -/
theorem run_ofTotals (t : Totals) (h : Heritage) (fs : List Finding) (steps : List Step) :
    run ⟨.ofTotals t, h, fs⟩ steps
      = ⟨.ofTotals (t + (contributionOf steps).totals),
          (contributionOf steps).declared.foldl Heritage.meet h,
          fs ++ (contributionOf steps).findings⟩ := by
  induction steps generalizing t h fs with
  | nil => simp [run, contributionOf, Contribution.none]
  | cons s rest ih =>
      cases hs : s.halts with
      | false =>
          rw [run, step_ofTotals t h fs hs]
          simp only [contributionOf, hs, Bool.false_eq_true, if_false]
          rw [ih]
          simp [Contribution.followedBy, add_assoc]
      | true =>
          -- A halt is kept as a finding, and the rest is not taken.
          cases s with
          | halt reason => simp [run, step, contributionOf, Step.halts, Step.contribution]
          | _ => cases hs

end Ledger

/-! ## §3. Files. -/

/-- The contribution of a file. -/
def fileContribution (k : Keywords) (lint : LintReply) (bytes : List UInt8) : Contribution :=
  contributionOf (fileSteps k lint bytes)

/-- **A file contributes the same amounts, classes and findings whatever earlier
files have left.** -/
theorem auditFile_ofTotals (k : Keywords) (lint : LintReply) (bytes : List UInt8) (t : Totals)
    (h : Heritage) :
    auditFile k lint bytes (.ofTotals t) h
      = ⟨.ofTotals (t + (fileContribution k lint bytes).totals),
          (fileContribution k lint bytes).declared.foldl Heritage.meet h,
          (fileContribution k lint bytes).findings⟩ := by
  rw [auditFile, Ledger.run_ofTotals, List.nil_append]
  rfl

/-- The contribution of each of several files. -/
def contributions (k : Keywords) (lint : String → LintReply) (files : List (String × List UInt8)) :
    List Contribution :=
  files.map fun f => fileContribution k (lint f.1) f.2

/-- The totals of files. -/
def totalsOf (k : Keywords) (lint : String → LintReply) (files : List (String × List UInt8)) :
    Totals :=
  ((contributions k lint files).map (·.totals)).sum

/-- The heritage of files. -/
def heritageOf (k : Keywords) (lint : String → LintReply) (files : List (String × List UInt8)) :
    Heritage :=
  ((contributions k lint files).flatMap (·.declared)).foldl Heritage.meet []

/-- The findings of files, file by file. -/
def findingsOf (k : Keywords) (lint : String → LintReply) (files : List (String × List UInt8)) :
    List (String × List Finding) :=
  files.map fun f => (f.1, (fileContribution k (lint f.1) f.2).findings)

/-- Auditing more files adds up their contributions. -/
theorem foldl_add_eq (k : Keywords) (lint : String → LintReply) (files : List (String × List UInt8))
    (t : Totals) (h : Heritage) (found : List (String × List Finding)) :
    files.foldl (Survey.add k lint) ⟨.ofTotals t, h, found⟩
      = ⟨.ofTotals (t + totalsOf k lint files),
          ((contributions k lint files).flatMap (·.declared)).foldl Heritage.meet h,
          found ++ findingsOf k lint files⟩ := by
  induction files generalizing t h found with
  | nil => simp [totalsOf, findingsOf, contributions]
  | cons f rest ih =>
      rw [List.foldl_cons, Survey.add, auditFile_ofTotals]
      simp only
      rw [ih]
      simp [totalsOf, findingsOf, contributions, add_assoc]

/-- **A survey is the sum of what its files contribute.** -/
theorem survey_eq (k : Keywords) (lint : String → LintReply) (files : List (String × List UInt8)) :
    survey k lint files
      = ⟨.ofTotals (totalsOf k lint files), heritageOf k lint files, findingsOf k lint files⟩ := by
  rw [survey, Metrics.zero_eq_ofTotals, foldl_add_eq, zero_add, List.nil_append]
  rfl

end CodeAudit.Audit
