/-
  CodeAudit.Proofs.Additivity
  ───────────────────────────
  **AN AUDIT IS THE SUM OF ITS FILES.**

  Files share metrics and heritage, and each leaves what it has added even
  where its own audit halts.  Nothing of that is seen in the sums: what a new
  auditor reports of modules is what the audit of each module alone gives,
  added up, and the findings about dependencies behind the findings of each.
  So the order of the modules is of no account, but for the inheritance depth
  (and what is advised and predicted from it).

    • `amount_alone`, `findings_alone` — what a module alone gives,
    • `report_addsUp` — the report of modules,
    • `audit_additive` — both, and every other order.
-/
import CodeAudit.Proofs.Entries
import CodeAudit.Proofs.Session

namespace CodeAudit.Audit

open CodeAudit.Data CodeAudit.Source CodeAudit.Report
open Metrics (ofTotals)

/-! ## §1. A module alone. -/

/-- The audit of a module alone: all counters at zero, and no class met. -/
def alone (lint : String → LintReply) (f : String × List UInt8) : Ledger :=
  auditFile .standard (lint f.1) f.2 .zero []

/-- The whole number that metrics hold for a counter. -/
def amount (m : Metrics) (c : Counter) : Int :=
  match Dict.get? m c.key with
  | some (.int n) => n
  | _ => 0

/-- The counters that the modules of a project add to. -/
def accumulated : List Counter :=
  [.cyclomatic, .branches, .classes, .functions, .functionLines, .parameters, .codeLines,
   .commentLines, .lint, .hints, .decorators]

variable (lint : String → LintReply)

theorem alone_eq (f : String × List UInt8) :
    alone lint f = ⟨ofTotals (fileContribution .standard (lint f.1) f.2).totals,
      (fileContribution .standard (lint f.1) f.2).declared.foldl Heritage.meet [],
      (fileContribution .standard (lint f.1) f.2).findings⟩ := by
  rw [alone, Metrics.zero_eq_ofTotals, auditFile_ofTotals, zero_add]

/-- What a module alone adds to a counter is a whole number: its contribution. -/
theorem get?_alone (f : String × List UInt8) (c : Counter) :
    Dict.get? (alone lint f).metrics c.key = some (.int (amount (alone lint f).metrics c)) := by
  simp [alone_eq, amount]

theorem amount_alone (f : String × List UInt8) (c : Counter) :
    amount (alone lint f).metrics c = (fileContribution .standard (lint f.1) f.2).totals c := by
  simp [alone_eq, amount]

theorem findings_alone (f : String × List UInt8) :
    (alone lint f).findings = (fileContribution .standard (lint f.1) f.2).findings := by
  rw [alone_eq]

/-- The totals of modules, from each module alone. -/
theorem totalsOf_eq_sum (modules : List (String × List UInt8)) (c : Counter) :
    totalsOf .standard lint modules c
      = (modules.map fun f => amount (alone lint f).metrics c).sum := by
  simp only [totalsOf, Totals.sum_apply, contributions, List.map_map, amount_alone]
  rfl

/-- The findings of modules, from each module alone. -/
theorem findingsOf_eq (modules : List (String × List UInt8)) :
    findingsOf .standard lint modules = modules.map fun f => (f.1, (alone lint f).findings) := by
  simp only [findingsOf, findings_alone]

/-! ## §2. The report of a new auditor. -/

/-- A new auditor audits modules. -/
def firstAudit (e : Edition) (services : Services) (directory : String)
    (modules : List (String × List UInt8)) : Except Failure Unit × Auditor × Trace :=
  Auditor.new.perform (auditModules e Auditor.new.keywords services directory modules)

/-- The standing that a first audit leaves. -/
def firstStanding (e : Edition) (services : Services) (directory : String)
    (modules : List (String × List UInt8)) : Standing :=
  Standing.start.audited e .standard services directory modules

theorem firstAudit_eq (e : Edition) (services : Services) (directory : String)
    (modules : List (String × List UInt8)) :
    (firstAudit e services directory modules).1 = .ok () ∧
      (firstAudit e services directory modules).2.1.report
        = (firstStanding e services directory modules).report := by
  obtain ⟨trace, -, h⟩ := perform_auditModules .start e .standard services directory modules
  have hfirst : firstAudit e services directory modules
      = (.ok (), ⟨.standard, (firstStanding e services directory modules).report⟩, trace) := h
  rw [hfirst]
  exact ⟨rfl, rfl⟩

/-- The modules that have findings alone, each with these and then the findings
about dependencies. -/
def foundIn (services : Services) (modules : List (String × List UInt8)) : Listing :=
  (affectedOnly (modules.map fun f => (f.1, (alone services.lint f).findings))).addToAll
    services.scanner.findings

/-- The listing of a first audit. -/
theorem listing_firstStanding (e : Edition) (services : Services) (directory : String)
    {modules : List (String × List UInt8)} (h : (modules.map (·.1)).Nodup) :
    (firstStanding e services directory modules).listing = foundIn services modules := by
  have hnodup : ((findingsOf .standard services.lint modules).map (·.1)).Nodup := by
    rw [findingsOf, List.map_map]
    exact h
  have hentered := Standing.listing_enterAll { Standing.start with project := baseName directory }
    hnodup (fun f _ => List.not_mem_nil)
  show ((({ Standing.start with project := baseName directory }).enterAll
    (findingsOf .standard services.lint modules)).listing).addToAll _ = _
  rw [hentered, findingsOf_eq]
  rfl

/-- A report adds up: its metrics are sums over the modules alone, and its
findings are those of the modules alone with the findings about dependencies. -/
structure AddsUp (services : Services) (modules : List (String × List UInt8)) (report : Dict) :
    Prop where
  alone : ∀ f ∈ modules, ∀ c ∈ accumulated,
    Dict.get? (alone services.lint f).metrics c.key
      = some (.int (amount (Audit.alone services.lint f).metrics c))
  metrics : ∀ c ∈ accumulated,
    metric? report c.key
      = some (.int (modules.map fun f => amount (Audit.alone services.lint f).metrics c).sum)
  details : Dict.get? report "detailed_report" = some (.dict (foundIn services modules).toDict)

/-- **The report of modules adds up.** -/
theorem report_addsUp (e : Edition) (services : Services) (directory : String)
    {modules : List (String × List UInt8)} (h : (modules.map (·.1)).Nodup) :
    AddsUp services modules (firstAudit e services directory modules).2.1.report := by
  rw [(firstAudit_eq e services directory modules).2]
  refine ⟨fun f _ c _ => get?_alone services.lint f c, fun c hc => ?_, ?_⟩
  · have hne : c ≠ .vulnerableDependencies := by
      rintro rfl
      exact absurd hc (by decide)
    have hscan := Totals.afterScan_of_ne (totalsOf .standard services.lint modules)
      services.scanner hne
    rw [metric?_report, ← totalsOf_eq_sum, ← hscan]
    exact get?_summaryOf_key e services.model _ _ c
  · rw [Standing.get?_listing, listing_firstStanding e services directory h]

/-! ## §3. Every order. -/

/-- The metrics that do not depend on the order of modules. -/
def orderFree : List String :=
  accumulated.map Counter.key
    ++ [averageLinesKey, averageParametersKey, Counter.vulnerableDependencies.key]

/-- Two reports show the same figures, and the same findings of each file. -/
structure SameFigures (a b : Dict) : Prop where
  metrics : ∀ key ∈ orderFree, ∃ v, metric? a key = some v ∧ metric? b key = some v
  counts : ∀ key ∈ ["files_analyzed", "files_with_issues", "total_issues"],
    ∃ n : Nat, Dict.get? a key = some (.int n) ∧ Dict.get? b key = some (.int n)
  details : ∀ file, details? a file = details? b file

/-- The totals of modules in another order. -/
theorem totalsOf_perm {modules others : List (String × List UInt8)} (h : others.Perm modules) :
    totalsOf .standard lint others = totalsOf .standard lint modules :=
  ((h.map _).map _).sum_eq

/-- The findings of modules in another order. -/
theorem findingsOf_perm {modules others : List (String × List UInt8)} (h : others.Perm modules) :
    (findingsOf .standard lint others).Perm (findingsOf .standard lint modules) := h.map _

/-- What is looked up in a listing does not depend on the order of its files. -/
theorem lookup_perm {l m : Listing} (h : l.Perm m) (hnodup : l.files.Nodup) (file : String) :
    l.lookup file = m.lookup file := by
  induction h with
  | nil => rfl
  | cons d _ ih =>
      rw [Listing.files, List.map_cons, List.nodup_cons] at hnodup
      rw [List.lookup_cons, List.lookup_cons, ih hnodup.2]
  | swap d e l =>
      -- The two are about different files, so either may be looked at first.
      rw [Listing.files, List.map_cons, List.map_cons, List.nodup_cons] at hnodup
      have hne : e.1 ≠ d.1 := fun heq => hnodup.1 (heq ▸ List.mem_cons_self)
      obtain ⟨f, old⟩ := d
      obtain ⟨g, new⟩ := e
      by_cases hf : file = f
      · subst hf
        have hg : (file == g) = false := by simpa using Ne.symm hne
        simp [List.lookup_cons, hg]
      · have hf' : (file == f) = false := by simpa using hf
        simp [List.lookup_cons, hf']
  | trans h₁ _ ih₁ ih₂ =>
      exact (ih₁ hnodup).trans (ih₂ ((h₁.map _).nodup_iff.mp hnodup))

/-- The counts of a first audit, whatever the order of its modules. -/
theorem counts_firstStanding (e : Edition) (services : Services) (directory : String)
    (modules : List (String × List UInt8)) :
    (firstStanding e services directory modules).files
        = (findingsOf .standard services.lint modules).length ∧
      (firstStanding e services directory modules).affected
        = (affectedOnly (findingsOf .standard services.lint modules)).length ∧
      (firstStanding e services directory modules).issues
        = ((findingsOf .standard services.lint modules).map (·.2.length)).sum := by
  have hfiles := Standing.files_enterAll { Standing.start with project := baseName directory }
    (findingsOf .standard services.lint modules)
  have haffected := Standing.affected_enterAll { Standing.start with project := baseName directory }
    (findingsOf .standard services.lint modules)
  have hissues := Standing.issues_enterAll { Standing.start with project := baseName directory }
    (findingsOf .standard services.lint modules)
  refine ⟨hfiles.trans (Nat.zero_add _), haffected.trans (Nat.zero_add _),
    hissues.trans (Nat.zero_add _)⟩

/-- What the averages and the counters show does not depend on the heritage. -/
theorem orderFree_summary (e : Edition) (services : Services) (t : Totals) (h h' : Heritage)
    {key : String} (hkey : key ∈ orderFree) :
    ∃ v, Dict.get? (summaryOf e services.model t h) key = some v ∧
      Dict.get? (summaryOf e services.model t h') key = some v := by
  rcases List.mem_append.mp hkey with hkey | hkey
  · obtain ⟨c, -, rfl⟩ := List.mem_map.mp hkey
    exact ⟨.int (t c), get?_summaryOf_key .., get?_summaryOf_key ..⟩
  · rcases List.mem_cons.mp hkey with rfl | hkey
    · refine ⟨average (ofTotals t) .functionLines, ?_, ?_⟩ <;>
        rw [get?_summaryOf _ _ _ _ (by decide) (by decide), get?_averageLines]
    rcases List.mem_cons.mp hkey with rfl | hkey
    · refine ⟨average (ofTotals t) .parameters, ?_, ?_⟩ <;>
        rw [get?_summaryOf _ _ _ _ (by decide) (by decide), get?_averageParameters]
    · rw [List.mem_singleton] at hkey
      subst hkey
      exact ⟨.int (t .vulnerableDependencies), get?_summaryOf_key .., get?_summaryOf_key ..⟩

/-- **Another order shows the same figures.** -/
theorem sameFigures_of_perm (e : Edition) (services : Services) (directory : String)
    {modules others : List (String × List UInt8)} (h : (modules.map (·.1)).Nodup)
    (hperm : others.Perm modules) :
    SameFigures (firstAudit e services directory others).2.1.report
      (firstAudit e services directory modules).2.1.report := by
  have hothers : (others.map (·.1)).Nodup := (hperm.map _).nodup_iff.mpr h
  have hfound := findingsOf_perm services.lint hperm
  rw [(firstAudit_eq e services directory others).2, (firstAudit_eq e services directory modules).2]
  refine ⟨fun key hkey => ?_, fun key hkey => ?_, fun file => ?_⟩
  · show ∃ v, Dict.get? (summaryOf e services.model
      ((totalsOf .standard services.lint others).afterScan services.scanner) _) key = some v ∧ _
    rw [totalsOf_perm services.lint hperm]
    exact orderFree_summary e services _ _ _ hkey
  · obtain ⟨hfiles, haffected, hissues⟩ := counts_firstStanding e services directory others
    obtain ⟨hfiles', haffected', hissues'⟩ := counts_firstStanding e services directory modules
    rcases List.mem_cons.mp hkey with rfl | hkey
    · refine ⟨_, Standing.get?_files _, ?_⟩
      rw [Standing.get?_files, hfiles, hfiles', hfound.length_eq]
    rcases List.mem_cons.mp hkey with rfl | hkey
    · refine ⟨_, Standing.get?_affected _, ?_⟩
      rw [Standing.get?_affected, haffected, haffected']
      exact congrArg (fun n : Nat => some (Value.int n)) (hfound.filter _).length_eq.symm
    · rw [List.mem_singleton] at hkey
      subst hkey
      refine ⟨_, Standing.get?_issues _, ?_⟩
      rw [Standing.get?_issues, hissues, hissues', (hfound.map _).sum_eq]
  · -- The lists are permuted too, and each file has one at most.
    have hlisting : (foundIn services others).Perm (foundIn services modules) :=
      ((hperm.map _).filter _).map _
    have hnodup : (foundIn services others).files.Nodup := by
      rw [foundIn, Listing.files_addToAll]
      refine List.Nodup.sublist (List.filter_sublist.map _) ?_
      rw [List.map_map]
      exact hothers
    rw [details?_report, details?_report, listing_firstStanding e services directory hothers,
      listing_firstStanding e services directory h, Listing.get?_toDict, Listing.get?_toDict,
      lookup_perm hlisting hnodup]

/-- **The report of a new auditor on modules is the sum of the modules alone, in
any order.**  A project is audited as its modules are, in the order in which they are
walked, and these have distinct paths. -/
theorem audit_additive (e : Edition) (services : Services) (directory : String) :
    (∀ modules : List (String × List UInt8), (modules.map (·.1)).Nodup →
      (firstAudit e services directory modules).1 = .ok () ∧
      AddsUp services modules (firstAudit e services directory modules).2.1.report ∧
      ∀ others, others.Perm modules →
        SameFigures (firstAudit e services directory others).2.1.report
          (firstAudit e services directory modules).2.1.report) ∧
    ∀ files : Folder,
      Auditor.new.audit e services directory files
          = firstAudit e services directory (modulesOf directory files) ∧
        ((modulesOf directory files).map (·.1)).Nodup := by
  refine ⟨fun modules h => ⟨?_, ?_, ?_⟩, fun files => ⟨rfl, nodup_modulesOf directory files⟩⟩
  · exact (firstAudit_eq e services directory modules).1
  · exact report_addsUp e services directory h
  · exact fun others hperm => sameFigures_of_perm e services directory h hperm

/-- Two modules that cannot be read, and one hole in the dependencies: either
order lists two findings for each. -/
theorem audit_additive_unreadable :
    (([("b.py", [0xff]), ("a.py", [0xfe])] : List (String × List UInt8)).map (·.1)).Nodup ∧
      (foundIn ⟨fun _ => .messages 0, .ends 1 "[\x7b\x7d]", .fails "", .fails ""⟩
        [("b.py", [0xff]), ("a.py", [0xfe])]).map (fun d => (d.1, d.2.length))
          = [("b.py", 2), ("a.py", 2)] ∧
      AddsUp ⟨fun _ => .messages 0, .ends 1 "[\x7b\x7d]", .fails "", .fails ""⟩
        [("b.py", [0xff]), ("a.py", [0xfe])]
        (firstAudit .full ⟨fun _ => .messages 0, .ends 1 "[\x7b\x7d]", .fails "", .fails ""⟩ ""
          [("b.py", [0xff]), ("a.py", [0xfe])]).2.1.report ∧
      SameFigures
        (firstAudit .full ⟨fun _ => .messages 0, .ends 1 "[\x7b\x7d]", .fails "", .fails ""⟩ ""
          [("a.py", [0xfe]), ("b.py", [0xff])]).2.1.report
        (firstAudit .full ⟨fun _ => .messages 0, .ends 1 "[\x7b\x7d]", .fails "", .fails ""⟩ ""
          [("b.py", [0xff]), ("a.py", [0xfe])]).2.1.report := by
  have h := (audit_additive .full
    ⟨fun _ => .messages 0, .ends 1 "[\x7b\x7d]", .fails "", .fails ""⟩ "").1
    [("b.py", [0xff]), ("a.py", [0xfe])] (by decide)
  exact ⟨by decide, by decide, h.2.1, h.2.2 _ (List.Perm.swap _ _ _)⟩

end CodeAudit.Audit
