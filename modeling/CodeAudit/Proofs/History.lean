/-
  CodeAudit.Proofs.History
  ────────────────────────
  **WHAT EARLIER AUDITS HAVE TO DO WITH THE NEXT ONE.**

  An auditor keeps its report, and nothing else, from one project to the next.
  So an audit makes of a project what a new auditor makes of it: the same
  metrics, advice and prediction.  The counts go up by those of the new
  auditor, and the list of a file goes on with the findings of the file and
  of the scan.

    • `lookup_add`, `lookup_addToAll`, `lookup_enterAll` — the list of one file,
      through all that an audit does to the listing,
    • `details?_after` — so the list of a file in the report after an audit,
    • `audit_continues` — an audit after any others, and a new auditor's.
-/
import CodeAudit.Proofs.Listed

namespace CodeAudit.Audit

open CodeAudit.Data CodeAudit.Source CodeAudit.Report

/-! ## §1. The list of one file. -/

namespace Listing

/-- The list of a file goes on; without findings no list is begun. -/
def goOn (old : Option (List Finding)) (new : List Finding) : Option (List Finding) :=
  if old = none ∧ new = [] then none else some (old.getD [] ++ new)

@[simp] theorem goOn_nil (old : Option (List Finding)) : goOn old [] = old := by
  cases old <;> simp [goOn]

theorem goOn_of_ne_nil (old : Option (List Finding)) {new : List Finding} (h : new ≠ []) :
    goOn old new = some (old.getD [] ++ new) := by
  simp [goOn, h]

/-- Adding for a file changes the list of that file only. -/
theorem lookup_add (l : Listing) (file : String) (findings : List Finding) (g : String) :
    (l.add file findings).lookup g
      = if g = file then some ((l.lookup g).getD [] ++ findings) else l.lookup g := by
  induction l with
  | nil =>
      by_cases hg : g = file
      · simp [add, hg]
      · have hb : (g == file) = false := by simpa using hg
        simp [add, List.lookup_cons, hb, hg]
  | cons d rest ih =>
      obtain ⟨f, old⟩ := d
      by_cases hf : f = file
      · subst hf
        by_cases hg : g = f
        · simp [add, hg]
        · have hb : (g == f) = false := by simpa using hg
          simp [add, List.lookup_cons, hb, hg]
      · rw [add, if_neg hf, List.lookup_cons, List.lookup_cons]
        by_cases hg : g = f
        · subst hg
          simp [hf]
        · have hb : (g == f) = false := by simpa using hg
          simp only [hb]
          exact ih

/-- What every file gets, every list that there is gets. -/
theorem lookup_addToAll (l : Listing) (findings : List Finding) (g : String) :
    (l.addToAll findings).lookup g = (l.lookup g).map (· ++ findings) := by
  induction l with
  | nil => rfl
  | cons d rest ih =>
      obtain ⟨f, old⟩ := d
      show List.lookup g ((f, old ++ findings) :: addToAll rest findings) = _
      rw [List.lookup_cons, List.lookup_cons, ih]
      cases g == f <;> rfl

end Listing

namespace Standing

/-- Entering a file lengthens its list, and no other. -/
theorem lookup_enter (s : Standing) (file : String) (findings : List Finding) (g : String) :
    (s.enter file findings).listing.lookup g
      = if g = file then Listing.goOn (s.listing.lookup g) findings else s.listing.lookup g := by
  cases hempty : findings.isEmpty with
  | true =>
      rw [List.isEmpty_iff] at hempty
      subst hempty
      rw [enter_nil, Listing.goOn_nil, ite_self]
  | false =>
      have hne : findings ≠ [] := by
        rintro rfl
        cases hempty
      rw [enter_of_ne_nil s file hempty, Listing.goOn_of_ne_nil _ hne]
      exact Listing.lookup_add _ _ _ _

/-- **Entering files lengthens the list of each by its findings.** -/
theorem lookup_enterAll (s : Standing) {found : Listing} (hnodup : found.files.Nodup)
    (g : String) :
    (s.enterAll found).listing.lookup g
      = Listing.goOn (s.listing.lookup g) ((found.lookup g).getD []) := by
  induction found generalizing s with
  | nil => exact (Listing.goOn_nil _).symm
  | cons d rest ih =>
      obtain ⟨file, findings⟩ := d
      obtain ⟨hfile, hrest⟩ := List.nodup_cons.mp hnodup
      rw [enterAll_cons, ih _ hrest, lookup_enter, List.lookup_cons]
      by_cases hg : g = file
      · -- The file is entered here, and not again.
        subst hg
        have hnone : rest.lookup g = none := by
          rw [List.lookup_eq_none_iff]
          intro p hp
          have hne : g ≠ p.1 := fun heq => hfile (List.mem_map.mpr ⟨p, hp, heq.symm⟩)
          simpa using hne
        simp [hnone]
      · have hb : (g == file) = false := by simpa using hg
        simp [hg, hb]

end Standing

/-! ## §2. The list of a file in a report. -/

/-- The findings of the module of a job with a path; there may be no such module. -/
def Job.findingsFor (j : Job) (file : String) : List Finding :=
  match j.modules.lookup file with
  | some bytes => j.findingsIn (file, bytes)
  | none => []

/-- The list of a file in a report goes on with the findings of the file and then
those about dependencies, which begin no list. -/
def lengthened (old : Option Value) (found holes : List Finding) : Option Value :=
  if old = none ∧ found = [] then none
  else some (.list (itemsOf (old.getD (.list [])) ++ (found ++ holes).map Finding.toValue))

/-- What is looked up among the findings of modules. -/
theorem lookup_findingsOf (j : Job) (file : String) :
    ((findingsOf .standard j.services.lint j.modules).lookup file).getD [] = j.findingsFor file := by
  rw [findingsOf_eq]
  unfold Job.findingsFor
  induction j.modules with
  | nil => rfl
  | cons m rest ih =>
      rw [List.map_cons, List.lookup_cons, List.lookup_cons]
      by_cases hm : file = m.1
      · subst hm
        simp [Job.findingsIn]
      · have hb : (file == m.1) = false := by simpa using hm
        simp only [hb]
        exact ih

/-- No module of a job is found in twice. -/
theorem nodup_findingsOf (j : Job) :
    (Listing.files (findingsOf .standard j.services.lint j.modules)).Nodup := by
  rw [Listing.files, findingsOf, List.map_map]
  exact nodup_modulesOf j.directory j.files

/-- **The list of a file after an audit.** -/
theorem details?_after (e : Edition) (s : Standing) (j : Job) (file : String) :
    details? (s.after e j).report file
      = lengthened (details? s.report file) (j.findingsFor file) j.services.scanner.findings := by
  have hentered := Standing.lookup_enterAll { s with project := baseName j.directory }
    (nodup_findingsOf j) file
  rw [lookup_findingsOf] at hentered
  have hlookup : (s.after e j).listing.lookup file
      = (Listing.goOn (s.listing.lookup file) (j.findingsFor file)).map
          (· ++ j.services.scanner.findings) := by
    rw [← hentered]
    exact Listing.lookup_addToAll _ _ _
  rw [details?_report, details?_report, Listing.get?_toDict, Listing.get?_toDict, hlookup]
  unfold lengthened Listing.goOn
  cases s.listing.lookup file with
  | some old => simp [itemsOf]
  | none =>
      by_cases hfound : j.findingsFor file = []
      · simp [hfound]
      · simp [hfound, itemsOf]

/-! ## §3. An audit after others. -/

/-- The counts after an audit. -/
theorem counts_after (e : Edition) (s : Standing) (j : Job) :
    (s.after e j).files = s.files + (Standing.start.after e j).files ∧
      (s.after e j).affected = s.affected + (Standing.start.after e j).affected ∧
      (s.after e j).issues = s.issues + (Standing.start.after e j).issues := by
  have hcounts : ∀ t : Standing,
      (t.after e j).files = t.files + (findingsOf .standard j.services.lint j.modules).length ∧
      (t.after e j).affected
        = t.affected + (affectedOnly (findingsOf .standard j.services.lint j.modules)).length ∧
      (t.after e j).issues
        = t.issues
          + ((findingsOf .standard j.services.lint j.modules).map (·.2.length)).sum := by
    intro t
    exact ⟨Standing.files_enterAll _ _, Standing.affected_enterAll _ _,
      Standing.issues_enterAll _ _⟩
  obtain ⟨hfiles, haffected, hissues⟩ := hcounts s
  obtain ⟨hfiles', haffected', hissues'⟩ := hcounts .start
  have hstart : Standing.start.files = 0 ∧ Standing.start.affected = 0 ∧
      Standing.start.issues = 0 := ⟨rfl, rfl, rfl⟩
  omega

/-- A report continues another one by what a new auditor reports of a job. -/
structure Continues (j : Job) (before fresh after : Dict) : Prop where
  /-- The metrics, with the advice and the prediction among them, are the new auditor's. -/
  metrics : ∃ m : Metrics, Dict.get? fresh "summary_metrics" = some (.dict m) ∧
    Dict.get? after "summary_metrics" = some (.dict m)
  counts : ∀ key ∈ ["files_analyzed", "files_with_issues", "total_issues"], ∃ old new : Nat,
    Dict.get? before key = some (.int old) ∧ Dict.get? fresh key = some (.int new) ∧
      Dict.get? after key = some (.int (old + new))
  /-- The new auditor begins the list of a file that the other one continues. -/
  begins : ∀ file, details? fresh file
    = lengthened none (j.findingsFor file) j.services.scanner.findings
  details : ∀ file, details? after file
    = lengthened (details? before file) (j.findingsFor file) j.services.scanner.findings

/-- **A standing after a job continues the one before it.** -/
theorem continues_after (e : Edition) (s : Standing) (j : Job) :
    Continues j s.report (Standing.start.after e j).report (s.after e j).report := by
  obtain ⟨hfiles, haffected, hissues⟩ := counts_after e s j
  refine ⟨⟨(s.after e j).summary, Standing.get?_summary _, Standing.get?_summary _⟩, ?_,
    details?_after e .start j, details?_after e s j⟩
  intro key hkey
  simp only [List.mem_cons, List.not_mem_nil, or_false] at hkey
  rcases hkey with rfl | rfl | rfl
  · exact ⟨_, _, s.get?_files, Standing.get?_files _, by rw [Standing.get?_files, hfiles]; simp⟩
  · exact ⟨_, _, s.get?_affected, Standing.get?_affected _,
      by rw [Standing.get?_affected, haffected]; simp⟩
  · exact ⟨_, _, s.get?_issues, Standing.get?_issues _,
      by rw [Standing.get?_issues, hissues]; simp⟩

/-- **An audit does not depend on the audits before it.**  After any session an
audit succeeds as a new auditor's does, hands the same rows to the model, and
continues the report of the session by what the new auditor reports. -/
theorem audit_continues (e : Edition) (jobs : List Job) (j : Job) :
    ((session e jobs).audit e j.services j.directory j.files).1 = .ok () ∧
      (Auditor.new.audit e j.services j.directory j.files).1 = .ok () ∧
      ((session e jobs).audit e j.services j.directory j.files).2.2.features
        = (Auditor.new.audit e j.services j.directory j.files).2.2.features ∧
      (Auditor.new.audit e j.services j.directory j.files).2.2.features.length
        = (if e.assisted then 1 else 0) ∧
      Continues j (session e jobs).report
        (Auditor.new.audit e j.services j.directory j.files).2.1.report
        ((session e jobs).audit e j.services j.directory j.files).2.1.report := by
  obtain ⟨trace, hrows, haudit⟩ :=
    audit_report (standing e jobs) e .standard j.services j.directory j.files
  obtain ⟨trace', hrows', haudit'⟩ :=
    audit_report .start e .standard j.services j.directory j.files
  have hnew : Auditor.new = ⟨.standard, Standing.start.report⟩ := rfl
  rw [session_report, hnew, haudit, haudit']
  refine ⟨rfl, rfl, hrows.trans hrows'.symm, ?_, continues_after e (standing e jobs) j⟩
  show trace'.features.length = _
  rw [hrows', rowsOf]
  split <;> rfl

end CodeAudit.Audit
