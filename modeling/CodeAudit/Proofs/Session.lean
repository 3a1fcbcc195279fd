/-
  CodeAudit.Proofs.Session
  ────────────────────────
  **AUDITS ONE AFTER THE OTHER.**

  An auditor keeps its report from one project to the next.  On the report of
  a standing an audit succeeds, whatever the files and the services are, and
  leaves the report of the standing that `Standing.audited` computes.  So does
  every session that begins with a new auditor.

    • `audit_report` — one audit,
    • `nodup_modulesOf` — no module is audited twice in it,
    • `session_report` — any number of audits.
-/
import CodeAudit.Proofs.Conclusion
import CodeAudit.Proofs.Contribution
import CodeAudit.Proofs.Dependencies
import Mathlib.Data.List.Induction
import Mathlib.Data.List.Nodup

namespace CodeAudit.Audit

open CodeAudit.Data CodeAudit.Source CodeAudit.Report

/-! ## §1. One audit. -/

/-- The standing after the audit of modules. -/
def Standing.audited (s : Standing) (e : Edition) (k : Keywords) (services : Services)
    (directory : String) (modules : List (String × List UInt8)) : Standing :=
  ((({ s with project := baseName directory }).enterAll (findingsOf k services.lint modules)).withScan
      services.scanner).concluded e services
    ((totalsOf k services.lint modules).afterScan services.scanner)
    (heritageOf k services.lint modules)

/-- **An audit never fails on the report of a standing.** -/
theorem on_auditModules (s : Standing) (trace : Trace) (e : Edition) (k : Keywords)
    (services : Services) (directory : String) (modules : List (String × List UInt8)) :
    ∃ after : Trace,
      after.features = trace.features ++ rowsOf e
        ((totalsOf k services.lint modules).afterScan services.scanner)
        (heritageOf k services.lint modules) ∧
      Task.on (auditModules e k services directory modules) ⟨s.report, trace⟩
        = (.ok (), ⟨(s.audited e k services directory modules).report, after⟩) := by
  obtain ⟨scanned, hscanned, hscan⟩ := on_enterDependencies
    (({ s with project := baseName directory }).enterAll (findingsOf k services.lint modules))
    trace services.scanner (totalsOf k services.lint modules)
  obtain ⟨after, hafter, hconclude⟩ := on_conclude
    ((({ s with project := baseName directory }).enterAll (findingsOf k services.lint modules)).withScan
      services.scanner) scanned e services
    ((totalsOf k services.lint modules).afterScan services.scanner)
    (heritageOf k services.lint modules)
  refine ⟨after, by rw [hafter, hscanned], ?_⟩
  -- The name, the findings of the files, the scan, and the conclusion, in turn.
  unfold auditModules
  rw [Task.on_bind_ok (Task.on_write _ _ _), Standing.put_project]
  simp only [survey_eq]
  rw [Task.on_bind_ok (on_enterAll _ _ _), Task.on_bind_ok hscan]
  exact hconclude

/-- **Modules in any order are audited to the end**, and the report is that of
the standing afterwards. -/
theorem perform_auditModules (s : Standing) (e : Edition) (k : Keywords) (services : Services)
    (directory : String) (modules : List (String × List UInt8)) :
    ∃ trace : Trace,
      trace.features = rowsOf e ((totalsOf k services.lint modules).afterScan services.scanner)
        (heritageOf k services.lint modules) ∧
      (Auditor.mk k s.report).perform (auditModules e k services directory modules)
        = (.ok (), ⟨k, (s.audited e k services directory modules).report⟩, trace) := by
  obtain ⟨after, hafter, hon⟩ := on_auditModules s .empty e k services directory modules
  refine ⟨after, by rw [hafter]; rfl, ?_⟩
  unfold Auditor.perform
  rw [show (auditModules e k services directory modules).run.run ⟨s.report, .empty⟩ = _ from hon]

/-- An audit of a project in terms of standings. -/
theorem audit_report (s : Standing) (e : Edition) (k : Keywords) (services : Services)
    (directory : String) (folder : Folder) :
    ∃ trace : Trace,
      trace.features = rowsOf e
        ((totalsOf k services.lint (modulesOf directory folder)).afterScan services.scanner)
        (heritageOf k services.lint (modulesOf directory folder)) ∧
      (Auditor.mk k s.report).audit e services directory folder
        = (.ok (), ⟨k, (s.audited e k services directory (modulesOf directory folder)).report⟩,
            trace) :=
  perform_auditModules s e k services directory (modulesOf directory folder)

/-! ## §2. The modules of a project. -/

/-- The paths inside a directory differ as the paths do. -/
theorem joinPath_injective (directory : String) : Function.Injective (joinPath directory) := by
  intro a b h
  unfold joinPath at h
  split at h
  · exact String.append_right_inj _ |>.mp h
  · exact String.append_right_inj _ |>.mp h

/-- **The modules of a project have distinct paths.** -/
theorem nodup_modulesOf (directory : String) (folder : Folder) :
    ((modulesOf directory folder).map (·.1)).Nodup := by
  have hkept : ((folder.files.filter fun f => isModuleName f.path).map (·.path)).Nodup :=
    folder.distinct.sublist (List.filter_sublist.map _)
  have hjoined := hkept.map (joinPath_injective directory)
  rw [List.map_map] at hjoined
  rw [modulesOf, List.map_map]
  exact hjoined

/-! ## §3. Sessions. -/

/-- One audit of a session: a project, its files in whatever order the disk has them
walked, and what the services reply. -/
structure Job where
  services : Services
  directory : String
  files : Folder

/-- The modules of a job, as they are walked. -/
def Job.modules (j : Job) : List (String × List UInt8) := modulesOf j.directory j.files

/-- The auditor after a job. -/
def Auditor.after (e : Edition) (a : Auditor) (j : Job) : Auditor :=
  (a.audit e j.services j.directory j.files).2.1

/-- The auditor after several jobs, new before the first. -/
def session (e : Edition) (jobs : List Job) : Auditor := jobs.foldl (Auditor.after e) .new

/-- The standing after a job. -/
def Standing.after (e : Edition) (s : Standing) (j : Job) : Standing :=
  s.audited e .standard j.services j.directory j.modules

/-- The standing after several jobs. -/
def standing (e : Edition) (jobs : List Job) : Standing := jobs.foldl (Standing.after e) .start

/-- The standing after one more job. -/
theorem standing_append (e : Edition) (jobs : List Job) (j : Job) :
    standing e (jobs ++ [j]) = (standing e jobs).after e j := by
  simp [standing]

/-- The auditor after one more job. -/
theorem session_append (e : Edition) (jobs : List Job) (j : Job) :
    session e (jobs ++ [j]) = (session e jobs).after e j := by
  simp [session]

/-- An auditor with the report of a standing has the report of the next one
after a job. -/
theorem after_report (e : Edition) (s : Standing) (j : Job) :
    Auditor.after e ⟨.standard, s.report⟩ j = ⟨.standard, (s.after e j).report⟩ := by
  obtain ⟨trace, -, haudit⟩ := audit_report s e .standard j.services j.directory j.files
  rw [Auditor.after, haudit]
  rfl

/-- **A session always has the report of a standing.** -/
theorem session_report (e : Edition) (jobs : List Job) :
    session e jobs = ⟨.standard, (standing e jobs).report⟩ := by
  induction jobs using List.reverseRecOn with
  | nil => rfl
  | append_singleton jobs j ih => rw [session_append, standing_append, ih, after_report]

/-- An audit after a session succeeds, and its report is that of the next standing. -/
theorem audit_session (e : Edition) (jobs : List Job) (j : Job) :
    ∃ trace, (session e jobs).audit e j.services j.directory j.files
      = (.ok (), ⟨.standard, ((standing e jobs).after e j).report⟩, trace) := by
  obtain ⟨trace, -, haudit⟩ := audit_report (standing e jobs) e .standard j.services j.directory
    j.files
  rw [session_report]
  exact ⟨trace, haudit⟩

end CodeAudit.Audit
