/-
  CodeAudit.Proofs.Standing
  ─────────────────────────
  **THE REPORT OF AN AUDITOR AS A RECORD.**

  A report is a loosely typed dictionary, and a task that reads or writes it
  may fail.  The reports that audits make are not loose: they hold a name,
  three counts, lists of findings by file, and what the last audit concluded.
  `Standing` is that record and `Standing.report` the dictionary it denotes.

    • `Task.on_bind` — tasks run one after the other,
    • `on_enterFile` — entering a file succeeds on the report of a standing
      and leaves the report of the standing with that file entered,
    • `on_enterAll` — so does entering files one after the other.
-/
import CodeAudit.Audit.Project
import Mathlib.Algebra.Ring.Nat
import Mathlib.Data.List.Basic

namespace CodeAudit.Audit

open CodeAudit.Data CodeAudit.Source CodeAudit.Report

/-! ## §1. Running tasks. -/

namespace Task

variable {α β : Type}

/-- The outcome of a task at a desk, and the desk afterwards. -/
def on (task : Task α) (desk : Desk) : Except Failure α × Desk := (task.run).run desk

/-- A task goes on from where the one before it has left the desk; a failure
leaves the desk as it is. -/
theorem on_bind (task : Task α) (next : α → Task β) (desk : Desk) :
    on (task >>= next) desk = match on task desk with
      | (.ok a, desk) => on (next a) desk
      | (.error e, desk) => (.error e, desk) := by
  simp only [on, ExceptT.run_bind, StateT.run_bind]
  show _ = _
  rcases StateT.run (ExceptT.run task) desk with ⟨outcome, after⟩
  cases outcome <;> rfl

/-- A task whose outcome is known hands over its value and its desk. -/
theorem on_bind_ok {task : Task α} {desk after : Desk} {a : α} (h : on task desk = (.ok a, after))
    (next : α → Task β) : on (task >>= next) desk = on (next a) after := by
  rw [on_bind, h]

@[simp] theorem on_pure (a : α) (desk : Desk) : on (pure a) desk = (.ok a, desk) := rfl

@[simp] theorem on_write (key : String) (v : Value) (desk : Desk) :
    on (write key v) desk = (.ok (), { desk with report := Dict.put desk.report key v }) := rfl

@[simp] theorem on_log (f : Trace → Trace) (desk : Desk) :
    on (log f) desk = (.ok (), { desk with trace := f desk.trace }) := rfl

@[simp] theorem on_get (desk : Desk) : on get desk = (.ok desk, desk) := rfl

@[simp] theorem on_ofExcept_ok (a : α) (desk : Desk) :
    on (ofExcept (.ok a)) desk = (.ok a, desk) := rfl

/-- Reading an entry that is there. -/
theorem on_entry {key : String} {v : Value} {desk : Desk}
    (h : Dict.get? desk.report key = some v) : on (entry key) desk = (.ok v, desk) := by
  rw [entry, on_bind_ok (on_get desk)]
  simp [Value.field, h]

/-- Raising an entry that is a whole number. -/
theorem on_raise {key : String} {n : Int} {desk : Desk}
    (h : Dict.get? desk.report key = some (.int n)) (m : Int) :
    on (raise key m) desk
      = (.ok (), { desk with report := Dict.put desk.report key (.int (n + m)) }) := by
  rw [raise, on_bind_ok (on_entry h)]
  rfl

end Task

/-! ## §2. Findings by file. -/

/-- The findings of files, in the order in which the files were first entered. -/
abbrev Listing := List (String × List Finding)

namespace Listing

/-- The listing as a report holds it. -/
def toDict (l : Listing) : Dict := l.map fun d => (d.1, .list (d.2.map Finding.toValue))

/-- Add findings to those of a file. -/
def add (l : Listing) (file : String) (findings : List Finding) : Listing :=
  match l with
  | [] => [(file, findings)]
  | (f, old) :: rest =>
      if f = file then (f, old ++ findings) :: rest else (f, old) :: add rest file findings

/-- Add findings to those of every file. -/
def addToAll (l : Listing) (findings : List Finding) : Listing :=
  l.map fun d => (d.1, d.2 ++ findings)

/-- The number of findings of all files. -/
def size (l : Listing) : Nat := (l.map (·.2.length)).sum

/-- The files. -/
def files (l : Listing) : List String := l.map (·.1)

@[simp] theorem toDict_nil : toDict [] = [] := rfl

@[simp] theorem toDict_cons (f : String) (old : List Finding) (rest : Listing) :
    toDict ((f, old) :: rest) = (f, .list (old.map Finding.toValue)) :: toDict rest := rfl

theorem get?_toDict (l : Listing) (file : String) :
    Dict.get? (toDict l) file
      = (l.lookup file).map fun fs => .list (fs.map Finding.toValue) := by
  induction l with
  | nil => rfl
  | cons d rest ih =>
      obtain ⟨f, old⟩ := d
      by_cases h : file = f
      · subst h
        simp [Dict.get?]
      · have hb : (file == f) = false := by simpa using h
        simpa [Dict.get?, List.lookup_cons, hb] using ih

/-- Writing the longer list of a file is adding to the listing. -/
theorem put_toDict (l : Listing) (file : String) (findings : List Finding) :
    Dict.put (toDict l) file
        (.list ((((l.lookup file).getD []) ++ findings).map Finding.toValue))
      = toDict (l.add file findings) := by
  induction l with
  | nil => simp [add, Dict.put]
  | cons d rest ih =>
      obtain ⟨f, old⟩ := d
      by_cases h : f = file
      · subst h
        simp [add, Dict.put]
      · have hb : (f == file) = false := by simpa using h
        have hb' : (file == f) = false := by simpa using Ne.symm h
        simp only [toDict_cons, Dict.put, hb, add, h, if_false, Bool.false_eq_true,
          List.lookup_cons, hb']
        rw [ih]

/-- Extending the entry of a file in a report never fails. -/
theorem extend_toDict (l : Listing) (file : String) (findings : List Finding) :
    extend (.dict l.toDict) file findings = .ok (.dict (l.add file findings).toDict) := by
  have hput := put_toDict l file findings
  unfold extend
  simp only [bind, Except.bind]
  rw [get?_toDict]
  cases hl : l.lookup file with
  | none =>
      rw [hl] at hput
      simpa using hput
  | some old =>
      rw [hl] at hput
      simpa using hput

end Listing

/-! ## §3. Standings. -/

/-- Where an auditor stands. -/
structure Standing where
  /-- The project audited last. -/
  project : String
  /-- The number of files audited. -/
  files : Nat
  /-- The number of times a file had findings. -/
  affected : Nat
  /-- The number of findings made in files. -/
  issues : Nat
  listing : Listing
  /-- The metrics of the last audit. -/
  summary : Metrics
  /-- The words of the adviser; none before an assisted audit. -/
  advice : Option Value

namespace Standing

/-- The standing of a new auditor. -/
def start : Standing := ⟨"", 0, 0, 0, [], [], none⟩

/-- The report of a standing. -/
def report (s : Standing) : Dict :=
  [("project_name", .text s.project), ("files_analyzed", .int s.files),
   ("files_with_issues", .int s.affected), ("total_issues", .int s.issues),
   ("detailed_report", .dict s.listing.toDict), ("summary_metrics", .dict s.summary)]
    ++ s.advice.toList.map fun v => ("llm_recommendations", v)

/-- Enter the findings of a file. -/
def enter (s : Standing) (file : String) (findings : List Finding) : Standing :=
  if findings.isEmpty then { s with files := s.files + 1 }
  else { s with
    files := s.files + 1
    affected := s.affected + 1
    issues := s.issues + findings.length
    listing := s.listing.add file findings }

/-- Enter the findings of files, one after the other. -/
def enterAll (s : Standing) (found : List (String × List Finding)) : Standing :=
  found.foldl (fun s f => s.enter f.1 f.2) s

/-! Reading and writing the report of a standing. -/

@[simp] theorem get?_project (s : Standing) :
    Dict.get? s.report "project_name" = some (.text s.project) := rfl

@[simp] theorem get?_files (s : Standing) :
    Dict.get? s.report "files_analyzed" = some (.int s.files) := rfl

@[simp] theorem get?_affected (s : Standing) :
    Dict.get? s.report "files_with_issues" = some (.int s.affected) := rfl

@[simp] theorem get?_issues (s : Standing) :
    Dict.get? s.report "total_issues" = some (.int s.issues) := rfl

@[simp] theorem get?_listing (s : Standing) :
    Dict.get? s.report "detailed_report" = some (.dict s.listing.toDict) := rfl

@[simp] theorem get?_summary (s : Standing) :
    Dict.get? s.report "summary_metrics" = some (.dict s.summary) := rfl

@[simp] theorem get?_advice (s : Standing) :
    Dict.get? s.report "llm_recommendations" = s.advice := by
  cases h : s.advice <;> simp [report, h, Dict.get?, List.lookup_cons]

/-- A report holds a note of a failed summary in no standing. -/
@[simp] theorem get?_failedSummary (s : Standing) : Dict.get? s.report "llm_error" = none := by
  cases h : s.advice <;> simp [report, h, Dict.get?, List.lookup_cons]

@[simp] theorem put_project (s : Standing) (name : String) :
    Dict.put s.report "project_name" (.text name) = { s with project := name }.report := rfl

@[simp] theorem put_listing (s : Standing) (l : Listing) :
    Dict.put s.report "detailed_report" (.dict l.toDict) = { s with listing := l }.report := rfl

@[simp] theorem put_summary (s : Standing) (m : Metrics) :
    Dict.put s.report "summary_metrics" (.dict m) = { s with summary := m }.report := rfl

@[simp] theorem put_advice (s : Standing) (v : Value) :
    Dict.put s.report "llm_recommendations" v = { s with advice := some v }.report := by
  cases h : s.advice <;> simp [report, h, Dict.put]

end Standing

/-- A metric of a report. -/
def metric? (report : Dict) (key : String) : Option Value :=
  match Dict.get? report "summary_metrics" with
  | some (.dict m) => Dict.get? m key
  | _ => none

@[simp] theorem metric?_report (s : Standing) (key : String) :
    metric? s.report key = Dict.get? s.summary key := rfl

/-- The findings of a file in a report. -/
def details? (report : Dict) (file : String) : Option Value :=
  match Dict.get? report "detailed_report" with
  | some (.dict es) => Dict.get? es file
  | _ => none

@[simp] theorem details?_report (s : Standing) (file : String) :
    details? s.report file = Dict.get? s.listing.toDict file := rfl

/-! ## §4. Entering files. -/

section

variable (s : Standing) (trace : Trace)

/-- A count of the report goes up. -/
theorem on_raise_files : Task.on (Task.raise "files_analyzed" 1) ⟨s.report, trace⟩
    = (.ok (), ⟨{ s with files := s.files + 1 }.report, trace⟩) := by
  have h : Dict.get? (Desk.mk s.report trace).report "files_analyzed" = some (.int s.files) := rfl
  rw [Task.on_raise h]
  rfl

theorem on_raise_affected : Task.on (Task.raise "files_with_issues" 1) ⟨s.report, trace⟩
    = (.ok (), ⟨{ s with affected := s.affected + 1 }.report, trace⟩) := by
  have h : Dict.get? (Desk.mk s.report trace).report "files_with_issues"
      = some (.int s.affected) := rfl
  rw [Task.on_raise h]
  rfl

theorem on_raise_issues (n : Nat) : Task.on (Task.raise "total_issues" n) ⟨s.report, trace⟩
    = (.ok (), ⟨{ s with issues := s.issues + n }.report, trace⟩) := by
  have h : Dict.get? (Desk.mk s.report trace).report "total_issues" = some (.int s.issues) := rfl
  rw [Task.on_raise h]
  rfl

/-- **Entering a file never fails on the report of a standing.** -/
theorem on_enterFile (file : String) (findings : List Finding) :
    Task.on (enterFile file findings) ⟨s.report, trace⟩
      = (.ok (), ⟨(s.enter file findings).report, trace⟩) := by
  unfold enterFile
  rw [Task.on_bind_ok (on_raise_files s trace)]
  cases findings with
  | nil => rfl
  | cons f rest =>
      simp only [List.isEmpty_cons, Bool.not_false, if_true]
      rw [Task.on_bind_ok (on_raise_affected _ trace), Task.on_bind_ok (on_raise_issues _ trace _),
        Task.on_bind_ok (Task.on_entry (Standing.get?_listing _)), Listing.extend_toDict,
        Task.on_bind_ok (Task.on_ofExcept_ok _ _), Task.on_write, Standing.put_listing]
      rfl

/-- **Files are entered one after the other.** -/
theorem on_enterAll (found : List (String × List Finding)) :
    Task.on (forIn found PUnit.unit fun (f : String × List Finding) _ => do
        enterFile f.1 f.2
        pure (ForInStep.yield PUnit.unit)) ⟨s.report, trace⟩
      = (.ok (), ⟨(s.enterAll found).report, trace⟩) := by
  induction found generalizing s with
  | nil => rfl
  | cons f rest ih =>
      rw [List.forIn_cons, bind_assoc, Task.on_bind_ok (on_enterFile s trace f.1 f.2)]
      rw [pure_bind]
      exact ih (s.enter f.1 f.2)

end

end CodeAudit.Audit
