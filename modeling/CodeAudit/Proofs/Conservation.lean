/-
  CodeAudit.Proofs.Conservation
  ─────────────────────────────
  **NO FINDING IS LOST, AND NONE IS COUNTED TWICE.**

  A report counts files, files with findings and findings, and lists the
  findings by file.  Counts and lists are kept by different hands: a scan of
  dependencies lengthens every list, those of earlier audits too, and counts
  nothing.  Two facts are kept through all of it:

    • `Sound` — the lists are not empty, and lists ≤ affected ≤ files, issues,
    • `balance_after` — an audit lists what it counts, and what its scan adds
      to each list.

  `issues_conserved` says both of the report after any session.
-/
import CodeAudit.Proofs.Additivity

namespace CodeAudit.Audit

open CodeAudit.Data CodeAudit.Source CodeAudit.Report

/-! ## §1. Sound standings. -/

/-- The counts of a standing bound one another, and no list is empty. -/
structure Sound (s : Standing) : Prop where
  nonempty : ∀ d ∈ s.listing, d.2 ≠ []
  nodup : s.listing.files.Nodup
  lists_le : s.listing.length ≤ s.affected
  affected_le_files : s.affected ≤ s.files
  affected_le_issues : s.affected ≤ s.issues

/-- Nothing is listed at first. -/
theorem sound_start : Sound .start := by
  refine ⟨?_, List.nodup_nil, Nat.le_refl _, Nat.le_refl _, Nat.le_refl _⟩
  intro d hd
  cases hd

/-- Step: entering a file. -/
theorem sound_enter {s : Standing} (h : Sound s) (file : String) (findings : List Finding) :
    Sound (s.enter file findings) := by
  cases hf : findings.isEmpty with
  | true =>
      rw [List.isEmpty_iff] at hf
      subst hf
      -- A file without findings is counted and nothing more.
      rw [Standing.enter_nil]
      exact ⟨h.nonempty, h.nodup, h.lists_le, Nat.le_succ_of_le h.affected_le_files,
        h.affected_le_issues⟩
  | false =>
      have hne : findings ≠ [] := by
        intro heq
        rw [heq] at hf
        cases hf
      have hpos : 0 < findings.length := List.length_pos_iff.mpr hne
      have hlists := Listing.length_add_le s.listing file findings
      rw [Standing.enter_of_ne_nil s file hf]
      refine ⟨Listing.ne_nil_add h.nonempty file hne, Listing.nodup_files_add h.nodup file findings,
        ?_, ?_, ?_⟩
      · show (s.listing.add file findings).length ≤ s.affected + 1
        have := h.lists_le
        omega
      · exact Nat.succ_le_succ h.affected_le_files
      · show s.affected + 1 ≤ s.issues + findings.length
        have := h.affected_le_issues
        omega

/-- Run: entering files one after the other. -/
theorem sound_enterAll {s : Standing} (h : Sound s) (found : List (String × List Finding)) :
    Sound (s.enterAll found) := by
  induction found generalizing s with
  | nil => exact h
  | cons f rest ih =>
      rw [Standing.enterAll_cons]
      exact ih (sound_enter h f.1 f.2)

/-- A scan lengthens lists, and makes none. -/
theorem sound_withScan {s : Standing} (h : Sound s) (r : ScannerReply) : Sound (s.withScan r) := by
  refine ⟨Listing.ne_nil_addToAll h.nonempty _, ?_, ?_, h.affected_le_files, h.affected_le_issues⟩
  · show (s.listing.addToAll r.findings).files.Nodup
    rw [Listing.files_addToAll]
    exact h.nodup
  · show (s.listing.addToAll r.findings).length ≤ s.affected
    rw [Listing.length_addToAll]
    exact h.lists_le

/-- **An audit leaves a sound standing sound.** -/
theorem sound_after {s : Standing} (h : Sound s) (e : Edition) (j : Job) : Sound (s.after e j) := by
  have hnamed : Sound { s with project := baseName j.directory } :=
    ⟨h.nonempty, h.nodup, h.lists_le, h.affected_le_files, h.affected_le_issues⟩
  have hscanned := sound_withScan
    (sound_enterAll hnamed (findingsOf .standard j.services.lint j.modules)) j.services.scanner
  -- The conclusion writes metrics and advice only.
  exact ⟨hscanned.nonempty, hscanned.nodup, hscanned.lists_le, hscanned.affected_le_files,
    hscanned.affected_le_issues⟩

/-- Every session is sound. -/
theorem sound_standing (e : Edition) (jobs : List Job) : Sound (standing e jobs) := by
  induction jobs using List.reverseRecOn with
  | nil => exact sound_start
  | append_singleton jobs j ih =>
      rw [standing_append]
      exact sound_after ih e j

/-! ## §2. The balance of listed and counted findings. -/

/-- Step: a file that is entered is listed and counted alike. -/
theorem balance_enter (s : Standing) (file : String) (findings : List Finding) :
    (s.enter file findings).listing.size + s.issues
      = s.listing.size + (s.enter file findings).issues := by
  cases hf : findings.isEmpty with
  | true =>
      rw [List.isEmpty_iff] at hf
      subst hf
      rfl
  | false =>
      rw [Standing.enter_of_ne_nil s file hf]
      show (s.listing.add file findings).size + s.issues = s.listing.size + (s.issues + _)
      rw [Listing.size_add]
      omega

/-- Run: so are files entered one after the other. -/
theorem balance_enterAll (s : Standing) (found : List (String × List Finding)) :
    (s.enterAll found).listing.size + s.issues
      = s.listing.size + (s.enterAll found).issues := by
  induction found generalizing s with
  | nil => rfl
  | cons f rest ih =>
      have hstep := balance_enter s f.1 f.2
      have hrest := ih (s.enter f.1 f.2)
      rw [Standing.enterAll_cons]
      omega

/-- **An audit lists what it counts, and the findings of its scan once for each
list.** -/
theorem balance_after (s : Standing) (e : Edition) (j : Job) :
    (s.after e j).listing.size + s.issues
      = s.listing.size + (s.after e j).issues
        + j.services.scanner.findings.length * (s.after e j).listing.length := by
  have hentered := balance_enterAll { s with project := baseName j.directory }
    (findingsOf .standard j.services.lint j.modules)
  show (Listing.addToAll _ j.services.scanner.findings).size + s.issues
    = s.listing.size + (Standing.enterAll _ _).issues
      + _ * (Listing.addToAll _ j.services.scanner.findings).length
  rw [Listing.size_addToAll, Listing.length_addToAll]
  show _ + _ + s.issues = _
  -- The name of the project is no part of the balance.
  simp only at hentered
  omega

/-- An audit counts its modules. -/
theorem files_after (s : Standing) (e : Edition) (j : Job) :
    (s.after e j).files = s.files + j.modules.length := by
  have hentered := Standing.files_enterAll { s with project := baseName j.directory }
    (findingsOf .standard j.services.lint j.modules)
  rw [findingsOf, List.length_map] at hentered
  exact hentered

/-! ## §3. Sessions. -/

/-- The number of files for which a report lists findings. -/
def listCount (report : Dict) : Nat :=
  match Dict.get? report "detailed_report" with
  | some (.dict es) => es.length
  | _ => 0

theorem listCount_report (s : Standing) : listCount s.report = s.listing.length := by
  simp [listCount, Listing.toDict]

/-- What the scans of a session add to the lists: for each audit, the findings
of its scan times the lists there are then. -/
def addedByScans (e : Edition) (a : Auditor) : List Job → Nat
  | [] => 0
  | j :: rest =>
      j.services.scanner.findings.length * listCount (a.after e j).report
        + addedByScans e (a.after e j) rest

/-- What is added after one more audit. -/
theorem addedByScans_append (e : Edition) (a : Auditor) (jobs : List Job) (j : Job) :
    addedByScans e a (jobs ++ [j]) = addedByScans e a jobs
      + j.services.scanner.findings.length
        * listCount ((jobs.foldl (Auditor.after e) a).after e j).report := by
  induction jobs generalizing a with
  | nil => simp [addedByScans]
  | cons i rest ih =>
      rw [List.cons_append, addedByScans, addedByScans, ih, List.foldl_cons]
      omega

/-- **The balance of a session.** -/
theorem balance_standing (e : Edition) (jobs : List Job) :
    (standing e jobs).listing.size = (standing e jobs).issues + addedByScans e .new jobs := by
  induction jobs using List.reverseRecOn with
  | nil => rfl
  | append_singleton jobs j ih =>
      -- The last audit adds its own term, at the number of lists it leaves.
      have hstep := balance_after (standing e jobs) e j
      have hcount : listCount ((session e jobs).after e j).report
          = ((standing e jobs).after e j).listing.length := by
        rw [session_report, after_report, listCount_report]
      rw [addedByScans_append, show jobs.foldl (Auditor.after e) .new = session e jobs from rfl,
        hcount, standing_append]
      omega

/-- The files of a session are the modules of its audits. -/
theorem files_standing (e : Edition) (jobs : List Job) :
    (standing e jobs).files = (jobs.map (·.modules.length)).sum := by
  induction jobs using List.reverseRecOn with
  | nil => rfl
  | append_singleton jobs j ih =>
      rw [standing_append, files_after, ih, List.map_append, List.sum_append]
      rfl

/-- After one audit the lists are those of its modules with findings. -/
theorem standing_one (e : Edition) (j : Job) :
    (standing e [j]).listing = foundIn j.services j.modules ∧
      (standing e [j]).affected = (standing e [j]).listing.length := by
  have hlisting : (standing e [j]).listing = foundIn j.services j.modules :=
    listing_firstStanding e j.services j.directory (nodup_modulesOf j.directory j.files)
  have haffected := (counts_firstStanding e j.services j.directory j.modules).2.1
  refine ⟨hlisting, ?_⟩
  rw [hlisting, foundIn, Listing.length_addToAll, ← findingsOf_eq]
  exact haffected

/-- The modules of a job with findings of their own, as they are walked. -/
def Job.affected (j : Job) : List String :=
  (j.modules.filter fun f => !(alone j.services.lint f).findings.isEmpty).map (·.1)

/-- What is listed after one audit is listed for these modules. -/
theorem files_foundIn (services : Services) (modules : List (String × List UInt8)) :
    (foundIn services modules).files
      = (modules.filter fun f => !(alone services.lint f).findings.isEmpty).map (·.1) := by
  rw [foundIn, Listing.files_addToAll, affectedOnly, Listing.files, List.filter_map, List.map_map]
  rfl

/-- The counts and the lists of a report. -/
structure Tally where
  listing : Listing
  files : Nat
  affected : Nat
  issues : Nat

/-- A report shows a tally. -/
structure Tally.ShownBy (t : Tally) (report : Dict) : Prop where
  listing : Dict.get? report "detailed_report" = some (.dict t.listing.toDict)
  files : Dict.get? report "files_analyzed" = some (.int t.files)
  affected : Dict.get? report "files_with_issues" = some (.int t.affected)
  issues : Dict.get? report "total_issues" = some (.int t.issues)

/-- The tally of a standing. -/
def Standing.tally (s : Standing) : Tally := ⟨s.listing, s.files, s.affected, s.issues⟩

theorem tally_shownBy (s : Standing) : s.tally.ShownBy s.report :=
  ⟨Standing.get?_listing s, Standing.get?_files s, Standing.get?_affected s, Standing.get?_issues s⟩

/-- **Conservation of findings.**  After any session the report lists findings
for some files: never none, and never a file twice.  The counts of the report
bound one another, and the findings that are listed are those that are counted
and those that scans have added.  After one audit, the files are the modules
with findings, in the order in which they are walked. -/
theorem issues_conserved (e : Edition) :
    (∀ jobs : List Job, ∃ t : Tally, t.ShownBy (session e jobs).report ∧
      [] ∉ t.listing.map (·.2) ∧ t.listing.files.Nodup ∧
      t.listing.length ≤ t.affected ∧ t.affected ≤ t.files ∧ t.affected ≤ t.issues ∧
      t.files = (jobs.map (·.modules.length)).sum ∧
      t.listing.size = t.issues + addedByScans e .new jobs) ∧
    ∀ j : Job, ∃ t : Tally, t.ShownBy (session e [j]).report ∧
      t.affected = t.listing.length ∧ t.listing.files = j.affected := by
  refine ⟨fun jobs => ?_, fun j => ?_⟩
  · have hsound := sound_standing e jobs
    have hnonempty : [] ∉ (standing e jobs).listing.map (·.2) := by
      intro hmem
      obtain ⟨d, hd, hnil⟩ := List.mem_map.mp hmem
      exact hsound.nonempty d hd hnil
    rw [session_report]
    exact ⟨(standing e jobs).tally, tally_shownBy _, hnonempty, hsound.nodup, hsound.lists_le,
      hsound.affected_le_files, hsound.affected_le_issues, files_standing e jobs,
      balance_standing e jobs⟩
  · obtain ⟨hlisting, haffected⟩ := standing_one e j
    have hfiles : (standing e [j]).listing.files = j.affected := by
      rw [hlisting, files_foundIn]
      rfl
    rw [session_report]
    exact ⟨(standing e [j]).tally, tally_shownBy _, haffected, hfiles⟩

end CodeAudit.Audit
