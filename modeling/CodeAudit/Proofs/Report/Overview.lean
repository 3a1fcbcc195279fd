/-
  CodeAudit.Proofs.Report.Overview
  ────────────────────────────────
  **WHEN THE ENRICHED REPORT CAN BE WRITTEN.**

  The enriched report divides by the number of files, adds metrics, compares
  them with bounds, and counts the topics of security it raises.  After an
  audit the metrics are numbers, so only the division can fail.  A topic that
  is not counted would fail as well, but the metric behind it is never above
  zero.

    • `opens_ok`, `grade_ok`, `strengthsText_ok`, `areasText_ok` — what is read
      off the metrics can be read,
    • `overview_zero`, `overview_ok` — the overview fails without files only,
    • `enriched_standing` — the whole report of a standing,
    • `enriched_report_iff` — when a session can have its report written.
-/
import CodeAudit.Proofs.Report.Enriched
import CodeAudit.Proofs.Resilience
import CodeAudit.Proofs.Unraised

namespace CodeAudit.Report

open CodeAudit.Data CodeAudit.Audit CodeAudit.Number CodeAudit.Source

/-! ## §1. Reading metrics. -/

/-- Metrics that reports can work with: counters are whole, and everything that
a report reads is a number. -/
structure Measured (m : Metrics) : Prop where
  whole : ∀ c : Counter, ∃ n : Int, Dict.get? m c.key = some (.int n)
  numbers : ∀ key ∈ readKeys, ∃ v, Dict.get? m key = some v ∧ isNumber v = true

/-- The metrics of an audit are such. -/
theorem measured_summaryOf (e : Edition) (reply : ModelReply) (t : Totals) (h : Heritage) :
    Measured (summaryOf e reply t h) :=
  ⟨fun c => ⟨t c, get?_summaryOf_key e reply t h c⟩, readKeys_numbers e reply t h⟩

/-- A number is under a bound or is not. -/
theorem under_ok {v : Value} (h : isNumber v = true) (bound : Int) :
    ∃ b, v.under bound = .ok b := by
  unfold isNumber at h
  unfold Value.under
  cases hv : v.numeral? with
  | none =>
      rw [hv] at h
      cases h
  | some a => exact ⟨_, rfl⟩

section

variable {m : Metrics}

/-- Every gate that a report has can be tried. -/
theorem opens_ok (hm : Measured m) {g : Gate} (hg : g.key ∈ readKeys) :
    ∃ b, g.opens (.dict m) = .ok b := by
  obtain ⟨v, hv, hnumber⟩ := hm.numbers g.key hg
  refine ⟨v.exceeds g.bound, ?_⟩
  unfold Gate.opens Gate.value
  rw [field_of_get? hv, ok_bind, Value.above_eq hnumber]

/-- The gate of a counter that is zero is shut. -/
theorem isOpen_zero {c : Counter} (h : Dict.get? m c.key = some (.int 0)) :
    (Gate.nonzero c).isOpen (.dict m) = false := by
  have hopens : (Gate.nonzero c).opens (.dict m) = .ok false := by
    unfold Gate.opens Gate.value Gate.nonzero
    rw [field_of_get? h, ok_bind, Value.above_int]
    rfl
  rw [Gate.isOpen, hopens]
  rfl

/-- A project can be graded. -/
theorem grade_ok (hm : Measured m) : ∃ g, grade (.dict m) = .ok g := by
  obtain ⟨sql, hsql⟩ := hm.whole .sqlInjections
  obtain ⟨scripting, hscripting⟩ := hm.whole .crossSiteScripting
  obtain ⟨dependencies, hdependencies⟩ := hm.whole .vulnerableDependencies
  obtain ⟨secrets, hsecrets⟩ := opens_ok hm (g := .nonzero .sensitiveVariables) (by decide)
  obtain ⟨complex, hcomplex⟩ := opens_ok hm (g := ⟨Counter.cyclomatic.key, 50⟩) (by decide)
  unfold grade
  rw [field_of_get? hsql, field_of_get? hscripting, field_of_get? hdependencies]
  simp only [ok_bind, Value.add_int, Value.above_int, hsecrets, hcomplex]
  -- The grades are tried from the worst to the best.
  cases decide (5 < sql + scripting + dependencies)
  · cases decide (0 < sql + scripting + dependencies)
    · cases secrets
      · cases complex <;> exact ⟨_, rfl⟩
      · exact ⟨_, rfl⟩
    · exact ⟨_, rfl⟩
  · exact ⟨_, rfl⟩

/-- The strengths of a project can be told. -/
theorem strengthsText_ok (hm : Measured m) : ∃ text, strengthsText (.dict m) = .ok text := by
  have hkeys : ∀ s ∈ Strength.all, s.key ∈ readKeys := by decide
  have hfound : ∃ found, strengths (.dict m) = .ok found := by
    refine filterM_ok fun s hs => ?_
    obtain ⟨v, hv, hnumber⟩ := hm.numbers s.key (hkeys s hs)
    rw [field_of_get? hv, ok_bind]
    unfold Test.passes
    split
    · exact ⟨_, rfl⟩
    · exact under_ok hnumber _
  obtain ⟨found, hfound⟩ := hfound
  unfold strengthsText
  rw [hfound]
  exact ⟨_, rfl⟩

/-- The areas to improve can be told. -/
theorem areasText_ok (hm : Measured m) : ∃ text, areasText (.dict m) = .ok text := by
  have hkeys : ∀ a ∈ Area.all, a.gate.key ∈ readKeys := by decide
  have hgates : ∀ a ∈ Area.all, ∃ b, a.gate.opens (.dict m) = .ok b :=
    fun a ha => opens_ok hm (hkeys a ha)
  have hlines : ∃ lines, (Area.all.filter fun a => a.gate.isOpen (.dict m)).mapM
      (fun a => (a.gate.value (.dict m)).map fun v => a.text v.display) = .ok lines := by
    refine mapM_ok fun a ha => ?_
    rw [Gate.value_eq (hgates a (List.mem_of_mem_filter ha))]
    exact ⟨_, rfl⟩
  obtain ⟨lines, hlines⟩ := hlines
  unfold areasText
  rw [opened_eq hgates, ok_bind, hlines]
  exact ⟨_, rfl⟩

end

/-! ## §2. The overview. -/

section

variable {s : Standing}

theorem two_le_twoTo {n : Nat} (h : n ≠ 0) : 2 ≤ twoTo n := Nat.le_self_pow h 2

/-- Without files there is no share of files with findings. -/
theorem overview_zero (hfiles : s.files = 0) :
    overview (.dict s.report) (.dict s.summary) = .error .zeroDivisor := by
  unfold overview
  rw [field_of_get? s.get?_project, field_of_get? s.get?_files, field_of_get? s.get?_affected,
    hfiles]
  rfl

/-- **With files there is always an overview,** and it does not look like a row. -/
theorem overview_ok (hs : Sound s) (hm : Measured s.summary) (hfiles : 0 < s.files) :
    ∃ text, overview (.dict s.report) (.dict s.summary) = .ok text ∧
      marked tableMarks [text] = [] := by
  have hshare : ∃ q, (Value.int s.affected).divide (.int s.files) = .ok q := by
    -- At most all files have findings, so the share is at most one.
    refine divide_ok (by omega) ?_
    have hle : s.affected ≤ s.files := hs.affected_le_files
    simp only [Int.natAbs_natCast]
    calc s.affected ≤ s.files := hle
      _ < s.files * 2 := by omega
      _ ≤ s.files * twoTo 1023 := Nat.mul_le_mul_left _ (two_le_twoTo (by decide))
  obtain ⟨share, hshare⟩ := hshare
  obtain ⟨g, hg⟩ := grade_ok hm
  obtain ⟨strong, hstrong⟩ := strengthsText_ok hm
  obtain ⟨weak, hweak⟩ := areasText_ok hm
  unfold overview
  simp only [field_of_get? s.get?_project, field_of_get? s.get?_files,
    field_of_get? s.get?_affected, field_of_get? s.get?_issues, ok_bind, hshare, hg, hstrong, hweak]
  refine ⟨_, rfl, ?_⟩
  unfold Text.joinWith
  simp only [String.append_assoc]
  exact marked_apart (by decide) _ []

end

/-! ## §3. The report of a standing. -/

/-- The serious findings that a report lists, with their files: critical ones
first. -/
def seriousListed (report : Dict) : List (String × Dict) :=
  gradedFindings "critical" (listed report) ++ gradedFindings "high" (listed report)

theorem carries_toDict (f : Finding) : Carries f.toDict := by
  intro key hkey
  simp only [List.mem_cons, List.not_mem_nil, or_false] at hkey
  rcases hkey with rfl | rfl | rfl | rfl <;> exact ⟨_, rfl⟩

/-- The serious findings of a standing are found. -/
theorem criticalFindings_standing (s : Standing) :
    criticalFindings (.dict s.report) =
      .ok ((seriousListed s.report).map fun x => seriousOf x.1 x.2) := by
  have hfiles : Dict.get? s.report "detailed_report" = some (filesValue (listed s.report)) := by
    rw [s.get?_listing, listed_report]
    unfold filesValue Listing.toDict
    rw [List.map_map]
    simp only [Function.comp_def, List.map_map]
    rfl
  refine criticalFindings_eq hfiles ?_
  rw [listed_report]
  intro d hd f hf
  obtain ⟨l, -, rfl⟩ := List.mem_map.mp hd
  obtain ⟨g, -, rfl⟩ := List.mem_map.mp hf
  exact carries_toDict g

/-- Topics of security that are raised are counted, as long as no script is. -/
theorem counted_security {m : Metrics} (a : Amount)
    (hscripting : Dict.get? m Counter.crossSiteScripting.key = some (.int 0)) :
    (raisedAmong (.dict m) (Topic.security a)).all (·.amount == .count) = true := by
  rw [List.all_eq_true]
  intro t ht
  obtain ⟨hmem, hopen⟩ := List.mem_filter.mp ht
  simp only [Topic.security, List.mem_cons, List.not_mem_nil, or_false] at hmem
  rcases hmem with rfl | rfl | rfl | rfl | rfl
  · rfl
  · -- The topic that may be left uncounted stays shut.
    have hshut : (Topic.crossSiteScripting a).gate.isOpen (.dict m) = false := isOpen_zero hscripting
    rw [hshut] at hopen
    cases hopen
  · rfl
  · rfl
  · rfl

/-- The plan of action can be made. -/
theorem actionPlan_ok {s : Standing} (hm : Measured s.summary) :
    ∃ phases : List Phase, actionPlan (.dict s.report) = .ok (phases.map Phase.toValue) := by
  obtain ⟨sql, hsql⟩ := opens_ok hm (g := .nonzero .sqlInjections) (by decide)
  obtain ⟨scripting, hscripting⟩ := opens_ok hm (g := .nonzero .crossSiteScripting) (by decide)
  unfold actionPlan isUrgent
  simp only [field_of_get? s.get?_summary, ok_bind, hsql, hscripting]
  cases sql <;> exact ⟨_, rfl⟩

/-- Without files the report stops at the overview. -/
theorem enriched_zero {s : Standing} (hfiles : s.files = 0) (a : Amount) :
    enriched a (.dict s.report) = .error .zeroDivisor := by
  unfold enriched gatherEnriched
  rw [field_of_get? s.get?_summary, ok_bind, overview_zero hfiles]
  rfl

/-- **The enriched report of a standing with files** is written, and its table has
a row for each serious finding. -/
theorem enriched_standing {s : Standing} (hs : Sound s) (hm : Measured s.summary)
    (hscripting : Dict.get? s.summary Counter.crossSiteScripting.key = some (.int 0))
    (hfiles : 0 < s.files) (a : Amount) :
    ∃ sections lines, gatherEnriched a (.dict s.report) = .ok sections ∧
      enrichedLines sections = .ok (lines.map .text) ∧
      marked tableMarks lines =
        tableOf ((seriousListed s.report).map fun x => rowLine x.1 x.2) := by
  have hsecurityKeys : ∀ t ∈ Topic.security a, t.gate.key ∈ readKeys := by cases a <;> decide
  have hqualityKeys : ∀ t ∈ Topic.quality, t.gate.key ∈ readKeys := by decide
  have hmeasureKeys : ∀ m ∈ Measure.all, m.gate.key ∈ readKeys := by decide
  have hmeasured : ∀ t ∈ Topic.quality, t.isMeasured = true := by decide
  obtain ⟨text, htext, hrow⟩ := overview_ok hs hm hfiles
  obtain ⟨phases, hphases⟩ := actionPlan_ok hm
  have hsecurity := raised_eq fun t ht => opens_ok hm (hsecurityKeys t ht)
  have hquality := raised_eq fun t ht => opens_ok hm (hqualityKeys t ht)
  have hmeasures := opened_eq fun m hmem => opens_ok hm (hmeasureKeys m hmem)
  have hgather : gatherEnriched a (.dict s.report) = .ok (sectionsOf text
      ((raisedAmong (.dict s.summary) (Topic.security a)).map (topicValue (.dict s.summary)))
      ((raisedAmong (.dict s.summary) Topic.quality).map (topicValue (.dict s.summary)))
      ((seriousListed s.report).map fun x => seriousOf x.1 x.2)
      ((Measure.all.filter fun m => m.gate.isOpen (.dict s.summary)).map Measure.toValue)
      (phases.map Phase.toValue)) := by
    unfold gatherEnriched securityTopics qualityTopics measures
    simp only [field_of_get? s.get?_summary, ok_bind, htext, hsecurity, hquality,
      criticalFindings_standing, hmeasures, hphases]
    rfl
  refine ⟨_, _, hgather, enrichedLines_sections (counted_security a hscripting) ?_ text _ _ _,
    marked_enriched hrow _ _ _ _ _ _⟩
  exact fun t ht => hmeasured t (List.mem_of_mem_filter ht)

end CodeAudit.Report

namespace CodeAudit.Audit

open CodeAudit.Data CodeAudit.Report

/-! ## §4. The report of a session. -/

theorem measured_after (e : Edition) (s : Standing) (j : Job) : Measured (s.after e j).summary :=
  measured_summaryOf e j.services.model _ _

/-- No audit raises the metric of scripts. -/
theorem scripting_after (e : Edition) (s : Standing) (j : Job) :
    Dict.get? (s.after e j).summary Counter.crossSiteScripting.key = some (.int 0) := by
  rw [← metric?_report]
  exact metric?_unraised (by decide) (by decide) e s j

/-- **The enriched report of a session** can be written if and only if a file has
been audited.  Otherwise a division by zero is met, and nothing else ever goes
wrong.  The table of the report has one row for each listed finding of severity
critical or high. -/
theorem enriched_report_iff (e : Edition) (jobs : List Job) (j : Job) :
    let report := (session e (jobs ++ [j])).report
    let answer := enriched e.scripting (.dict report)
    ∃ files : Nat, Dict.get? report "files_analyzed" = some (.int files) ∧
      ((∃ text, answer = .ok text) ↔ 0 < files) ∧
      (∀ f, answer = .error f → f.kind = "ZeroDivisionError") ∧
      ∀ text, answer = .ok text → ∃ sections lines,
        gatherEnriched e.scripting (.dict report) = .ok sections ∧
        enrichedLines sections = .ok (lines.map .text) ∧ text = Text.joinWith "\n" lines ∧
        marked tableMarks lines =
          tableOf ((seriousListed report).map fun x => rowLine x.1 x.2) := by
  have hreport : (session e (jobs ++ [j])).report = ((standing e jobs).after e j).report := by
    rw [session_report, standing_append]
  rw [hreport]
  refine ⟨((standing e jobs).after e j).files, Standing.get?_files _, ?_⟩
  rcases Nat.eq_zero_or_pos ((standing e jobs).after e j).files with hzero | hpos
  · rw [enriched_zero hzero]
    refine ⟨iff_of_false (fun ⟨_, h⟩ => nomatch h) (by omega), ?_, fun _ h => nomatch h⟩
    intro f hf
    cases hf
    rfl
  · obtain ⟨sections, lines, hsections, hlines, htable⟩ :=
      enriched_standing (sound_after (sound_standing e jobs) e j) (measured_after e _ j)
        (scripting_after e _ j) hpos e.scripting
    rw [enriched_of_lines hsections hlines]
    refine ⟨iff_of_true ⟨_, rfl⟩ hpos, (fun _ h => nomatch h), ?_⟩
    intro text htext
    cases htext
    exact ⟨sections, lines, hsections, hlines, rfl, htable⟩

end CodeAudit.Audit
