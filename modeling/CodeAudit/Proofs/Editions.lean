/-
  CodeAudit.Proofs.Editions
  ─────────────────────────
  **THE TWO EDITIONS OF AN AUDIT.**

  The full edition asks a model and an adviser, the basic one does not.  What
  they reply ends up in the conclusion of an audit and nowhere else, so the
  two editions find the same and write the same plain report.  Their enriched
  reports differ in one topic, which the full edition does not count.

    • `after_concluding`, `standing_concluding` — one audit and many audits in
      two editions differ in their conclusions only,
    • `erase_prediction`, `plain_concluding` — what that leaves equal,
    • `gatherEnriched_cases` — the sections of both editions, or one failure,
    • `enriched_hidden` — the enriched reports of both editions,
    • `editions_agree` — where the editions agree.
-/
import CodeAudit.Proofs.Report.Enriched
import CodeAudit.Proofs.Report.Plain

namespace CodeAudit.Data

/-- A key that has just been written is removed again. -/
theorem Dict.erase_put (d : Dict) (key : String) (v : Value) :
    Dict.erase (Dict.put d key v) key = Dict.erase d key := by
  induction d with
  | nil => simp [Dict.put, Dict.erase]
  | cons entry rest ih =>
      obtain ⟨k, old⟩ := entry
      unfold Dict.erase at ih ⊢
      by_cases hk : k = key
      · subst hk
        simp [Dict.put]
      · have hb : (k == key) = false := by simpa using hk
        simp only [Dict.put, hb, Bool.false_eq_true, if_false, List.filter_cons]
        rw [ih]

end CodeAudit.Data

namespace CodeAudit.Audit

open CodeAudit.Data CodeAudit.Source CodeAudit.Report

/-! ## §1. Conclusions. -/

/-- A job, and what a model and an adviser reply to it when they are asked. -/
structure Inquiry where
  job : Job
  model : ModelReply
  adviser : AdviserReply

/-- The job with these replies. -/
def Inquiry.answered (q : Inquiry) : Job :=
  { q.job with services := { q.job.services with model := q.model, adviser := q.adviser } }

/-- The totals of a job. -/
def Job.totals (j : Job) : Totals :=
  (totalsOf .standard j.services.lint j.modules).afterScan j.services.scanner

/-- The heritage of the classes of a job. -/
def Job.heritage (j : Job) : Heritage := heritageOf .standard j.services.lint j.modules

/-- A standing with another conclusion. -/
def Standing.concluding (s : Standing) (m : Metrics) (advice : Option Value) : Standing :=
  { s with summary := m, advice := advice }

theorem enter_concluding (s : Standing) (m : Metrics) (advice : Option Value) (file : String)
    (findings : List Finding) :
    (s.concluding m advice).enter file findings = (s.enter file findings).concluding m advice := by
  unfold Standing.enter
  split <;> rfl

/-- Entering files does not look at the conclusion. -/
theorem enterAll_concluding (s : Standing) (m : Metrics) (advice : Option Value)
    (found : List (String × List Finding)) :
    (s.concluding m advice).enterAll found = (s.enterAll found).concluding m advice := by
  induction found generalizing s with
  | nil => rfl
  | cons f rest ih =>
      rw [Standing.enterAll_cons, Standing.enterAll_cons, enter_concluding, ih]

/-- **Step: one audit** in two editions, from standings that differ in their
conclusions, ends in standings that do. -/
theorem after_concluding (e e' : Edition) (s : Standing) (m : Metrics) (advice : Option Value)
    (q : Inquiry) :
    (s.concluding m advice).after e' q.answered =
      (s.after e q.job).concluding (summaryOf e' q.model q.job.totals q.job.heritage)
        (if e'.assisted then some (adviceOf q.adviser) else advice) := by
  have hentered := enterAll_concluding { s with project := baseName q.job.directory } m advice
    (findingsOf .standard q.job.services.lint q.job.modules)
  show (((({ s with project := baseName q.job.directory } : Standing).concluding m advice).enterAll
      (findingsOf .standard q.job.services.lint q.job.modules)).withScan
    q.job.services.scanner).concluded e' q.answered.services q.job.totals q.job.heritage = _
  rw [hentered]
  rfl

/-- **Run: a session** in two editions differs in its conclusion only. -/
theorem standing_concluding (e e' : Edition) (asked : List Inquiry) :
    ∃ m advice, standing e' (asked.map Inquiry.answered) =
      (standing e (asked.map Inquiry.job)).concluding m advice := by
  induction asked using List.reverseRecOn with
  | nil => exact ⟨[], none, rfl⟩
  | append_singleton asked q ih =>
      obtain ⟨m, advice, h⟩ := ih
      rw [List.map_append, List.map_append, List.map_singleton, List.map_singleton,
        standing_append, standing_append, h]
      exact ⟨_, _, after_concluding e e' _ m advice q⟩

/-! ## §2. Metrics and the plain report. -/

/-- The prediction stands behind metrics that do without it. -/
theorem erase_prediction (reply reply' : ModelReply) (t : Totals) (h : Heritage) :
    Dict.erase (summaryOf .full reply t h) "ml_prediction" = summaryOf .basic reply' t h := by
  have hkeys : ∀ entry ∈ advisedMetrics t h, entry.1 ∈ Counter.all.map Counter.key
      ++ [depthKey, averageLinesKey, averageParametersKey, adviceKey] := by
    intro entry hentry
    simp only [advisedMetrics, derivedMetrics, List.mem_append] at hentry
    rcases hentry with (hentry | hentry) | hentry
    · obtain ⟨c, hc, rfl⟩ := List.mem_map.mp hentry
      exact List.mem_append_left _ (List.mem_map_of_mem hc)
    · simp only [derivedPart, List.mem_cons, List.not_mem_nil, or_false] at hentry
      rcases hentry with rfl | rfl | rfl <;> exact List.mem_append_right _ (by simp)
    · rw [List.mem_singleton] at hentry
      subst hentry
      exact List.mem_append_right _ (by simp)
  show Dict.erase (Dict.put (advisedMetrics t h) "ml_prediction" _) "ml_prediction"
    = advisedMetrics t h
  rw [Dict.erase_put]
  refine List.filter_eq_self.mpr fun entry hentry => ?_
  rw [bne_iff_ne]
  intro heq
  have hmem := hkeys entry hentry
  rw [heq] at hmem
  exact absurd hmem (by decide)

/-- The lines of the metrics do without the prediction. -/
theorem plainClosing_summaryOf (e e' : Edition) (reply reply' : ModelReply) (t : Totals)
    (h : Heritage) :
    plainClosing (summaryOf e reply t h) = plainClosing (summaryOf e' reply' t h) := by
  have hkeys : ∀ l ∈ metricLabels, l.2.1 ≠ adviceKey ∧ l.2.1 ≠ "ml_prediction" := by decide
  unfold plainClosing
  congr 1
  refine List.map_congr_left fun l hl => ?_
  obtain ⟨hadvice, hprediction⟩ := hkeys l hl
  unfold metricLine shown
  rw [get?_summaryOf e reply t h hadvice hprediction,
    get?_summaryOf e' reply' t h hadvice hprediction]

/-- **The plain report does not look at what a model and an adviser say.** -/
theorem plain_concluding (e e' : Edition) {s : Standing} (hs : Sound s) (q : Inquiry)
    (advice : Option Value) :
    plain (.dict ((s.after e q.job).concluding
        (summaryOf e' q.model q.job.totals q.job.heritage) advice).report) =
      plain (.dict (s.after e q.job).report) := by
  have hlists := (sound_after hs e q.job).nonempty
  have hleft := plainLines_report (s := (s.after e q.job).concluding
      (summaryOf e' q.model q.job.totals q.job.heritage) advice)
    (get?_summaryOf_adviceKey e' q.model _ _) (readKeys_numbers e' q.model _ _) hlists
  have hright := plainLines_report (s := s.after e q.job)
    (get?_summaryOf_adviceKey e q.job.services.model _ _)
    (readKeys_numbers e q.job.services.model _ _) hlists
  have hclosing := plainClosing_summaryOf e' e q.model q.job.services.model q.job.totals
    q.job.heritage
  unfold plain
  rw [hleft, hright]
  show Except.map _ (if _ then .ok (_ ++ plainClosing (summaryOf e' q.model q.job.totals
    q.job.heritage)) else _) = _
  -- The lines before the metrics read nothing of the conclusion but the advice, which is the same.
  rw [hclosing]
  rfl

end CodeAudit.Audit

namespace CodeAudit.Report

open CodeAudit.Data CodeAudit.Audit

/-! ## §3. The enriched report of any report. -/

/-- Lists with the same gates fail alike. -/
theorem opened_error {α : Type} {gate : α → Gate} {metrics : Value} {xs ys : List α}
    (hgates : xs.map gate = ys.map gate) {f : Failure}
    (h : opened gate metrics xs = .error f) : opened gate metrics ys = .error f := by
  have hxs : (xs.map gate).filterM (·.opens metrics) = (opened gate metrics xs).map (List.map gate) :=
    filterM_map (fun _ => rfl) xs
  have hys : (ys.map gate).filterM (·.opens metrics) = (opened gate metrics ys).map (List.map gate) :=
    filterM_map (fun _ => rfl) ys
  rw [← hgates, hxs, h] at hys
  cases hopened : opened gate metrics ys with
  | error g =>
      rw [hopened] at hys
      cases hys
      rfl
  | ok found =>
      rw [hopened] at hys
      cases hys

/-- Topics with the same gates are raised or fail alike. -/
theorem raised_cases (topics : List Topic) (metrics : Value) :
    (∃ f, ∀ others : List Topic, others.map Topic.gate = topics.map Topic.gate →
      raised others metrics = .error f) ∨
    ∀ t ∈ topics, ∃ b, t.gate.opens metrics = .ok b := by
  cases hopened : opened Topic.gate metrics topics with
  | error f =>
      refine .inl ⟨f, fun others hgates => ?_⟩
      unfold raised
      rw [opened_error hgates.symm hopened]
      rfl
  | ok found => exact .inr (ok_of_filterM hopened)

/-- Topics of security have the same gates however scripts are shown. -/
theorem security_gates (a : Amount) :
    (Topic.security a).map Topic.gate = (Topic.security .count).map Topic.gate := rfl

theorem security_opens {metrics : Value}
    (h : ∀ t ∈ Topic.security .count, ∃ b, t.gate.opens metrics = .ok b) (a : Amount) :
    ∀ t ∈ Topic.security a, ∃ b, t.gate.opens metrics = .ok b := by
  intro t ht
  have hgate : t.gate ∈ (Topic.security .count).map Topic.gate := by
    rw [← security_gates a]
    exact List.mem_map_of_mem ht
  obtain ⟨u, hu, heq⟩ := List.mem_map.mp hgate
  rw [← heq]
  exact h u hu

/-- **What is gathered from any report** fails alike in all editions, or differs in
the topics of security only. -/
theorem gatherEnriched_cases (report : Value) :
    (∃ f, ∀ a, gatherEnriched a report = .error f) ∨
    ∃ metrics text, ∃ found : List (String × Dict), ∃ measures : List Measure,
      ∃ phases : List Phase,
      report.field "summary_metrics" = .ok metrics ∧
      (∀ t ∈ Topic.security .count, ∃ b, t.gate.opens metrics = .ok b) ∧
      ∀ a, gatherEnriched a report = .ok (sectionsOf text
        ((raisedAmong metrics (Topic.security a)).map (topicValue metrics))
        ((raisedAmong metrics Topic.quality).map (topicValue metrics))
        (found.map fun x => seriousOf x.1 x.2) (measures.map Measure.toValue)
        (phases.map Phase.toValue)) := by
  -- The steps are taken in order.  Only the topics of security depend on the amount, and
  -- whether they can be raised does not.
  unfold gatherEnriched securityTopics qualityTopics
  cases hmetrics : report.field "summary_metrics" with
  | error f => exact .inl ⟨f, fun a => rfl⟩
  | ok metrics =>
  simp only [ok_bind]
  cases htext : overview report metrics with
  | error f => exact .inl ⟨f, fun a => rfl⟩
  | ok text =>
  rcases raised_cases (Topic.security .count) metrics with ⟨f, hf⟩ | hsecurity
  · exact .inl ⟨f, fun a => by rw [ok_bind, hf _ (security_gates a)]; rfl⟩
  rcases raised_cases Topic.quality metrics with ⟨f, hf⟩ | hquality
  · exact .inl ⟨f, fun a => by
      rw [ok_bind, raised_eq (security_opens hsecurity a), ok_bind, hf _ rfl]; rfl⟩
  simp only [ok_bind, raised_eq (security_opens hsecurity _), raised_eq hquality]
  cases hcritical : criticalFindings report with
  | error f => exact .inl ⟨f, fun a => rfl⟩
  | ok critical =>
  obtain ⟨found, rfl⟩ := seriousOf_of_criticalFindings hcritical
  unfold measures actionPlan
  simp only [hmetrics, ok_bind]
  cases hmeasures : opened Measure.gate metrics Measure.all with
  | error f => exact .inl ⟨f, fun a => rfl⟩
  | ok measures =>
  cases hurgent : isUrgent metrics with
  | error f => exact .inl ⟨f, fun a => rfl⟩
  | ok urgent => exact .inr ⟨metrics, text, found, measures, _, rfl, hsecurity, fun a => rfl⟩

/-- When scripts are raised and hidden, a topic is not counted. -/
theorem uncounted_security {metrics : Value}
    (h : (Gate.nonzero .crossSiteScripting).isOpen metrics = true) :
    (raisedAmong metrics (Topic.security .hidden)).all (·.amount == .count) = false := by
  have hmem : Topic.crossSiteScripting .hidden ∈ raisedAmong metrics (Topic.security .hidden) :=
    List.mem_filter.mpr ⟨List.mem_cons_of_mem _ List.mem_cons_self, h⟩
  rw [List.all_eq_false]
  exact ⟨_, hmem, by decide⟩

/-- When scripts are not raised, it does not matter how they are shown. -/
theorem raisedAmong_shut {metrics : Value}
    (h : (Gate.nonzero .crossSiteScripting).isOpen metrics = false) (a b : Amount) :
    raisedAmong metrics (Topic.security a) = raisedAmong metrics (Topic.security b) := by
  have hothers : ∀ c, raisedAmong metrics (Topic.security c) = raisedAmong metrics [.sqlInjection]
      ++ raisedAmong metrics [.sensitiveData, .forgedRequests, .dependencies] := by
    intro c
    show ([Topic.sqlInjection] ++ Topic.crossSiteScripting c :: _).filter _ = _
    rw [List.filter_append]
    refine congrArg (List.filter _ _ ++ ·) (List.filter_cons_of_neg ?_)
    show ¬ (Gate.nonzero .crossSiteScripting).isOpen metrics = true
    rw [h]
    exact Bool.false_ne_true
  rw [hothers a, hothers b]

/-- **The full edition's enriched report is the basic one's,** failures included,
until a script is raised: then it misses the count of that topic. -/
theorem enriched_hidden (report : Value) :
    (∃ f, enriched .count report = .error f ∧ enriched .hidden report = .error f) ∨
    ∃ text metrics raised, enriched .count report = .ok text ∧
      report.field "summary_metrics" = .ok metrics ∧
      (Gate.nonzero .crossSiteScripting).opens metrics = .ok raised ∧
      enriched .hidden report = if raised then .error uncounted else .ok text := by
  rcases gatherEnriched_cases report with ⟨f, hf⟩ |
    ⟨metrics, text, found, measures, phases, hmetrics, hgates, hgather⟩
  · refine .inl ⟨f, ?_, ?_⟩ <;>
    · unfold enriched
      rw [hf]
      rfl
  · have hcounted : (raisedAmong metrics (Topic.security .count)).all (·.amount == .count)
        = true := by
      have hall : ∀ t ∈ Topic.security .count, (t.amount == .count) = true := by decide
      exact List.all_eq_true.mpr fun t ht => hall t (List.mem_of_mem_filter ht)
    have hmeasured : ∀ t ∈ raisedAmong metrics Topic.quality, t.isMeasured = true := by
      have hall : ∀ t ∈ Topic.quality, t.isMeasured = true := by decide
      exact fun t ht => hall t (List.mem_of_mem_filter ht)
    have hopens : (Gate.nonzero .crossSiteScripting).opens metrics
        = .ok ((Gate.nonzero .crossSiteScripting).isOpen metrics) :=
      Gate.opens_eq (hgates (.crossSiteScripting .count)
        (List.mem_cons_of_mem _ List.mem_cons_self))
    have hbasic := enriched_of_lines (hgather .count)
      (enrichedLines_sections hcounted hmeasured text found measures phases)
    refine .inr ⟨_, metrics, _, hbasic, hmetrics, hopens, ?_⟩
    cases hraised : (Gate.nonzero .crossSiteScripting).isOpen metrics with
    | true =>
        -- Everything has been gathered, and writing stops at the first section.
        unfold enriched writeEnriched
        rw [hgather, ok_bind, enrichedLines_uncounted (uncounted_security hraised)]
        rfl
    | false =>
        rw [← hbasic]
        unfold enriched
        rw [hgather, hgather, raisedAmong_shut hraised .hidden .count]
        rfl

end CodeAudit.Report

namespace CodeAudit.Audit

open CodeAudit.Data CodeAudit.Report

/-! ## §4. Where the editions agree. -/

/-- Two reports tell the same about the files of a project, and hold the same
metrics, the prediction apart. -/
structure SameFindings (full basic : Dict) : Prop where
  entries : ∀ key ∈ ["project_name", "files_analyzed", "files_with_issues", "total_issues",
    "detailed_report"], ∃ v, Dict.get? full key = some v ∧ Dict.get? basic key = some v
  metrics : ∃ m n, Dict.get? full "summary_metrics" = some (.dict m) ∧
    Dict.get? basic "summary_metrics" = some (.dict n) ∧ Dict.erase m "ml_prediction" = n

/-- Reports that differ in their conclusions tell the same. -/
theorem sameFindings_concluding (s : Standing) {m : Metrics} (advice : Option Value)
    (hm : Dict.erase m "ml_prediction" = s.summary) :
    SameFindings (s.concluding m advice).report s.report := by
  refine ⟨?_, m, s.summary, Standing.get?_summary _, Standing.get?_summary _, hm⟩
  intro key hkey
  simp only [List.mem_cons, List.not_mem_nil, or_false] at hkey
  rcases hkey with rfl | rfl | rfl | rfl | rfl <;> exact ⟨_, rfl, rfl⟩

/-- **The editions agree** on every project, whatever a model and an adviser reply
to the full one: both audits succeed, the reports tell the same, and so do the
plain reports, failures included.  From any report at all the editions write the
same enriched report or fail alike, except when scripts are raised in a report
that the basic one can write: then the full one misses a count. -/
theorem editions_agree (asked : List Inquiry) (q : Inquiry) (report : Value) :
    let full := (session .full (asked.map Inquiry.answered)).audit .full q.answered.services
      q.answered.directory q.answered.files
    let basic := (session .basic (asked.map Inquiry.job)).audit .basic q.job.services
      q.job.directory q.job.files
    (full.1 = .ok () ∧ basic.1 = .ok () ∧ SameFindings full.2.1.report basic.2.1.report ∧
      (full.2.1.perform plainReport).1 = (basic.2.1.perform plainReport).1) ∧
    ((∃ f, enriched Edition.basic.scripting report = .error f ∧
        enriched Edition.full.scripting report = .error f) ∨
      ∃ text metrics raised, enriched Edition.basic.scripting report = .ok text ∧
        report.field "summary_metrics" = .ok metrics ∧
        (Gate.nonzero .crossSiteScripting).opens metrics = .ok raised ∧
        enriched Edition.full.scripting report =
          if raised then .error (.missingKey "count") else .ok text) := by
  obtain ⟨m, advice, hstanding⟩ := standing_concluding .basic .full asked
  obtain ⟨_, hfull⟩ := audit_session .full (asked.map Inquiry.answered) q.answered
  obtain ⟨_, hbasic⟩ := audit_session .basic (asked.map Inquiry.job) q.job
  rw [hstanding, after_concluding .basic] at hfull
  rw [hfull, hbasic]
  refine ⟨⟨rfl, rfl, ?_, ?_⟩, enriched_hidden report⟩
  · exact sameFindings_concluding _ _ (erase_prediction q.model q.job.services.model _ _)
  · rw [perform_plainReport, perform_plainReport]
    exact plain_concluding .basic .full (sound_standing .basic _) q _

end CodeAudit.Audit
