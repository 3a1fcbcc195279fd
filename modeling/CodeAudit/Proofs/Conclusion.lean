/-
  CodeAudit.Proofs.Conclusion
  ───────────────────────────
  **AN AUDIT ALWAYS COMES TO ITS CONCLUSION.**

  After the files come derived metrics, advice on metrics, and summaries for
  an adviser.  Nothing guards these against a missing metric or one that is
  no number, and none is needed: every metric that advice looks at is there
  and is a number, and every finding and every piece of advice is a
  dictionary with the fields that a summary reads.

    • `withDerived_ofTotals` — the metrics after the files,
    • `withAdvice_derivedMetrics` — advice on them never fails,
    • `findingSummary_report`, `adviceSummary_report` — nor do the summaries,
    • `on_conclude` — so an audit that has come this far succeeds.
-/
import CodeAudit.Proofs.Standing
import CodeAudit.Proofs.Totals
import CodeAudit.Proofs.Verdicts

namespace CodeAudit.Data

/-! ## §1. Dictionaries. -/

/-- A new key goes to the end. -/
theorem Dict.put_of_get?_none {d : Dict} {key : String} (h : Dict.get? d key = none) (v : Value) :
    Dict.put d key v = d ++ [(key, v)] := by
  induction d with
  | nil => rfl
  | cons entry rest ih =>
      obtain ⟨k, old⟩ := entry
      by_cases hk : key = k
      · subst hk
        simp [Dict.get?] at h
      · have hb : (key == k) = false := by simpa using hk
        have hb' : (k == key) = false := by simpa using Ne.symm hk
        have hrest : Dict.get? rest key = none := by
          simpa [Dict.get?, List.lookup_cons, hb] using h
        simp only [Dict.put, hb', Bool.false_eq_true, if_false, List.cons_append]
        rw [ih hrest]

/-- A key is looked up in the first part, then in the second. -/
theorem Dict.get?_append (a b : Dict) (key : String) :
    Dict.get? (a ++ b) key = (Dict.get? a key).or (Dict.get? b key) := by
  simp [Dict.get?, List.lookup_append]

end CodeAudit.Data

namespace CodeAudit.Audit

open CodeAudit.Data CodeAudit.Source CodeAudit.Report
open Metrics (ofTotals)

/-! ## §2. Derived metrics. -/

/-- The keys that are no counters are not among the totals. -/
theorem get?_ofTotals_none (t : Totals) {key : String} (h : key ∉ Counter.all.map Counter.key) :
    Dict.get? (ofTotals t) key = none := by
  rw [Dict.get?, List.lookup_eq_none_iff]
  intro p hp
  obtain ⟨c, hc, rfl⟩ := List.mem_map.mp hp
  have hne : key ≠ c.key := fun heq => h (heq ▸ List.mem_map_of_mem hc)
  simpa using hne

theorem depthKey_no_counter : depthKey ∉ Counter.all.map Counter.key := by decide

theorem averageLinesKey_no_counter : averageLinesKey ∉ Counter.all.map Counter.key := by decide

theorem averageParametersKey_no_counter : averageParametersKey ∉ Counter.all.map Counter.key := by
  decide

theorem adviceKey_no_counter : adviceKey ∉ Counter.all.map Counter.key := by decide

/-- The derived metrics alone. -/
def derivedPart (t : Totals) (h : Heritage) : Metrics :=
  [(depthKey, .int h.deepest), (averageLinesKey, average (ofTotals t) .functionLines),
   (averageParametersKey, average (ofTotals t) .parameters)]

/-- The metrics after the files of a project: totals, then what is derived. -/
def derivedMetrics (t : Totals) (h : Heritage) : Metrics := ofTotals t ++ derivedPart t h

/-- An average looks at counters only, so what stands behind them is of no
account. -/
theorem average_append (t : Totals) (more : Metrics) (c : Counter) :
    average (ofTotals t ++ more) c = average (ofTotals t) c := by
  have hget : ∀ d : Counter, Metrics.get (ofTotals t ++ more) d.key = .ok (.int (t d)) := by
    intro d
    simp [Metrics.get, Value.field, Dict.get?_append]
  simp only [average, hget, Metrics.get_ofTotals]

/-- A new key that is no counter goes to the end. -/
theorem put_behind (t : Totals) (more : Metrics) {key : String}
    (hkey : key ∉ Counter.all.map Counter.key) (hmore : Dict.get? more key = none) (v : Value) :
    Dict.put (ofTotals t ++ more) key v = ofTotals t ++ (more ++ [(key, v)]) := by
  rw [Dict.put_of_get?_none, List.append_assoc]
  rw [Dict.get?_append, get?_ofTotals_none t hkey, hmore]
  rfl

/-- **The derived metrics stand behind the totals.** -/
theorem withDerived_ofTotals (t : Totals) (h : Heritage) :
    withDerived (ofTotals t) h = derivedMetrics t h := by
  have hdepth := put_behind t [] depthKey_no_counter rfl (.int h.deepest)
  have hlines := put_behind t [(depthKey, .int h.deepest)] averageLinesKey_no_counter rfl
  have hparameters := fun v => put_behind t [(depthKey, .int h.deepest), (averageLinesKey, v)]
    averageParametersKey_no_counter rfl
  rw [List.append_nil] at hdepth
  simp only [List.nil_append, List.cons_append] at hdepth hlines hparameters
  unfold withDerived
  -- The averages are taken one after the other, and neither sees the other.
  simp only [hdepth, hlines, hparameters, average_append]
  rfl

/-- The counters are read back behind the derived metrics too. -/
@[simp] theorem get?_derivedMetrics (t : Totals) (h : Heritage) (c : Counter) :
    Dict.get? (derivedMetrics t h) c.key = some (.int (t c)) := by
  simp [derivedMetrics, Dict.get?_append]

@[simp] theorem get?_depth (t : Totals) (h : Heritage) :
    Dict.get? (derivedMetrics t h) depthKey = some (.int h.deepest) := by
  rw [derivedMetrics, Dict.get?_append, get?_ofTotals_none t depthKey_no_counter]
  rfl

@[simp] theorem get?_averageLines (t : Totals) (h : Heritage) :
    Dict.get? (derivedMetrics t h) averageLinesKey = some (average (ofTotals t) .functionLines) := by
  rw [derivedMetrics, Dict.get?_append, get?_ofTotals_none t averageLinesKey_no_counter]
  rfl

@[simp] theorem get?_averageParameters (t : Totals) (h : Heritage) :
    Dict.get? (derivedMetrics t h) averageParametersKey
      = some (average (ofTotals t) .parameters) := by
  rw [derivedMetrics, Dict.get?_append, get?_ofTotals_none t averageParametersKey_no_counter]
  rfl

/-- There is no advice among the derived metrics yet. -/
theorem get?_derivedMetrics_adviceKey (t : Totals) (h : Heritage) :
    Dict.get? (derivedMetrics t h) adviceKey = none := by
  rw [derivedMetrics, Dict.get?_append, get?_ofTotals_none t adviceKey_no_counter]
  rfl

/-! ## §3. Advice. -/

/-- An average is a number. -/
theorem isNumber_average (m : Metrics) (c : Counter) : isNumber (average m c) = true := by
  unfold average
  split
  · split <;> rfl
  · rfl

/-- Every metric that a rule looks at is there, and is a number. -/
theorem rules_find_numbers (t : Totals) (h : Heritage) :
    ∀ r ∈ AdviceRule.all, ∃ v, Dict.get? (derivedMetrics t h) r.metric = some v
      ∧ isNumber v = true := by
  intro r hr
  have hcounter : ∀ c : Counter, r.metric = c.key →
      ∃ v, Dict.get? (derivedMetrics t h) r.metric = some v ∧ isNumber v = true := by
    intro c hc
    exact ⟨.int (t c), by rw [hc, get?_derivedMetrics], rfl⟩
  simp only [AdviceRule.all, List.mem_cons, List.not_mem_nil, or_false] at hr
  rcases hr with rfl | rfl | rfl | rfl | rfl | rfl | rfl | rfl
  · exact hcounter .cyclomatic rfl
  · exact hcounter .branches rfl
  · exact ⟨_, get?_depth t h, rfl⟩
  · exact ⟨_, get?_averageLines t h, isNumber_average _ _⟩
  · exact hcounter .lint rfl
  · exact hcounter .sensitiveVariables rfl
  · exact hcounter .sqlInjections rfl
  · exact hcounter .crossSiteScripting rfl

/-- No rule looks at the advice itself. -/
theorem metric_ne_adviceKey : ∀ r ∈ AdviceRule.all, r.metric ≠ adviceKey := by
  intro r hr
  simp only [AdviceRule.all, List.mem_cons, List.not_mem_nil, or_false] at hr
  rcases hr with rfl | rfl | rfl | rfl | rfl | rfl | rfl | rfl <;> decide

/-- The advice on the metrics of an audit. -/
def adviceOn (t : Totals) (h : Heritage) : List Advice :=
  (gather (Dict.put (derivedMetrics t h) adviceKey (.list [])) AdviceRule.all).advice

/-- The metrics with the advice on them. -/
def advisedMetrics (t : Totals) (h : Heritage) : Metrics :=
  derivedMetrics t h ++ [(adviceKey, .list ((adviceOn t h).map Advice.toValue))]

/-- All rules give their advice on the metrics of an audit, and give it on numbers. -/
theorem gather_derivedMetrics (t : Totals) (h : Heritage) :
    (gather (Dict.put (derivedMetrics t h) adviceKey (.list [])) AdviceRule.all).failure = none ∧
      ∀ a ∈ adviceOn t h, isNumber a.value = true := by
  refine gather_numbers fun r hr => ?_
  rw [Dict.get?_put, if_neg (metric_ne_adviceKey r hr)]
  exact rules_find_numbers t h r hr

/-- **Advice on the metrics of an audit never fails**, and is written behind
them. -/
theorem withAdvice_derivedMetrics (t : Totals) (h : Heritage) :
    withAdvice (derivedMetrics t h) = (advisedMetrics t h, none) := by
  obtain ⟨hfailure, -⟩ := gather_derivedMetrics t h
  unfold withAdvice
  simp only [hfailure]
  rw [Dict.put_of_get?_none (get?_derivedMetrics_adviceKey t h)]
  rfl

/-- The advice is read back. -/
theorem get?_advisedMetrics (t : Totals) (h : Heritage) :
    Dict.get? (advisedMetrics t h) adviceKey
      = some (.list ((adviceOn t h).map Advice.toValue)) := by
  rw [advisedMetrics, Dict.get?_append, get?_derivedMetrics_adviceKey]
  rfl

/-! ## §4. Summaries. -/

/-- A finding has the fields of its line in the summary. -/
theorem findingLine_ok (file : String) (f : Finding) :
    ∃ line, findingLine file f.toValue = .ok line := ⟨_, rfl⟩

/-- **The findings of a standing can be summarised.** -/
theorem findingSummary_report (s : Standing) :
    ∃ text, findingSummary (.dict s.report) = .ok text := by
  have hfiles : ∃ found, s.listing.toDict.mapM (fun entry => do
      (← entry.2.items).mapM (findingLine entry.1)) = .ok found := by
    refine mapM_ok fun entry hentry => ?_
    obtain ⟨d, -, rfl⟩ := List.mem_map.mp hentry
    refine mapM_ok fun v hv => ?_
    obtain ⟨f, -, rfl⟩ := List.mem_map.mp hv
    exact findingLine_ok d.1 f
  obtain ⟨found, hfound⟩ := hfiles
  have hfield : Value.field (.dict s.report) "detailed_report" = .ok (.dict s.listing.toDict) := by
    simp [Value.field]
  have hvisit : visitFindings (.dict s.report) findingLine = .ok found.flatten := by
    unfold visitFindings
    rw [hfield]
    exact congrArg (· >>= fun found => Except.ok found.flatten) hfound
  refine ⟨linesOr "Aucune faille critique détectée." found.flatten, ?_⟩
  unfold findingSummary
  rw [hvisit]
  rfl

/-- A piece of advice has the fields of its line in the summary. -/
theorem adviceLine_ok (a : Advice) : ∃ line, adviceLine a.toValue = .ok line := ⟨_, rfl⟩

/-- **The advice of a standing can be summarised.** -/
theorem adviceSummary_report (s : Standing) {advice : List Advice}
    (h : Dict.get? s.summary adviceKey = some (.list (advice.map Advice.toValue))) :
    ∃ text, adviceSummary (.dict s.report) = .ok text := by
  have hlines : ∃ lines, (advice.map Advice.toValue).mapM adviceLine = .ok lines := by
    refine mapM_ok fun v hv => ?_
    obtain ⟨a, -, rfl⟩ := List.mem_map.mp hv
    exact adviceLine_ok a
  obtain ⟨lines, hlines⟩ := hlines
  have h' : Dict.get? s.summary "recommendations" = some (.list (advice.map Advice.toValue)) := h
  refine ⟨linesOr "Aucune métrique critique à signaler." lines, ?_⟩
  simp only [adviceSummary, Value.fieldOr, Standing.get?_summary, Option.getD_some, h', Value.items,
    bind, Except.bind, hlines]

/-! ## §5. The conclusion. -/

/-- The metrics that an audit concludes with. -/
def summaryOf (e : Edition) (reply : ModelReply) (t : Totals) (h : Heritage) : Metrics :=
  if e.assisted then
    Dict.put (advisedMetrics t h) "ml_prediction" (.text (predictionText reply))
  else advisedMetrics t h

/-- Behind the derived metrics stand the advice and the prediction only. -/
theorem get?_summaryOf (e : Edition) (reply : ModelReply) (t : Totals) (h : Heritage) {key : String}
    (hadvice : key ≠ adviceKey) (hprediction : key ≠ "ml_prediction") :
    Dict.get? (summaryOf e reply t h) key = Dict.get? (derivedMetrics t h) key := by
  have hadvised : Dict.get? (advisedMetrics t h) key = Dict.get? (derivedMetrics t h) key := by
    have hnone : Dict.get? [(adviceKey, Value.list ((adviceOn t h).map Advice.toValue))] key
        = none := by
      simp [Dict.get?, hadvice]
    rw [advisedMetrics, Dict.get?_append, hnone, Option.or_none]
  unfold summaryOf
  split
  · rw [Dict.get?_put, if_neg hprediction, hadvised]
  · exact hadvised

/-- The counters are read back. -/
@[simp] theorem get?_summaryOf_key (e : Edition) (reply : ModelReply) (t : Totals) (h : Heritage)
    (c : Counter) : Dict.get? (summaryOf e reply t h) c.key = some (.int (t c)) := by
  rw [get?_summaryOf, get?_derivedMetrics]
  · exact fun heq => adviceKey_no_counter (heq ▸ List.mem_map_of_mem c.mem_all)
  · cases c <;> decide

/-- The advice is read back. -/
theorem get?_summaryOf_adviceKey (e : Edition) (reply : ModelReply) (t : Totals) (h : Heritage) :
    Dict.get? (summaryOf e reply t h) adviceKey
      = some (.list ((adviceOn t h).map Advice.toValue)) := by
  unfold summaryOf
  split
  · rw [Dict.get?_put, if_neg (by decide), get?_advisedMetrics]
  · exact get?_advisedMetrics t h

/-- The standing after the conclusion of an audit. -/
def Standing.concluded (s : Standing) (e : Edition) (services : Services) (t : Totals)
    (h : Heritage) : Standing :=
  { s with
    summary := summaryOf e services.model t h
    advice := if e.assisted then some (adviceOf services.adviser) else s.advice }

/-- The rows that an audit hands to the model. -/
def rowsOf (e : Edition) (t : Totals) (h : Heritage) : List Features :=
  if e.assisted then [featuresOf (advisedMetrics t h)] else []

/-- Asking the adviser never fails, and its answer is written down. -/
theorem on_enterAdvice (s : Standing) (trace : Trace) (reply : AdviserReply) {advice : List Advice}
    (h : Dict.get? s.summary adviceKey = some (.list (advice.map Advice.toValue))) :
    ∃ after : Trace, after.features = trace.features ∧
      Task.on (enterAdvice reply) ⟨s.report, trace⟩
        = (.ok (), ⟨{ s with advice := some (adviceOf reply) }.report, after⟩) := by
  obtain ⟨found, hfound⟩ := findingSummary_report s
  obtain ⟨advised, hadvised⟩ := adviceSummary_report s h
  refine ⟨trace.ask (question found advised), rfl, ?_⟩
  unfold enterAdvice
  rw [Task.on_bind_ok (Task.on_get _)]
  simp only [hfound, hadvised]
  rw [Task.on_bind_ok (Task.on_log _ _), Task.on_write, Standing.put_advice]

/-- **An audit that has come this far succeeds.** -/
theorem on_conclude (s : Standing) (trace : Trace) (e : Edition) (services : Services) (t : Totals)
    (h : Heritage) :
    ∃ after : Trace, after.features = trace.features ++ rowsOf e t h ∧
      Task.on (conclude e services (ofTotals t) h) ⟨s.report, trace⟩
        = (.ok (), ⟨(s.concluded e services t h).report, after⟩) := by
  unfold conclude
  simp only [withDerived_ofTotals, withAdvice_derivedMetrics]
  cases he : e.assisted with
  | false =>
      refine ⟨trace, by simp [rowsOf, he], ?_⟩
      simp only [Bool.false_eq_true, if_false]
      rw [Task.on_write, Standing.put_summary]
      simp [Standing.concluded, summaryOf, he]
  | true =>
      -- The prediction is part of the summary that the adviser is shown.
      obtain ⟨after, hfeatures, hon⟩ := on_enterAdvice
        { s with summary := summaryOf e services.model t h }
        (trace.feed (featuresOf (advisedMetrics t h))) services.adviser
        (get?_summaryOf_adviceKey e services.model t h)
      refine ⟨after, by simp [hfeatures, rowsOf, he, Trace.feed], ?_⟩
      simp only [if_true, enterPrediction, bind_assoc, pure_bind]
      rw [Task.on_bind_ok (Task.on_log _ _), Task.on_bind_ok (Task.on_write _ _ _),
        Standing.put_summary]
      simp only [summaryOf, he, if_true] at hon
      simpa [Standing.concluded, summaryOf, he] using hon

end CodeAudit.Audit
