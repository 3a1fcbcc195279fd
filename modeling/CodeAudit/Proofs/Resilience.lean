/-
  CodeAudit.Proofs.Resilience
  ───────────────────────────
  **NO SERVICE BREAKS AN AUDIT.**

  Linter, scanner, model and adviser may break down or reply anything, and
  files may hold any bytes.  An assisted audit succeeds all the same, after
  any audits before it, and its report is complete: every metric that a
  report reads is a number, the averages are the quotients that they should
  be, the advice and the prediction are there, and no failed summary is
  noted.

    • `readKeys_numbers` — the metrics that reports read,
    • `audit_never_breaks` — the whole statement.
-/
import CodeAudit.Proofs.Averages
import CodeAudit.Proofs.Session
import CodeAudit.Report.Assistant
import CodeAudit.Report.Plain

namespace CodeAudit.Audit

open CodeAudit.Data CodeAudit.Source CodeAudit.Report

/-! ## §1. The metrics that reports read. -/

/-- The keys of the metrics that the plain, the enriched and the commented
report read. -/
def readKeys : List String :=
  metricLabels.map (·.2.1) ++ (Topic.security .count).map (·.gate.key)
    ++ Topic.quality.map (·.gate.key) ++ Measure.all.map (·.gate.key) ++ Area.all.map (·.gate.key)
    ++ Strength.all.map (·.key) ++ commentedMetrics.map (·.key)

/-- Reports read counters and derived metrics only. -/
theorem readKeys_subset : ∀ key ∈ readKeys,
    key ∈ Counter.all.map Counter.key ++ [depthKey, averageLinesKey, averageParametersKey] := by
  decide

/-- Counters and derived metrics are numbers after every audit. -/
theorem derived_numbers (e : Edition) (reply : ModelReply) (t : Totals) (h : Heritage) {key : String}
    (hkey : key ∈ Counter.all.map Counter.key ++ [depthKey, averageLinesKey, averageParametersKey]) :
    ∃ v, Dict.get? (summaryOf e reply t h) key = some v ∧ isNumber v = true := by
  rcases List.mem_append.mp hkey with hkey | hkey
  · obtain ⟨c, -, rfl⟩ := List.mem_map.mp hkey
    exact ⟨.int (t c), get?_summaryOf_key e reply t h c, rfl⟩
  rcases List.mem_cons.mp hkey with rfl | hkey
  · refine ⟨.int h.deepest, ?_, rfl⟩
    rw [get?_summaryOf _ _ _ _ (by decide) (by decide), get?_depth]
  rcases List.mem_cons.mp hkey with rfl | hkey
  · refine ⟨average (.ofTotals t) .functionLines, ?_, isNumber_average _ _⟩
    rw [get?_summaryOf _ _ _ _ (by decide) (by decide), get?_averageLines]
  · rw [List.mem_singleton] at hkey
    subst hkey
    refine ⟨average (.ofTotals t) .parameters, ?_, isNumber_average _ _⟩
    rw [get?_summaryOf _ _ _ _ (by decide) (by decide), get?_averageParameters]

/-- **Every metric that a report reads is there, and is a number.** -/
theorem readKeys_numbers (e : Edition) (reply : ModelReply) (t : Totals) (h : Heritage) :
    ∀ key ∈ readKeys, ∃ v, Dict.get? (summaryOf e reply t h) key = some v ∧ isNumber v = true := by
  intro key hkey
  exact derived_numbers e reply t h (readKeys_subset key hkey)

/-! ## §2. The words of the adviser. -/

/-- Whether an adviser breaks down, or answers a text or null. -/
def AdviserReply.inWords : AdviserReply → Bool
  | .fails _ => true
  | .answers .null => true
  | .answers (.text _) => true
  | .answers _ => false

/-- What an adviser says: its text, if that is not empty. -/
def AdviserReply.said? : AdviserReply → Option String
  | .answers (.text s) => if s = "" then none else some s
  | _ => none

/-- A text, or null when there is none. -/
def textOrNull : Option String → Value
  | some s => .text s
  | none => .null

/-- The report holds what the adviser says. -/
theorem adviceOf_eq {r : AdviserReply} (h : r.inWords = true) : adviceOf r = textOrNull r.said? := by
  unfold AdviserReply.inWords at h
  split at h
  · rfl
  · rfl
  · rename_i s
    by_cases hs : s = ""
    · subst hs
      rfl
    · have htruthy : (Value.text s).truthy = true := by simpa [Value.truthy] using hs
      simp [adviceOf, htruthy, AdviserReply.said?, hs, textOrNull]
  · cases h

/-! ## §3. Complete reports. -/

/-- A complete report of an assisted audit, with what the model and the adviser
have said. -/
structure Complete (services : Services) (report : Dict) : Prop where
  metrics : ∀ key ∈ readKeys, ∃ v, metric? report key = some v ∧ isNumber v = true
  averageLines : ShowsAverage report .functionLines averageLinesKey
  averageParameters : ShowsAverage report .parameters averageParametersKey
  recommendations : ∃ advice : List Advice,
    metric? report "recommendations" = some (.list (advice.map Advice.toValue))
  prediction : metric? report "ml_prediction" = some (.text (predictionText services.model))
  noFailure : Dict.get? report "llm_error" = none
  words : services.adviser.inWords = true →
    Dict.get? report "llm_recommendations" = some (textOrNull services.adviser.said?)

/-- The report after an assisted audit is complete. -/
theorem complete_audited (s : Standing) (e : Edition) (he : e.assisted = true) (k : Keywords)
    (services : Services) (directory : String) (modules : List (String × List UInt8)) :
    Complete services (s.audited e k services directory modules).report := by
  refine ⟨?_, ?_, ?_, ?_, ?_, ?_, ?_⟩
  · intro key hkey
    exact readKeys_numbers e services.model _ _ key hkey
  · refine showsAverage_report (get?_summaryOf_key e services.model _ _) ?_
    show Dict.get? (summaryOf e services.model _ _) averageLinesKey = _
    rw [get?_summaryOf _ _ _ _ (by decide) (by decide), get?_averageLines]
  · refine showsAverage_report (get?_summaryOf_key e services.model _ _) ?_
    show Dict.get? (summaryOf e services.model _ _) averageParametersKey = _
    rw [get?_summaryOf _ _ _ _ (by decide) (by decide), get?_averageParameters]
  · exact ⟨_, get?_summaryOf_adviceKey e services.model _ _⟩
  · show Dict.get? (summaryOf e services.model _ _) "ml_prediction" = _
    rw [summaryOf, if_pos he, Dict.get?_put, if_pos rfl]
  · exact Standing.get?_failedSummary _
  · intro hwords
    rw [Standing.get?_advice, ← adviceOf_eq hwords]
    show (if e.assisted then some (adviceOf services.adviser) else _) = _
    rw [if_pos he]

/-- **After any audits, an audit succeeds whatever its files hold and its
services reply, and its report is complete.** -/
theorem audit_never_breaks (jobs : List Job) (j : Job) :
    ((session .full jobs).audit .full j.services j.directory j.files).1 = .ok () ∧
      Complete j.services
        ((session .full jobs).audit .full j.services j.directory j.files).2.1.report := by
  obtain ⟨trace, -, haudit⟩ := audit_report (standing .full jobs) .full .standard j.services
    j.directory j.files
  rw [session_report, haudit]
  exact ⟨rfl, complete_audited _ .full rfl .standard j.services j.directory _⟩

/-- A file that cannot be read, a scanner that prints no list, a model that
breaks down, and an adviser that says something. -/
theorem audit_never_breaks_words :
    (Services.mk (fun _ => .fails "") (.ends 1 "3") (.fails "") (.answers (.text "a"))).adviser.inWords
        = true ∧
      Dict.get? ((session .full []).audit .full
          ⟨fun _ => .fails "", .ends 1 "3", .fails "", .answers (.text "a")⟩ ""
          (.single ⟨"a.py", [0xff]⟩)).2.1.report "llm_recommendations" = some (.text "a") :=
  ⟨rfl, (audit_never_breaks []
    ⟨⟨fun _ => .fails "", .ends 1 "3", .fails "", .answers (.text "a")⟩, "",
      .single ⟨"a.py", [0xff]⟩⟩).2.words rfl⟩

end CodeAudit.Audit
