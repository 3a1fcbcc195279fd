/-
  CodeAudit.Proofs.Verdicts
  ─────────────────────────
  **WHAT RULES OF ADVICE SAY ABOUT NUMBERS.**

  A rule looks at one metric.  When that is a number, what it says is a plain
  function of the number (`AdviceRule.verdict`), and a list of rules about
  different metrics gives at most one piece of advice on each.

    • `firstPassed_eq`, `advise_eq`, `gather_eq` — advice on numbers never fails,
    • `rating_two`, `rating_one` — how rules with two levels or one rate numbers,
    • `filter_verdicts` — the advice on one metric,
    • `verdict_mono` — a greater number is judged at least as severely.
-/
import CodeAudit.Proofs.Bounds
import CodeAudit.Proofs.Fallible
import CodeAudit.Report.Advice

namespace CodeAudit.Audit

/-- How serious a severity is. -/
def Severity.rank : Severity → Nat
  | .info => 0
  | .low => 1
  | .medium => 2
  | .high => 3
  | .critical => 4

end CodeAudit.Audit

namespace CodeAudit.Report

open CodeAudit.Data CodeAudit.Audit

/-! ## §1. The verdict of one rule. -/

/-- A number can be held against every level. -/
theorem firstPassed_eq {v : Value} (hv : isNumber v = true) (levels : List Level) :
    firstPassed v levels = .ok (levels.find? fun l => v.exceeds l.bound) := by
  induction levels with
  | nil => rfl
  | cons l rest ih =>
      unfold firstPassed
      rw [Value.above_eq hv, ok_bind, List.find?_cons]
      cases v.exceeds l.bound with
      | true => rfl
      | false => exact ih

namespace AdviceRule

/-- What a rule says about a number. -/
def verdict (r : AdviceRule) (v : Value) : Option Advice :=
  match r.levels.find? fun l => v.exceeds l.bound with
  | some l => some ⟨r.metric, v, l.severity, l.text v.display⟩
  | none => r.otherwise.map fun text => ⟨r.metric, v, .low, text⟩

theorem advise_eq (r : AdviceRule) {m : Metrics} {v : Value}
    (hget : Dict.get? m r.metric = some v) (hv : isNumber v = true) :
    r.advise m = .ok (r.verdict v) := by
  have hfield : m.get r.metric = .ok v := by
    simp only [Metrics.get, Value.field, hget]
  unfold advise verdict
  rw [hfield, ok_bind, firstPassed_eq hv, ok_bind]
  cases r.levels.find? fun l => v.exceeds l.bound with
  | none => rfl
  | some l => rfl

/-- Advice is on the metric that its rule looks at. -/
theorem metric_of_verdict {r : AdviceRule} {v : Value} {a : Advice} (h : r.verdict v = some a) :
    a.metric = r.metric := by
  unfold verdict at h
  split at h
  · cases h
    rfl
  · obtain ⟨text, -, rfl⟩ := Option.map_eq_some_iff.mp h
    rfl

/-- Advice is on the number that its rule looks at. -/
theorem value_of_verdict {r : AdviceRule} {v : Value} {a : Advice} (h : r.verdict v = some a) :
    a.value = v := by
  unfold verdict at h
  split at h
  · cases h
    rfl
  · obtain ⟨text, -, rfl⟩ := Option.map_eq_some_iff.mp h
    rfl

/-- How severely a rule rates a number; not at all when it has nothing to say. -/
def rating (r : AdviceRule) (v : Value) : Option Severity := (r.verdict v).map (·.severity)

/-- A rule with two levels. -/
theorem rating_two {r : AdviceRule} {high medium : Int} {a b : String → String}
    (h : r.levels = [⟨high, .high, a⟩, ⟨medium, .medium, b⟩]) (v : Value) :
    r.rating v = if v.exceeds high then some .high else if v.exceeds medium then some .medium
      else r.otherwise.map fun _ => .low := by
  unfold rating verdict
  rw [h, List.find?_cons, List.find?_cons, List.find?_nil]
  cases v.exceeds high with
  | true => rfl
  | false =>
      cases v.exceeds medium with
      | true => rfl
      | false => cases r.otherwise <;> rfl

/-- A rule with one level and nothing to say below it. -/
theorem rating_one {r : AdviceRule} {bound : Int} {severity : Severity} {a : String → String}
    (h : r.levels = [⟨bound, severity, a⟩]) (hnone : r.otherwise = none) (v : Value) :
    r.rating v = if v.exceeds bound then some severity else none := by
  unfold rating verdict
  rw [h, hnone, List.find?_cons, List.find?_nil]
  cases v.exceeds bound <;> rfl

/-- A rule is graded when higher bounds go with higher severities, and no bound
with less than is said when none is passed. -/
def Graded (r : AdviceRule) : Prop :=
  r.levels.Pairwise (fun l k => k.severity.rank ≤ l.severity.rank) ∧
    ∀ l ∈ r.levels, Severity.low.rank ≤ l.severity.rank

theorem graded_all : ∀ r ∈ all, r.Graded := by
  unfold Graded
  decide

/-- **A greater number is judged at least as severely.** -/
theorem verdict_mono {r : AdviceRule} (hr : r.Graded) {v w : Value} (h : v.AtMost w) {a : Advice}
    (ha : r.verdict v = some a) :
    ∃ b, r.verdict w = some b ∧ a.severity.rank ≤ b.severity.rank := by
  obtain ⟨hsorted, hlow⟩ := hr
  unfold verdict at ha ⊢
  cases hv : r.levels.find? fun l => v.exceeds l.bound with
  | none =>
      rw [hv] at ha
      obtain ⟨text, htext, rfl⟩ := Option.map_eq_some_iff.mp ha
      cases hw : r.levels.find? fun l => w.exceeds l.bound with
      | none => exact ⟨⟨r.metric, w, .low, text⟩, by rw [htext]; rfl, Nat.le_refl _⟩
      | some l => exact ⟨_, rfl, hlow l (List.mem_of_find?_eq_some hw)⟩
  | some l =>
      rw [hv] at ha
      cases ha
      obtain ⟨hl, before, after, hlevels, -⟩ := List.find?_eq_some_iff_append.mp hv
      have hpassed : w.exceeds l.bound = true := h.exceeds hl
      -- The level that the smaller number passes is passed again, so the search stops
      -- there or at a level before it.
      rw [hlevels, List.find?_append]
      cases hw : before.find? fun l => w.exceeds l.bound with
      | none =>
          rw [Option.none_or, List.find?_cons, hpassed]
          exact ⟨_, rfl, Nat.le_refl _⟩
      | some k =>
          rw [hlevels, List.pairwise_append] at hsorted
          exact ⟨_, rfl, hsorted.2.2 k (List.mem_of_find?_eq_some hw) l List.mem_cons_self⟩

end AdviceRule

/-! ## §2. The verdicts of all rules. -/

/-- What rules say about the values of metrics. -/
def verdicts (value : String → Value) (rules : List AdviceRule) : List Advice :=
  rules.filterMap fun r => r.verdict (value r.metric)

/-- **Advice on numbers never fails.** -/
theorem gather_eq {m : Metrics} {value : String → Value} {rules : List AdviceRule}
    (h : ∀ r ∈ rules, Dict.get? m r.metric = some (value r.metric) ∧
      isNumber (value r.metric) = true) : gather m rules = ⟨verdicts value rules, none⟩ := by
  unfold verdicts
  induction rules with
  | nil => rfl
  | cons r rest ih =>
      obtain ⟨hget, hv⟩ := h r List.mem_cons_self
      have hrest := ih fun q hq => h q (List.mem_cons_of_mem _ hq)
      unfold gather
      rw [r.advise_eq hget hv, List.filterMap_cons]
      simp only [hrest]
      cases r.verdict (value r.metric) with
      | none => rfl
      | some a => rfl

/-- Rules about metrics that are numbers all give their advice, and give it on
numbers. -/
theorem gather_numbers {m : Metrics} {rules : List AdviceRule}
    (h : ∀ r ∈ rules, ∃ v, Dict.get? m r.metric = some v ∧ isNumber v = true) :
    (gather m rules).failure = none ∧ ∀ a ∈ (gather m rules).advice, isNumber a.value = true := by
  have hvalue : ∀ r ∈ rules, Dict.get? m r.metric = some ((Dict.get? m r.metric).getD .null) ∧
      isNumber ((Dict.get? m r.metric).getD .null) = true := by
    intro r hr
    obtain ⟨v, hget, hv⟩ := h r hr
    rw [hget]
    exact ⟨rfl, hv⟩
  have hgather : gather m rules =
      ⟨verdicts (fun key => (Dict.get? m key).getD .null) rules, none⟩ := gather_eq hvalue
  rw [hgather]
  refine ⟨rfl, fun a ha => ?_⟩
  obtain ⟨r, hr, hverdict⟩ := List.mem_filterMap.mp ha
  rw [AdviceRule.value_of_verdict hverdict]
  exact (hvalue r hr).2

/-- The advice on a metric comes from the rules that look at it. -/
theorem filter_metric_verdicts (value : String → Value) (rules : List AdviceRule) (key : String) :
    (verdicts value rules).filter (·.metric == key)
      = verdicts value (rules.filter (·.metric == key)) := by
  unfold verdicts
  rw [List.filter_filterMap, List.filterMap_filter]
  congr 1
  funext r
  cases hverdict : r.verdict (value r.metric) with
  | none => simp
  | some a =>
      rw [← AdviceRule.metric_of_verdict hverdict, Option.filter_some]

/-- **Rules about different metrics give at most one piece of advice on each.** -/
theorem filter_verdicts {value : String → Value} {rules : List AdviceRule}
    (hmetrics : (rules.map AdviceRule.metric).Nodup) {r : AdviceRule} (hr : r ∈ rules) :
    (verdicts value rules).filter (·.metric == r.metric)
      = (r.verdict (value r.metric)).toList := by
  rw [filter_metric_verdicts, filter_key_eq hmetrics hr]
  unfold verdicts
  cases hverdict : r.verdict (value r.metric) with
  | none => simp [hverdict]
  | some a => simp [hverdict]

end CodeAudit.Report
