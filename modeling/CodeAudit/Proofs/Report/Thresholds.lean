/-
  CodeAudit.Proofs.Report.Thresholds
  ──────────────────────────────────
  **THE TABLES OF BOUNDS AGREE.**

  Advice, topics, measures, areas, strengths and plan each have bounds of
  their own, and they are written down separately.  On figures that are not
  negative no section says what another one denies: what one calls complex,
  all call complex, and a hole is told of everywhere or nowhere.

    • `rates_complexity`, `rates_style`, `rates_depth` — how advice rates what
      is counted,
    • `topic_beyond`, `measure_beyond`, `area_beyond`, `strength_below` — where
      the other sections draw the line,
    • `hole_agreeing` — the sections on one kind of hole,
    • `threshold_tables_agree` — the sections on everything.
-/
import CodeAudit.Proofs.Report.Figures

namespace CodeAudit.Report

open CodeAudit.Data CodeAudit.Audit

/-! ## §1. What it means to agree. -/

namespace Sections

/-- A hole is told of in all sections or in none, and its absence is called a
strength in the second case only. -/
structure HoleAgreeing (s : Sections) (metric issue action area strength : String) : Prop where
  topic : Has "issue" s.security issue ↔ s.Advises metric
  measure : Has "action" s.measures action ↔ s.Advises metric
  area : Names s.areas area ↔ s.Advises metric
  strength : Names s.strengths strength ↔ ¬ s.Advises metric

/-- The sections of a report agree with the advice in it. -/
structure Agreeing (s : Sections) : Prop where
  complexity_topic :
    Has "issue" s.quality Topic.complexity.issue ↔ s.Rates Counter.cyclomatic.key .high
  complexity_measure :
    Has "action" s.measures Measure.simplify.action ↔ s.Rates Counter.cyclomatic.key .high
  complexity_area :
    Names s.areas "Complexité cyclomatique élevée" ↔ s.Rates Counter.cyclomatic.key .high
  complexity_strength :
    Names s.strengths "Complexité cyclomatique globale raisonnable" →
      s.Rates Counter.cyclomatic.key .low
  longFunctions : Has "issue" s.quality Topic.longFunctions.issue ↔ s.Advises averageLinesKey
  style_topic : Has "issue" s.quality Topic.style.issue ↔ s.Advises Counter.lint.key
  style_measure : Has "action" s.measures Measure.conform.action ↔ s.Advises Counter.lint.key
  style_area :
    Names s.areas "Nombre important de violations de style" ↔ s.Rates Counter.lint.key .high
  style_strength :
    Names s.strengths "Bon respect des standards de codage (peu de violations Pylint)" →
      ¬ s.Advises Counter.lint.key
  inheritance_of_high :
    s.Rates depthKey .high → Has "issue" s.quality Topic.inheritance.issue
  inheritance_only :
    Has "issue" s.quality Topic.inheritance.issue → s.Rates depthKey .medium ∨ s.Rates depthKey .high
  sqlInjections : s.HoleAgreeing Counter.sqlInjections.key Topic.sqlInjection.issue
    Measure.parameterise.action " injections SQL potentielles" "Aucune injection SQL détectée"
  crossSiteScripting : s.HoleAgreeing Counter.crossSiteScripting.key "Cross-Site Scripting (XSS)"
    Measure.escape.action " vulnérabilités XSS potentielles" "Aucune vulnérabilité XSS détectée"
  immediate : Has "phase" s.plan Phase.immediate.phase ↔
    s.Advises Counter.sqlInjections.key ∨ s.Advises Counter.crossSiteScripting.key

end Sections

/-! ## §2. How advice rates figures. -/

section

variable (f : Figures) (scripting : Amount) {r : AdviceRule} (hr : r ∈ AdviceRule.all)

section

variable {high medium : Int} {a b : String → String}
  (hlevels : r.levels = [⟨high, .high, a⟩, ⟨medium, .medium, b⟩])

include hr hlevels

/-- A figure is rated high beyond the higher bound. -/
theorem rates_high : (f.sections scripting).Rates r.metric .high ↔
    (f.value r.metric).exceeds high = true := by
  rw [rates_iff f scripting hr, AdviceRule.rating_two hlevels]
  cases (f.value r.metric).exceeds high with
  | true => simp
  | false =>
      cases (f.value r.metric).exceeds medium with
      | true => simp
      | false => cases r.otherwise <;> simp

/-- A figure is rated medium between the bounds. -/
theorem rates_medium (h : (f.value r.metric).exceeds high = false) :
    (f.sections scripting).Rates r.metric .medium ↔ (f.value r.metric).exceeds medium = true := by
  rw [rates_iff f scripting hr, AdviceRule.rating_two hlevels, h]
  cases (f.value r.metric).exceeds medium with
  | true => simp
  | false => cases r.otherwise <;> simp

/-- A figure is rated low below both bounds, by a rule that always has something to say. -/
theorem rates_low {text : String} (hspeaks : r.otherwise = some text) (hle : medium ≤ high)
    (h : (f.value r.metric).exceeds medium = false) :
    (f.sections scripting).Rates r.metric .low := by
  have hhigh : (f.value r.metric).exceeds high = false := by
    by_contra hpassed
    rw [Value.exceeds_of_le hle (by simpa using hpassed)] at h
    cases h
  rw [rates_iff f scripting hr, AdviceRule.rating_two hlevels, h, hhigh, hspeaks]
  rfl

/-- A rule that has nothing to say below its bounds speaks beyond the lower one. -/
theorem advises_two (hsilent : r.otherwise = none) (hle : medium ≤ high) :
    (f.sections scripting).Advises r.metric ↔ (f.value r.metric).exceeds medium = true := by
  rw [advises_iff f scripting hr, AdviceRule.rating_two hlevels, hsilent]
  cases hhigh : (f.value r.metric).exceeds high with
  | true => simp [Value.exceeds_of_le hle hhigh]
  | false => cases (f.value r.metric).exceeds medium <;> simp

end

include hr in
/-- A rule with one level that is silent otherwise speaks beyond its bound. -/
theorem advises_one {bound : Int} {severity : Severity} {a : String → String}
    (hlevels : r.levels = [⟨bound, severity, a⟩]) (hsilent : r.otherwise = none) :
    (f.sections scripting).Advises r.metric ↔ (f.value r.metric).exceeds bound = true := by
  rw [advises_iff f scripting hr, AdviceRule.rating_one hlevels hsilent]
  cases (f.value r.metric).exceeds bound <;> simp

end

/-! ## §3. The sections agree. -/

section

variable (f : Figures) (scripting : Amount)

/-- Complexity is rated high beyond fifty. -/
theorem rates_complexity :
    (f.sections scripting).Rates Counter.cyclomatic.key .high ↔ 50 < f.count .cyclomatic := by
  have hrates := rates_high f scripting (r := .complexity) (by simp [AdviceRule.all]) rfl
  simpa [AdviceRule.complexity] using hrates

/-- Violations of style are rated high beyond fifty. -/
theorem rates_style :
    (f.sections scripting).Rates Counter.lint.key .high ↔ 50 < f.count .lint := by
  have hrates := rates_high f scripting (r := .style) (by simp [AdviceRule.all]) rfl
  simpa [AdviceRule.style] using hrates

/-- There is advice on violations of style beyond twenty. -/
theorem advises_style :
    (f.sections scripting).Advises Counter.lint.key ↔ 20 < f.count .lint := by
  have hadvises := advises_two f scripting (r := .style) (by simp [AdviceRule.all]) rfl rfl
    (by decide)
  simpa [AdviceRule.style] using hadvises

/-- There is advice on the length of functions beyond an average of twenty. -/
theorem advises_length :
    (f.sections scripting).Advises averageLinesKey ↔ f.average.exceeds 20 = true := by
  have hadvises := advises_two f scripting (r := .functionLength) (by simp [AdviceRule.all]) rfl rfl
    (by decide)
  simpa [AdviceRule.functionLength] using hadvises

/-- A depth is rated high beyond four. -/
theorem rates_depth : (f.sections scripting).Rates depthKey .high ↔ 4 < f.depth := by
  have hrates := rates_high f scripting (r := .inheritance) (by simp [AdviceRule.all]) rfl
  simpa [AdviceRule.inheritance] using hrates

/-- A depth is rated medium from three to four. -/
theorem rates_depth_medium (hlow : 2 < f.depth) (hhigh : f.depth ≤ 4) :
    (f.sections scripting).Rates depthKey .medium := by
  have hrates := rates_medium f scripting (r := .inheritance) (by simp [AdviceRule.all]) rfl
    (by simp [AdviceRule.inheritance]; omega)
  rw [AdviceRule.inheritance, Figures.value_depth, Value.exceeds_int, decide_eq_true_eq] at hrates
  exact hrates.mpr hlow

/-- Complexity of at most thirty is rated low. -/
theorem rates_complexity_low (h : f.count .cyclomatic ≤ 30) :
    (f.sections scripting).Rates Counter.cyclomatic.key .low := by
  have hbelow : (f.value Counter.cyclomatic.key).exceeds 30 = false := by
    simp
    omega
  exact rates_low f scripting (r := .complexity) (by simp [AdviceRule.all]) rfl rfl (by decide)
    hbelow

/-- A topic of quality is raised beyond its bound. -/
theorem has_quality {t : Topic} (ht : t ∈ Topic.quality) :
    Has "issue" (f.sections scripting).quality t.issue ↔ t.gate.passed f = true :=
  has_topic f (by decide) ht

section

variable {c : Counter} {bound : Int}

theorem topic_beyond {t : Topic} (ht : t ∈ Topic.quality) (hgate : t.gate = ⟨c.key, bound⟩) :
    Has "issue" (f.sections scripting).quality t.issue ↔ bound < f.count c := by
  rw [has_quality f scripting ht, hgate, Gate.passed_count, decide_eq_true_eq]

theorem measure_beyond {m : Measure} (hm : m ∈ Measure.all) (hgate : m.gate = ⟨c.key, bound⟩) :
    Has "action" (f.sections scripting).measures m.action ↔ bound < f.count c := by
  rw [has_measure f scripting hm, hgate, Gate.passed_count, decide_eq_true_eq]

theorem area_beyond {text : String} (ha : ⟨⟨c.key, bound⟩, fun _ => text⟩ ∈ Area.all) :
    Names (f.sections scripting).areas text ↔ bound < f.count c := by
  have harea := names_area f scripting ha
  rw [Gate.passed_count, decide_eq_true_eq] at harea
  exact harea

theorem strength_below {text : String} (hs : ⟨c.key, .under bound, text⟩ ∈ Strength.all) :
    Names (f.sections scripting).strengths text ↔ f.count c < bound := by
  rw [names_strength f scripting hs, Figures.value_count, Test.holds_under, decide_eq_true_eq]

end

/-- There is advice on a hole if there is one. -/
theorem advises_hole {c : Counter} {r : AdviceRule} (hr : r ∈ AdviceRule.all)
    {severity : Severity} {text : String → String}
    (hrule : r = ⟨c.key, [⟨0, severity, text⟩], none⟩) :
    (f.sections scripting).Advises c.key ↔ 0 < f.count c := by
  have hone := advises_one f scripting hr (by rw [hrule]) (by rw [hrule])
  rw [hrule] at hone
  simpa using hone

/-- **The sections on one kind of hole agree,** when all of them look at whether its
counter is zero. -/
theorem hole_agreeing {c : Counter} (hnonneg : 0 ≤ f.count c) {r : AdviceRule} {t : Topic}
    {m : Measure} {a : Area} {s : Strength} (hr : r ∈ AdviceRule.all)
    (ht : t ∈ Topic.security scripting) (hm : m ∈ Measure.all) (ha : a ∈ Area.all)
    (hs : s ∈ Strength.all) {severity : Severity} {text : String → String}
    (hrule : r = ⟨c.key, [⟨0, severity, text⟩], none⟩) (htopic : t.gate = .nonzero c)
    (hmeasure : m.gate = .nonzero c) (harea : a.gate = .nonzero c)
    (hstrength : s.key = c.key ∧ s.test = .isZero) :
    (f.sections scripting).HoleAgreeing c.key t.issue m.action (a.text "") s.text := by
  have hnames : ((Topic.security scripting).map Topic.issue).Nodup := by
    cases scripting <;> decide
  have hadvises := advises_hole f scripting hr hrule
  constructor
  · rw [hadvises]
    refine (has_topic f hnames ht).trans ?_
    rw [htopic, Gate.passed_nonzero, decide_eq_true_eq]
  · rw [hadvises]
    exact measure_beyond f scripting hm hmeasure
  · rw [hadvises, names_area f scripting ha, harea, Gate.passed_nonzero, decide_eq_true_eq]
  · -- Where nothing is negative, what is not above zero is zero.
    rw [hadvises, names_strength f scripting hs, hstrength.1, hstrength.2, Figures.value_count,
      Test.holds_isZero, decide_eq_true_eq]
    omega

end

/-- **The tables of bounds agree.**  From metrics with figures that are not negative
all sections can be derived, and none says what another one denies. -/
theorem threshold_tables_agree {f : Figures} (hnonneg : f.Nonnegative) {m : Metrics}
    (hm : f.In m) {report : Value} (hreport : report.field "summary_metrics" = .ok (.dict m))
    (scripting : Amount) : ∃ s : Sections, s.Derived scripting report m ∧ s.Agreeing := by
  refine ⟨f.sections scripting, derived_sections hm hreport scripting, ?_⟩
  have hsql : AdviceRule.sqlInjections ∈ AdviceRule.all := by simp [AdviceRule.all]
  have hscripting : AdviceRule.crossSiteScripting ∈ AdviceRule.all := by simp [AdviceRule.all]
  -- Each section is traced back to the figures, where its bound is met by another's.
  constructor
  case complexity_topic =>
    rw [rates_complexity]
    exact topic_beyond f scripting (by simp [Topic.quality]) rfl
  case complexity_measure =>
    rw [rates_complexity]
    exact measure_beyond f scripting (by simp [Measure.all]) rfl
  case complexity_area =>
    rw [rates_complexity]
    exact area_beyond f scripting (by simp [Area.all])
  case complexity_strength =>
    intro h
    have hbelow : f.count .cyclomatic < 30 :=
      (strength_below f scripting (by simp [Strength.all])).mp h
    exact rates_complexity_low f scripting (by omega)
  case longFunctions =>
    rw [advises_length, has_quality f scripting (by simp [Topic.quality]), Topic.longFunctions,
      Gate.passed_average]
  case style_topic =>
    rw [advises_style]
    exact topic_beyond f scripting (by simp [Topic.quality]) rfl
  case style_measure =>
    rw [advises_style]
    exact measure_beyond f scripting (by simp [Measure.all]) rfl
  case style_area =>
    rw [rates_style]
    exact area_beyond f scripting (by simp [Area.all])
  case style_strength =>
    intro h
    have hbelow : f.count .lint < 20 :=
      (strength_below f scripting (by simp [Strength.all])).mp h
    rw [advises_style]
    omega
  case inheritance_of_high =>
    rw [rates_depth, has_quality f scripting (by simp [Topic.quality]), Topic.inheritance,
      Gate.passed_depth, decide_eq_true_eq]
    omega
  case inheritance_only =>
    rw [rates_depth, has_quality f scripting (by simp [Topic.quality]), Topic.inheritance,
      Gate.passed_depth, decide_eq_true_eq]
    intro h
    by_cases hhigh : 4 < f.depth
    · exact .inr hhigh
    · exact .inl (rates_depth_medium f scripting (by omega) (by omega))
  case sqlInjections =>
    exact hole_agreeing f scripting (hnonneg.1 .sqlInjections) hsql (t := .sqlInjection)
      (by simp [Topic.security]) (m := .parameterise) (by simp [Measure.all])
      (a := ⟨.nonzero .sqlInjections, (· ++ " injections SQL potentielles")⟩) (by simp [Area.all])
      (s := ⟨Counter.sqlInjections.key, .isZero, "Aucune injection SQL détectée"⟩)
      (by simp [Strength.all]) rfl rfl rfl rfl ⟨rfl, rfl⟩
  case crossSiteScripting =>
    exact hole_agreeing f scripting (hnonneg.1 .crossSiteScripting) hscripting
      (t := .crossSiteScripting scripting) (by simp [Topic.security]) (m := .escape)
      (by simp [Measure.all])
      (a := ⟨.nonzero .crossSiteScripting, (· ++ " vulnérabilités XSS potentielles")⟩)
      (by simp [Area.all])
      (s := ⟨Counter.crossSiteScripting.key, .isZero, "Aucune vulnérabilité XSS détectée"⟩)
      (by simp [Strength.all]) rfl rfl rfl rfl ⟨rfl, rfl⟩
  case immediate =>
    rw [has_immediate, advises_hole f scripting hsql rfl, advises_hole f scripting hscripting rfl,
      Figures.urgent, Bool.or_eq_true, Gate.passed_nonzero, Gate.passed_nonzero,
      decide_eq_true_eq, decide_eq_true_eq]

theorem threshold_tables_agree_neglected : Figures.neglected.Nonnegative ∧
    ∃ s : Sections, s.Derived .hidden (.dict [("summary_metrics", .dict Figures.neglected.metrics)])
      Figures.neglected.metrics ∧ s.Agreeing := by
  have hnonneg : Figures.neglected.Nonnegative := by
    constructor
    · intro c
      cases c <;> decide
    · decide
  exact ⟨hnonneg, threshold_tables_agree hnonneg Figures.neglected.in_metrics rfl .hidden⟩

end CodeAudit.Report
