/-
  CodeAudit.Proofs.Report.Figures
  ───────────────────────────────
  **WHAT A REPORT DERIVES FROM FIGURES.**

  Advice, grade, strengths, areas to improve, topics, measures and plan are
  derived from metrics, each by a table of bounds of its own.  `Figures` are
  the numbers behind metrics: whole ones, and any number for the average
  length of functions.  Then nothing fails, and each section is a plain
  function of the figures (`Figures.sections`).

    • `derived_sections` — the sections that come of metrics with figures,
    • `has_topic`, `has_measure`, `has_immediate` — which entries they have,
    • `names_area`, `names_strength` — which points their texts name,
    • `rates_iff`, `advises_iff` — how a metric is rated.
-/
import CodeAudit.Proofs.Conclusion
import CodeAudit.Proofs.Report.Lines
import CodeAudit.Proofs.Report.Points
import CodeAudit.Report.Enriched

namespace CodeAudit.Report

open CodeAudit.Data CodeAudit.Audit

/-! ## §1. Figures. -/

/-- The numbers behind metrics. -/
structure Figures where
  count : Counter → Int
  depth : Int
  /-- The average length of functions, whole or not. -/
  average : Value
  number : isNumber average = true

/-- The keys under which metrics hold figures. -/
def figureKeys : List String := Counter.all.map Counter.key ++ [depthKey, averageLinesKey]

namespace Figures

/-- Metrics that hold figures, whatever else they hold. -/
structure In (f : Figures) (m : Metrics) : Prop where
  count : ∀ c : Counter, Dict.get? m c.key = some (.int (f.count c))
  depth : Dict.get? m depthKey = some (.int f.depth)
  average : Dict.get? m averageLinesKey = some f.average

/-- No figure is negative; the average may be anything. -/
def Nonnegative (f : Figures) : Prop := (∀ c, 0 ≤ f.count c) ∧ 0 ≤ f.depth

/-- Figures are compared one by one. -/
instance : LE Figures where
  le f g := (∀ c, f.count c ≤ g.count c) ∧ f.depth ≤ g.depth ∧ f.average.AtMost g.average

/-- Metrics with figures and nothing else. -/
def metrics (f : Figures) : Metrics :=
  .ofTotals f.count ++ [(depthKey, .int f.depth), (averageLinesKey, f.average)]

theorem in_metrics (f : Figures) : f.In f.metrics where
  count c := by
    rw [metrics, Dict.get?_append, Metrics.get?_ofTotals]
    rfl
  depth := by
    rw [metrics, Dict.get?_append, get?_ofTotals_none _ depthKey_no_counter]
    rfl
  average := by
    rw [metrics, Dict.get?_append, get?_ofTotals_none _ averageLinesKey_no_counter]
    rfl

/-- A project with complex code, long functions, deep classes and many holes. -/
def neglected : Figures where
  count
    | .cyclomatic => 51
    | .lint => 21
    | .sqlInjections => 1
    | .vulnerableDependencies => 5
    | _ => 0
  depth := 4
  average := .real (.finite false 41 (-1))
  number := rfl

/-- The figure under a key; null if there is none. -/
def value (f : Figures) (key : String) : Value := (Dict.get? f.metrics key).getD .null

@[simp] theorem value_count (f : Figures) (c : Counter) : f.value c.key = .int (f.count c) := by
  rw [value, f.in_metrics.count]
  rfl

@[simp] theorem value_depth (f : Figures) : f.value depthKey = .int f.depth := by
  rw [value, f.in_metrics.depth]
  rfl

@[simp] theorem value_average (f : Figures) : f.value averageLinesKey = f.average := by
  rw [value, f.in_metrics.average]
  rfl

/-- A figure is a counter, the depth or the average. -/
theorem forall_figureKeys {p : String → Prop} (hcount : ∀ c : Counter, p c.key)
    (hdepth : p depthKey) (haverage : p averageLinesKey) : ∀ key ∈ figureKeys, p key := by
  intro key hkey
  rcases List.mem_append.mp hkey with hkey | hkey
  · obtain ⟨c, -, rfl⟩ := List.mem_map.mp hkey
    exact hcount c
  · rcases List.mem_cons.mp hkey with rfl | hkey
    · exact hdepth
    · rw [List.mem_singleton.mp hkey]
      exact haverage

/-- Metrics hold every figure under its key. -/
theorem In.get {f : Figures} {m : Metrics} (hm : f.In m) :
    ∀ key ∈ figureKeys, Dict.get? m key = some (f.value key) := by
  apply forall_figureKeys
  · intro c
    rw [value_count]
    exact hm.count c
  · rw [value_depth]
    exact hm.depth
  · rw [value_average]
    exact hm.average

theorem isNumber_value (f : Figures) : ∀ key ∈ figureKeys, isNumber (f.value key) = true := by
  apply forall_figureKeys
  · intro c
    rw [value_count]
    rfl
  · rw [value_depth]
    rfl
  · rw [value_average]
    exact f.number

/-- Greater figures are greater under every key. -/
theorem atMost_value {f g : Figures} (h : f ≤ g) :
    ∀ key ∈ figureKeys, (f.value key).AtMost (g.value key) := by
  apply forall_figureKeys
  · intro c
    rw [value_count, value_count, Value.atMost_int]
    exact h.1 c
  · rw [value_depth, value_depth, Value.atMost_int]
    exact h.2.1
  · rw [value_average, value_average]
    exact h.2.2

end Figures

/-! ## §2. Sections as functions of figures. -/

/-- Whether figures pass a gate. -/
def Gate.passed (g : Gate) (f : Figures) : Bool := (f.value g.key).exceeds g.bound

@[simp] theorem Gate.passed_count (f : Figures) (c : Counter) (bound : Int) :
    (Gate.mk c.key bound).passed f = decide (bound < f.count c) := by
  simp [passed]

@[simp] theorem Gate.passed_depth (f : Figures) (bound : Int) :
    (Gate.mk depthKey bound).passed f = decide (bound < f.depth) := by
  simp [passed]

@[simp] theorem Gate.passed_average (f : Figures) (bound : Int) :
    (Gate.mk averageLinesKey bound).passed f = f.average.exceeds bound := by
  simp [passed]

@[simp] theorem Gate.passed_nonzero (f : Figures) (c : Counter) :
    (Gate.nonzero c).passed f = decide (0 < f.count c) := passed_count f c 0

/-- Whether a number makes for a strength. -/
def Test.holds (t : Test) (v : Value) : Bool := (t.passes v).toOption.getD false

@[simp] theorem Test.holds_isZero (n : Int) : Test.isZero.holds (.int n) = decide (n = 0) :=
  Value.equals_int n 0

@[simp] theorem Test.holds_under (n bound : Int) :
    (Test.under bound).holds (.int n) = decide (n < bound) := by
  rw [holds, passes, Value.under_int]
  rfl

/-- The sections that are derived from metrics. -/
structure Sections where
  advice : List Advice
  grade : Grade
  strengths : String
  areas : String
  security : List Value
  quality : List Value
  measures : List Value
  plan : List Value

/-- The sections are what comes of a report with metrics; nothing has failed. -/
structure Sections.Derived (s : Sections) (scripting : Amount) (report : Value) (m : Metrics) :
    Prop where
  advice : withAdvice m = (Dict.put m adviceKey (.list (s.advice.map Advice.toValue)), none)
  grade : Report.grade (.dict m) = .ok s.grade
  strengths : strengthsText (.dict m) = .ok s.strengths
  areas : areasText (.dict m) = .ok s.areas
  security : securityTopics scripting (.dict m) = .ok s.security
  quality : qualityTopics (.dict m) = .ok s.quality
  measures : Report.measures report = .ok s.measures
  plan : actionPlan report = .ok s.plan

namespace Figures

/-- The number of critical holes. -/
def critical (f : Figures) : Int :=
  f.count .sqlInjections + f.count .crossSiteScripting + f.count .vulnerableDependencies

/-- The grade: by critical holes first, then by secrets and complexity. -/
def grade (f : Figures) : Grade :=
  if 5 < f.critical then .red
  else if 0 < f.critical then .orange
  else if 0 < f.count .sensitiveVariables ∨ 50 < f.count .cyclomatic then .yellow
  else .green

/-- The topics of a list that figures raise. -/
def topics (f : Figures) (all : List Topic) : List Value :=
  (all.filter (·.gate.passed f)).map fun t => t.toValue (f.value t.gate.key)

/-- Whether something has to be done at once. -/
def urgent (f : Figures) : Bool :=
  (Gate.nonzero .sqlInjections).passed f || (Gate.nonzero .crossSiteScripting).passed f

/-- The sections that figures make for. -/
def sections (f : Figures) (scripting : Amount) : Sections where
  advice := verdicts f.value AdviceRule.all
  grade := f.grade
  strengths := points "Aucun point fort particulier identifié"
    ((Strength.all.filter fun s => s.test.holds (f.value s.key)).map (·.text))
  areas := points "Le projet est globalement bien structuré"
    ((Area.all.filter (·.gate.passed f)).map fun a => a.text (f.value a.gate.key).display)
  security := f.topics (Topic.security scripting)
  quality := f.topics Topic.quality
  measures := (Measure.all.filter (·.gate.passed f)).map Measure.toValue
  plan := ((if f.urgent then [Phase.immediate] else []) ++ [Phase.soon, Phase.lasting]).map
    Phase.toValue

end Figures

/-! ## §3. Nothing fails. -/

section

variable {f : Figures} {m : Metrics}

/-- Every gate on a figure can be tried. -/
theorem opens_figures (hm : f.In m) {g : Gate} (hg : g.key ∈ figureKeys) :
    g.opens (.dict m) = .ok (g.passed f) := by
  unfold Gate.opens Gate.value
  rw [field_of_get? (hm.get g.key hg), ok_bind, Value.above_eq (f.isNumber_value g.key hg)]
  rfl

theorem value_figures (hm : f.In m) {g : Gate} (hg : g.key ∈ figureKeys) :
    g.value (.dict m) = .ok (f.value g.key) := field_of_get? (hm.get g.key hg)

theorem opened_figures {α : Type} (hm : f.In m) {gate : α → Gate} {all : List α}
    (h : ∀ a ∈ all, (gate a).key ∈ figureKeys) :
    opened gate (.dict m) all = .ok (all.filter fun a => (gate a).passed f) :=
  filterM_eq fun a ha => opens_figures hm (h a ha)

theorem raised_figures (hm : f.In m) {all : List Topic} (h : ∀ t ∈ all, t.gate.key ∈ figureKeys) :
    raised all (.dict m) = .ok (f.topics all) := by
  unfold raised
  rw [opened_figures hm h, ok_bind]
  apply mapM_eq_map
  intro t ht
  rw [value_figures hm (h t (List.mem_of_mem_filter ht))]
  rfl

/-- Advice is given on figures without failure. -/
theorem withAdvice_figures (hm : f.In m) :
    withAdvice m =
      (Dict.put m adviceKey (.list ((verdicts f.value AdviceRule.all).map Advice.toValue)), none) := by
  have hkeys : ∀ r ∈ AdviceRule.all, r.metric ∈ figureKeys := by decide
  have hgather : gather (Dict.put m adviceKey (.list [])) AdviceRule.all
      = ⟨verdicts f.value AdviceRule.all, none⟩ := by
    apply gather_eq
    intro r hr
    rw [Dict.get?_put, if_neg (metric_ne_adviceKey r hr)]
    exact ⟨hm.get r.metric (hkeys r hr), f.isNumber_value r.metric (hkeys r hr)⟩
  unfold withAdvice
  simp only [hgather]

theorem grade_figures (hm : f.In m) : grade (.dict m) = .ok f.grade := by
  have hsecrets : (Gate.nonzero .sensitiveVariables).opens (.dict m)
      = .ok (decide (0 < f.count .sensitiveVariables)) := by
    rw [opens_figures hm (by decide), Gate.passed_nonzero]
  have hcomplex : (Gate.mk Counter.cyclomatic.key 50).opens (.dict m)
      = .ok (decide (50 < f.count .cyclomatic)) := by
    rw [opens_figures hm (by decide), Gate.passed_count]
  unfold grade Figures.grade Figures.critical
  rw [field_of_get? (hm.count .sqlInjections), field_of_get? (hm.count .crossSiteScripting),
    field_of_get? (hm.count .vulnerableDependencies)]
  simp only [ok_bind, Value.add_int, Value.above_int, hsecrets, hcomplex, decide_eq_true_eq]
  split
  · rfl
  · split
    · rfl
    · by_cases hs : 0 < f.count .sensitiveVariables
      · simp [hs]
      · by_cases hc : 50 < f.count .cyclomatic <;> simp [hs, hc]

theorem strengthsText_figures (hm : f.In m) (scripting : Amount) :
    strengthsText (.dict m) = .ok (f.sections scripting).strengths := by
  have hcounters : ∀ s ∈ Strength.all, s.key ∈ Counter.all.map Counter.key := by decide
  have hfound : strengths (.dict m)
      = .ok (Strength.all.filter fun s => s.test.holds (f.value s.key)) := by
    apply filterM_eq
    intro s hs
    obtain ⟨c, -, hc⟩ := List.mem_map.mp (hcounters s hs)
    rw [← hc, field_of_get? (hm.count c), ok_bind, Figures.value_count]
    unfold Test.holds
    cases s.test with
    | isZero => rfl
    | under bound => exact congrArg Except.ok rfl
  unfold strengthsText
  rw [hfound, ok_bind]
  rfl

theorem areasText_figures (hm : f.In m) (scripting : Amount) :
    areasText (.dict m) = .ok (f.sections scripting).areas := by
  have hkeys : ∀ a ∈ Area.all, a.gate.key ∈ figureKeys := by decide
  have hlines : (Area.all.filter (·.gate.passed f)).mapM
      (fun a => (a.gate.value (.dict m)).map fun v => a.text v.display)
        = .ok ((Area.all.filter (·.gate.passed f)).map
            fun a => a.text (f.value a.gate.key).display) := by
    apply mapM_eq_map
    intro a ha
    rw [value_figures hm (hkeys a (List.mem_of_mem_filter ha))]
    rfl
  unfold areasText
  rw [opened_figures hm hkeys, ok_bind, hlines, ok_bind]
  rfl

/-- **All sections can be derived from metrics that hold figures.** -/
theorem derived_sections (hm : f.In m) {report : Value}
    (hreport : report.field "summary_metrics" = .ok (.dict m)) (scripting : Amount) :
    (f.sections scripting).Derived scripting report m where
  advice := withAdvice_figures hm
  grade := grade_figures hm
  strengths := strengthsText_figures hm scripting
  areas := areasText_figures hm scripting
  security := raised_figures hm (by cases scripting <;> decide)
  quality := raised_figures hm (by decide)
  measures := by
    unfold measures
    rw [hreport, ok_bind, opened_figures hm (by decide), ok_bind]
    rfl
  plan := by
    have hurgent : isUrgent (.dict m) = .ok f.urgent := by
      unfold isUrgent Figures.urgent
      rw [opens_figures hm (by decide), opens_figures hm (by decide), ok_bind]
      cases (Gate.nonzero .sqlInjections).passed f <;> rfl
    unfold actionPlan
    rw [hreport, ok_bind, hurgent, ok_bind]
    rfl

end

/-! ## §4. Entries. -/

/-- An entry of a section has a text under a key. -/
def Has (key : String) (items : List Value) (text : String) : Prop :=
  ∃ item ∈ items, item.field key = .ok (.text text)

/-- Entries with different names are told apart by them. -/
theorem has_selected {α : Type} {all : List α} {selected : α → Bool} {value : α → Value}
    {name : α → String} {key : String}
    (hname : ∀ a ∈ all, (value a).field key = .ok (.text (name a)))
    (hnames : (all.map name).Nodup) {a : α} (ha : a ∈ all) :
    Has key ((all.filter selected).map value) (name a) ↔ selected a = true := by
  constructor
  · rintro ⟨item, hitem, hfield⟩
    obtain ⟨b, hb, rfl⟩ := List.mem_map.mp hitem
    obtain ⟨hball, hselected⟩ := List.mem_filter.mp hb
    rw [hname b hball] at hfield
    have hsame : name b = name a := by
      injection hfield with hfield
      injection hfield
    rw [← List.inj_on_of_nodup_map hnames hball ha hsame]
    exact hselected
  · intro h
    exact ⟨value a, List.mem_map.mpr ⟨a, List.mem_filter.mpr ⟨ha, h⟩, rfl⟩, hname a ha⟩

section

variable (f : Figures)

/-- A topic is raised if and only if its gate is passed. -/
theorem has_topic {all : List Topic} (hnames : (all.map Topic.issue).Nodup) {t : Topic}
    (ht : t ∈ all) : Has "issue" (f.topics all) t.issue ↔ t.gate.passed f = true :=
  has_selected (fun _ _ => rfl) hnames ht

/-- A measure is asked for if and only if its gate is passed. -/
theorem has_measure (scripting : Amount) {m : Measure} (hm : m ∈ Measure.all) :
    Has "action" (f.sections scripting).measures m.action ↔ m.gate.passed f = true :=
  has_selected (fun _ _ => rfl) (by decide) hm

/-- There is something to do at once if and only if there is a hole of either kind. -/
theorem has_immediate (scripting : Amount) :
    Has "phase" (f.sections scripting).plan Phase.immediate.phase ↔ f.urgent = true := by
  -- The plan selects among three phases; two of them are always selected.
  have hplan : (f.sections scripting).plan = ([Phase.immediate, .soon, .lasting].filter
      fun p => p.phase != Phase.immediate.phase || f.urgent).map Phase.toValue := by
    unfold Figures.sections
    cases f.urgent <;> rfl
  rw [hplan, has_selected (fun _ _ => rfl) (by decide) List.mem_cons_self]
  simp

/-! ## §5. Points. -/

/-- The lines of areas are single lines and end with their phrases. -/
theorem area_lines : ∀ a ∈ Area.all, OneLine (a.text (f.value a.gate.key).display) ∧
    (a.text "").toList <:+ (a.text (f.value a.gate.key).display).toList := by
  -- An area with a number stands for a counter.
  have hcounted : ∀ (c : Counter) (phrase : String), OneLine phrase →
      OneLine ((f.value c.key).display ++ phrase) ∧
        ("" ++ phrase).toList <:+ ((f.value c.key).display ++ phrase).toList := by
    intro c phrase hphrase
    rw [Figures.value_count]
    constructor
    · show '\n' ∉ (toString (f.count c) ++ phrase).toList
      rw [String.toList_append, List.mem_append, not_or]
      exact ⟨oneLine_toString _, hphrase⟩
    · rw [String.toList_append, String.toList_append]
      exact List.suffix_append _ _
  intro a ha
  simp only [Area.all, List.mem_cons, List.not_mem_nil, or_false] at ha
  rcases ha with rfl | rfl | rfl | rfl | rfl
  · exact hcounted .sqlInjections _ (by decide)
  · exact hcounted .crossSiteScripting _ (by decide)
  · exact hcounted .sensitiveVariables _ (by decide)
  · have hfixed : OneLine "Complexité cyclomatique élevée" := by decide
    exact ⟨hfixed, List.suffix_refl _⟩
  · have hfixed : OneLine "Nombre important de violations de style" := by decide
    exact ⟨hfixed, List.suffix_refl _⟩

/-- **An area is named if and only if its gate is passed.** -/
theorem names_area (scripting : Amount) {a : Area} (ha : a ∈ Area.all) :
    Names (f.sections scripting).areas (a.text "") ↔ a.gate.passed f = true := by
  have hapart : ∀ a ∈ Area.all, ∀ b ∈ Area.all,
      overlap (a.text "") (b.text "") = true → a.gate = b.gate := by decide +kernel
  refine names_points (fun b hb => (area_lines f b hb).1) (by decide)
    (fun b hb => (area_lines f b hb).2) ?_ (by decide +kernel) ha
  intro b hb c hc hoverlap
  rw [hapart b hb c hc hoverlap]

/-- **A strength is named if and only if its test holds.** -/
theorem names_strength (scripting : Amount) {s : Strength} (hs : s ∈ Strength.all) :
    Names (f.sections scripting).strengths s.text ↔ s.test.holds (f.value s.key) = true := by
  have hlines : ∀ s ∈ Strength.all, OneLine s.text := by decide
  have hapart : ∀ s ∈ Strength.all, ∀ t ∈ Strength.all,
      overlap s.text t.text = true → s.key = t.key ∧ s.test = t.test := by decide +kernel
  refine names_points hlines (by decide) (fun _ _ => List.suffix_refl _) ?_
    (by decide +kernel) hs
  intro s hs t ht hoverlap
  obtain ⟨hkey, htest⟩ := hapart s hs t ht hoverlap
  rw [hkey, htest]

end

/-! ## §6. Ratings. -/

namespace Sections

/-- There is advice on a metric. -/
def Advises (s : Sections) (metric : String) : Prop := ∃ a ∈ s.advice, a.metric = metric

/-- There is advice on a metric, of a severity. -/
def Rates (s : Sections) (metric : String) (severity : Severity) : Prop :=
  ∃ a ∈ s.advice, a.metric = metric ∧ a.severity = severity

end Sections

section

variable (f : Figures) (scripting : Amount) {r : AdviceRule}

theorem nodup_metrics : (AdviceRule.all.map AdviceRule.metric).Nodup := by decide

/-- The advice on a metric is what its rule says. -/
theorem mem_advice_iff (hr : r ∈ AdviceRule.all) (a : Advice) :
    a ∈ (f.sections scripting).advice ∧ a.metric = r.metric
      ↔ r.verdict (f.value r.metric) = some a := by
  have hfilter : (f.sections scripting).advice.filter (·.metric == r.metric)
      = (r.verdict (f.value r.metric)).toList := filter_verdicts nodup_metrics hr
  rw [← Option.mem_toList, ← hfilter, List.mem_filter, beq_iff_eq]

theorem advises_iff (hr : r ∈ AdviceRule.all) :
    (f.sections scripting).Advises r.metric ↔ (r.rating (f.value r.metric)).isSome = true := by
  unfold Sections.Advises AdviceRule.rating
  simp only [mem_advice_iff f scripting hr, Option.isSome_map, Option.isSome_iff_exists]

theorem rates_iff (hr : r ∈ AdviceRule.all) (severity : Severity) :
    (f.sections scripting).Rates r.metric severity
      ↔ r.rating (f.value r.metric) = some severity := by
  unfold Sections.Rates AdviceRule.rating
  simp only [← and_assoc, mem_advice_iff f scripting hr, Option.map_eq_some_iff]

end

end CodeAudit.Report
