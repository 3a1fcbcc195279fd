/-
  CodeAudit.Proofs.Report.Worsening
  ─────────────────────────────────
  **WORSE FIGURES NEVER LOOK BETTER.**

  Let every figure grow or stay.  Every gate that was passed is passed still,
  so whatever a section has told it tells again, with other numbers in it at
  most; advice becomes no milder, the grade no better, and no strength is
  gained.

    • `passed_mono` — gates stay passed,
    • `grade_mono` — the grade gets no better,
    • `advice_mono` — advice stays, once on each metric, and gets no milder,
    • `topics_mono`, `measures_mono`, `areas_mono` — sections keep their entries,
    • `strengths_anti` — strengths are not gained,
    • `worse_never_looks_better` — all of this about the sections of two reports.
-/
import CodeAudit.Proofs.Report.Figures

namespace CodeAudit.Report

open CodeAudit.Data CodeAudit.Audit

/-! ## §1. Entries up to their numbers. -/

/-- An entry of a section without the number in it. -/
def withoutAmount : Value → Value
  | .dict entries => .dict (Dict.erase (Dict.erase entries "count") "value")
  | v => v

/-- A topic is the same entry for every number but for the number. -/
theorem withoutAmount_topic (t : Topic) (v w : Value) :
    withoutAmount (t.toValue v) = withoutAmount (t.toValue w) := by
  unfold Topic.toValue
  cases t.amount <;> rfl

/-! ## §2. Section by section. -/

/-- The rank of a grade, from the figures. -/
theorem rank_grade (f : Figures) : f.grade.rank =
    if 5 < f.critical then 3
    else if 0 < f.critical then 2
    else if 0 < f.count .sensitiveVariables ∨ 50 < f.count .cyclomatic then 1
    else 0 := by
  unfold Figures.grade
  split
  · rfl
  · split
    · rfl
    · split <;> rfl

section

variable {f g : Figures} (h : f ≤ g)

include h

/-- **Gates stay passed.** -/
theorem passed_mono {gate : Gate} (hkey : gate.key ∈ figureKeys) (hf : gate.passed f = true) :
    gate.passed g = true :=
  (Figures.atMost_value h gate.key hkey).exceeds hf

/-- What is selected by gates stays selected. -/
theorem selected_mono {α : Type} {gate : α → Gate} {all : List α}
    (hkeys : ∀ a ∈ all, (gate a).key ∈ figureKeys) {a : α}
    (ha : a ∈ all.filter fun b => (gate b).passed f) :
    a ∈ all.filter fun b => (gate b).passed g := by
  obtain ⟨hall, hpassed⟩ := List.mem_filter.mp ha
  exact List.mem_filter.mpr ⟨hall, passed_mono h (hkeys a hall) hpassed⟩

/-- The grade gets no better. -/
theorem grade_mono : f.grade.rank ≤ g.grade.rank := by
  have hcritical : f.critical ≤ g.critical :=
    Int.add_le_add (Int.add_le_add (h.1 .sqlInjections) (h.1 .crossSiteScripting))
      (h.1 .vulnerableDependencies)
  have hsecrets := h.1 .sensitiveVariables
  have hcomplex := h.1 .cyclomatic
  -- Every condition for a worse grade goes over from `f` to `g`.
  rw [rank_grade, rank_grade]
  split_ifs <;> omega

/-- Advice stays, once on each metric, and gets no milder. -/
theorem advice_mono (scripting : Amount) : ∀ a ∈ (f.sections scripting).advice,
    ∃ b, (g.sections scripting).advice.filter (·.metric == a.metric) = [b] ∧
      a.severity.rank ≤ b.severity.rank := by
  intro a ha
  obtain ⟨r, hr, hverdict⟩ := List.mem_filterMap.mp ha
  have hkeys : ∀ r ∈ AdviceRule.all, r.metric ∈ figureKeys := by decide
  obtain ⟨b, hb, hrank⟩ := AdviceRule.verdict_mono (AdviceRule.graded_all r hr)
    (Figures.atMost_value h r.metric (hkeys r hr)) hverdict
  refine ⟨b, ?_, hrank⟩
  rw [AdviceRule.metric_of_verdict hverdict]
  exact (filter_verdicts nodup_metrics hr).trans (by rw [hb]; rfl)

/-- A section keeps the topics that it has raised. -/
theorem topics_mono {all : List Topic} (hkeys : ∀ t ∈ all, t.gate.key ∈ figureKeys) :
    ∀ item ∈ f.topics all, ∃ other ∈ g.topics all, withoutAmount item = withoutAmount other := by
  intro item hitem
  obtain ⟨t, ht, rfl⟩ := List.mem_map.mp hitem
  exact ⟨_, List.mem_map.mpr ⟨t, selected_mono h hkeys ht, rfl⟩, withoutAmount_topic t _ _⟩

/-- Measures are asked for as before. -/
theorem measures_mono (scripting : Amount) :
    ∀ item ∈ (f.sections scripting).measures, item ∈ (g.sections scripting).measures := by
  have hkeys : ∀ m ∈ Measure.all, m.gate.key ∈ figureKeys := by decide
  intro item hitem
  obtain ⟨m, hm, rfl⟩ := List.mem_map.mp hitem
  exact List.mem_map.mpr ⟨m, selected_mono h hkeys hm, rfl⟩

/-- Areas are named as before. -/
theorem areas_mono (scripting : Amount) : ∀ a ∈ Area.all,
    Names (f.sections scripting).areas (a.text "") →
      Names (g.sections scripting).areas (a.text "") := by
  have hkeys : ∀ a ∈ Area.all, a.gate.key ∈ figureKeys := by decide
  intro a ha hnames
  rw [names_area f scripting ha] at hnames
  rw [names_area g scripting ha]
  exact passed_mono h (hkeys a ha) hnames

/-- No strength is gained, if nothing was negative. -/
theorem strengths_anti (hnonneg : f.Nonnegative) (scripting : Amount) : ∀ s ∈ Strength.all,
    Names (g.sections scripting).strengths s.text →
      Names (f.sections scripting).strengths s.text := by
  have hcounters : ∀ s ∈ Strength.all, s.key ∈ Counter.all.map Counter.key := by decide
  intro s hs
  rw [names_strength f scripting hs, names_strength g scripting hs]
  obtain ⟨c, -, hc⟩ := List.mem_map.mp (hcounters s hs)
  have hle := h.1 c
  have hzero := hnonneg.1 c
  rw [← hc, Figures.value_count, Figures.value_count]
  cases s.test with
  | isZero =>
      rw [Test.holds_isZero, Test.holds_isZero, decide_eq_true_eq, decide_eq_true_eq]
      omega
  | under bound =>
      rw [Test.holds_under, Test.holds_under, decide_eq_true_eq, decide_eq_true_eq]
      omega

end

/-! ## §3. Two reports. -/

/-- The second of two sections look no better than the first: the grade is no better,
advice is still given, once on each metric and no milder, and all entries and areas
are there, up to the numbers in them. -/
structure Sections.NoBetter (s t : Sections) : Prop where
  grade : s.grade.rank ≤ t.grade.rank
  advice : ∀ a ∈ s.advice, ∃ b, t.advice.filter (·.metric == a.metric) = [b] ∧
    a.severity.rank ≤ b.severity.rank
  security : ∀ item ∈ s.security, ∃ other ∈ t.security, withoutAmount item = withoutAmount other
  quality : ∀ item ∈ s.quality, ∃ other ∈ t.quality, withoutAmount item = withoutAmount other
  measures : ∀ item ∈ s.measures, item ∈ t.measures
  areas : ∀ a ∈ Area.all, Names s.areas (a.text "") → Names t.areas (a.text "")

/-- **Worse figures never look better.**  Where the figures of one report are at most
those of another one, the other looks no better, and it claims no strength that the
first does not claim, unless a figure is negative. -/
theorem worse_never_looks_better {f g : Figures} (h : f ≤ g) {m n : Metrics} (hm : f.In m)
    (hn : g.In n) {report other : Value}
    (hreport : report.field "summary_metrics" = .ok (.dict m))
    (hother : other.field "summary_metrics" = .ok (.dict n)) (scripting : Amount) :
    ∃ s t : Sections, s.Derived scripting report m ∧ t.Derived scripting other n ∧
      s.NoBetter t ∧
      (f.Nonnegative → ∀ x ∈ Strength.all, Names t.strengths x.text → Names s.strengths x.text) := by
  have hsecurity : ∀ t ∈ Topic.security scripting, t.gate.key ∈ figureKeys := by
    cases scripting <;> decide
  have hquality : ∀ t ∈ Topic.quality, t.gate.key ∈ figureKeys := by decide
  refine ⟨f.sections scripting, g.sections scripting, derived_sections hm hreport scripting,
    derived_sections hn hother scripting, ?_, fun hnonneg => strengths_anti h hnonneg scripting⟩
  constructor
  case grade => exact grade_mono h
  case advice => exact advice_mono h scripting
  case security => exact topics_mono h hsecurity
  case quality => exact topics_mono h hquality
  case measures => exact measures_mono h scripting
  case areas => exact areas_mono h scripting

namespace Figures

/-- A project before it is neglected. -/
def tended : Figures where
  count
    | .cyclomatic => 31
    | .lint => 21
    | _ => 0
  depth := 3
  average := .int 20
  number := rfl

theorem tended_le_neglected : tended ≤ neglected := by
  refine ⟨?_, by decide, ?_⟩
  · intro c
    cases c <;> decide
  · -- The later average is twenty and a half.
    refine ⟨_, _, Value.point?_int 20, rfl, ?_⟩
    apply WithBot.coe_le_coe.mpr
    apply WithTop.coe_le_coe.mpr
    show ((20 : Int) : ℚ) ≤ ((41 : Int) : ℚ) / ((2 : Nat) : ℚ)
    decide +kernel

end Figures

theorem worse_never_looks_better_neglected : Figures.tended ≤ Figures.neglected ∧
    ∃ s t : Sections,
      s.Derived .hidden (.dict [("summary_metrics", .dict Figures.tended.metrics)])
        Figures.tended.metrics ∧
      t.Derived .hidden (.dict [("summary_metrics", .dict Figures.neglected.metrics)])
        Figures.neglected.metrics ∧
      s.NoBetter t ∧
      (Figures.tended.Nonnegative → ∀ x ∈ Strength.all,
        Names t.strengths x.text → Names s.strengths x.text) :=
  ⟨Figures.tended_le_neglected, worse_never_looks_better Figures.tended_le_neglected
    Figures.tended.in_metrics Figures.neglected.in_metrics rfl rfl .hidden⟩

end CodeAudit.Report
