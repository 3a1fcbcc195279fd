/-
  CodeAudit.Proofs.Site.Sendable
  ──────────────────────────────
  **PAGES THAT CAN BE SENT.**

  A page is torn if a text that it shows is, and a torn page cannot be sent.
  Values that are no texts are written out, and that is whole.  So the page of
  a report can be sent if the texts that it shows are whole.

    • `Value.isWhole`, `Value.partsWhole` — values that can be shown,
    • `Sheet.Whole` — sheets on which all values can,
    • `isWhole_html` — their pages are whole,
    • `present_report` — and can be sent.
-/
import CodeAudit.Proofs.Bounds
import CodeAudit.Site.Respond

namespace CodeAudit.Data.Value

open CodeAudit.Audit CodeAudit.Text

/-! ## §1. Values that can be shown. -/

/-- Whether a value stands in a sentence as a whole text. -/
def isWhole (v : Value) : Bool := v.wording.isWhole

/-- Whether the entries of a value do, if it has any. -/
def partsWhole : Value → Bool
  | .dict es => es.all fun e => e.2.isWhole
  | _ => true

@[simp] theorem isWhole_text (s : String) : (Value.text s).isWhole = true := rfl

@[simp] theorem isWhole_int (n : Int) : (Value.int n).isWhole = true := rfl

@[simp] theorem isWhole_ofWording (w : Wording) : (ofWording w).isWhole = w.isWhole := by
  cases w <;> rfl

theorem isWhole_of_isNumber {v : Value} (h : isNumber v = true) : v.isWhole = true := by
  cases v with
  | torn t => cases h
  | _ => rfl

end CodeAudit.Data.Value

namespace CodeAudit.Site

open CodeAudit.Data CodeAudit.Text CodeAudit.Site.Html

/-- A part of a value is whole if all its parts are. -/
theorem isWhole_part {v : Value} (h : v.partsWhole = true) (key : String) :
    (part? v key).all Value.isWhole = true := by
  cases v with
  | dict es =>
      cases hpart : Dict.get? es key with
      | none => simp [part?, hpart]
      | some x =>
          obtain ⟨before, after, rfl, -⟩ := List.lookup_eq_some_iff.mp hpart
          have hx : x.isWhole = true := List.all_eq_true.mp h (key, x) (by simp)
          simp [part?, hpart, hx]
  | _ => rfl

/-! ## §2. Pieces of HTML. -/

@[simp] theorem isWhole_shown (v : Option Value) : (shown v).isWhole = v.all Value.isWhole := by
  cases v with
  | none => rfl
  | some v =>
      cases v with
      | real x => rfl
      | _ => simp [shown, escaped, Value.isWhole]

@[simp] theorem isWhole_capitals (v : Option Value) :
    (capitals v).isWhole = v.all Value.isWhole := by
  cases v with
  | none => rfl
  | some v => simp [capitals, escaped, Value.isWhole]

@[simp] theorem isWhole_loosely (ls : List Wording) : (loosely ls).isWhole = ls.all (·.isWhole) :=
  Wording.isWhole_joinWith "\n" ls

/-! ## §3. The page of a report. -/

/-- A sheet on which all values can be shown. -/
structure Sheet.Whole (s : Sheet) : Prop where
  figures : ∀ v ∈ [s.filesAnalyzed, s.filesWithIssues, s.complexity, s.violations, s.prediction,
    s.adviceError], v.all Value.isWhole = true
  files : ∀ f ∈ s.files, f.path.isWhole = true ∧ ∀ v ∈ f.findings, v.partsWhole = true
  advice : ∀ v ∈ s.advice ++ s.standardAdvice, v.partsWhole = true
  adviser : s.adviser.all (·.isWhole) = true

namespace Page.Report

theorem isWhole_findingEntry {v : Value} (h : v.partsWhole = true) :
    (findingEntry v).isWhole = true := by
  simp [findingEntry, findingAdvice, isWhole_part h, apply_ite Wording.isWhole]

theorem isWhole_fileEntry {f : FileRow} (hpath : f.path.isWhole = true)
    (hfindings : ∀ v ∈ f.findings, v.partsWhole = true) : (fileEntry f).isWhole = true := by
  have hentries : ∀ v ∈ f.findings, (findingEntry v).isWhole = true :=
    fun v hv => isWhole_findingEntry (hfindings v hv)
  simpa [fileEntry, findingList, hpath, apply_ite Wording.isWhole] using .inr hentries

theorem isWhole_adviceCard {s : Sheet} (h : s.Whole) : (adviceCard s).isWhole = true := by
  have hentries : ∀ v ∈ s.advice, (adviceEntry v).isWhole = true := by
    intro v hv
    simp [adviceEntry, isWhole_part (h.advice v (List.mem_append_left _ hv))]
  simpa [adviceCard] using hentries

theorem isWhole_adviserPart {s : Sheet} (h : s.Whole) : (adviserPart s).isWhole = true := by
  have hentries : ∀ v ∈ s.standardAdvice, (standardEntry v).isWhole = true := by
    intro v hv
    simp [standardEntry, isWhole_part (h.advice v (List.mem_append_right _ hv))]
  unfold adviserPart
  split
  · rename_i advice hadvice
    have hwhole : advice.isWhole = true := by simpa [hadvice] using h.adviser
    simp [adviserCard, hwhole]
  · simpa [standardCard] using hentries

/-- **The page of a sheet on which all values can be shown is whole.** -/
theorem isWhole_html (p : Project) {s : Sheet} (h : s.Whole) : (html p s).isWhole = true := by
  have hfigures := h.figures
  simp only [List.forall_mem_cons] at hfigures
  obtain ⟨hanalyzed, hissues, hcomplexity, hviolations, hprediction, herror, -⟩ := hfigures
  have hmetrics : (metricsCard s).isWhole = true := by
    simp [metricsCard, hanalyzed, hissues, hcomplexity, hviolations]
  have hfiles : (filesCard s).isWhole = true := by
    simpa [filesCard] using fun f hf => isWhole_fileEntry (h.files f hf).1 (h.files f hf).2
  have hpredicted : (predictionCard s).isWhole = true := by
    simp [predictionCard, hprediction]
  have hadvice : (advicePart s).isWhole = true := by
    simp [advicePart, adviceWarning, isWhole_adviceCard h, isWhole_adviserPart h, herror,
      apply_ite Wording.isWhole]
  simp [html, content, Layout.page, hmetrics, hfiles, hpredicted, hadvice]

end Page.Report

theorem html_of_sheet (p : Project) {reading : Reading} {sheet : Sheet}
    (hsheet : reading.sheet = .ok sheet) :
    (Page.report p reading).html = .ok (Page.Report.html p sheet) := by
  show (reading.sheet >>= fun sheet => .ok (Page.Report.html p sheet)) = _
  rw [hsheet]
  rfl

/-- A page that is laid out is shown, unless it is torn. -/
theorem present_laid (p : Project) {reading : Reading} {sheet : Sheet}
    (hsheet : reading.sheet = .ok sheet) :
    (∃ html, present (.report p reading) = .page (.report p reading) html) ∨
      ∃ gap, present (.report p reading) = .failure (.unsendable gap) := by
  unfold present
  rw [html_of_sheet p hsheet]
  cases Page.Report.html p sheet with
  | whole html => exact .inl ⟨html, rfl⟩
  | torn t => exact .inr ⟨_, rfl⟩

/-- **The page of a report that is whole can be sent.** -/
theorem present_report (p : Project) {reading : Reading} {sheet : Sheet}
    (hsheet : reading.sheet = .ok sheet) (h : sheet.Whole) :
    ∃ html, present (.report p reading) = .page (.report p reading) html := by
  obtain ⟨html, hhtml⟩ := Wording.isWhole_iff.mp (Page.Report.isWhole_html p h)
  have hpage := html_of_sheet p hsheet
  rw [hhtml] at hpage
  refine ⟨html, ?_⟩
  unfold present
  rw [hpage]
  rfl

end CodeAudit.Site
