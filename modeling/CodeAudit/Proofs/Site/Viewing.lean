/-
  CodeAudit.Proofs.Site.Viewing
  ─────────────────────────────
  **A FINISHED PROJECT CAN ALWAYS BE VIEWED.**

  The report of a project is loosely typed, and the page that shows it fails
  where it has not the shape that the page needs, or where a text on it cannot
  be sent.  Two kinds of reports are ever kept: those of audits, whatever the
  files held and the services replied, and those that hold a test suite.  Both
  have that shape, as long as the adviser replies in words, and both can be
  sent, as long as the scanner prints whole texts about dependencies.

    • `Viewable` — reports that a page can lay out and, if so much is known of
      the scanner, send,
    • `viewable_audit`, `viewable_suite` — the two kinds,
    • `viewable_run` — a finished project has such a report,
    • `showReport_run` — nothing but a torn text keeps its page back,
    • `finished_projects_viewable` — its owner is shown the page, always.
-/
import CodeAudit.Proofs.Breakdowns
import CodeAudit.Proofs.Conservation
import CodeAudit.Proofs.Resilience
import CodeAudit.Proofs.Site.Effects
import CodeAudit.Proofs.Site.Sendable

namespace CodeAudit.Site

open CodeAudit.Data CodeAudit.Audit CodeAudit.Report CodeAudit.Site.Html
open CodeAudit.Text (Wording)

/-! ## §1. Findings on a page. -/

/-- The findings that an audit lists can be grouped by severity. -/
theorem bySeverity_toDict (l : Listing) : ∃ groups, bySeverity l.toDict = .ok groups := by
  unfold bySeverity
  refine foldlM_ok ?_ []
  intro groups entry hentry
  obtain ⟨d, -, rfl⟩ := List.mem_map.mp hentry
  -- The value of an entry is a list of findings, so its items are these.
  refine foldlM_ok ?_ groups
  intro groups v hv
  obtain ⟨f, -, rfl⟩ := List.mem_map.mp hv
  exact ⟨Groups.add groups (.text f.severity.word) (d.1, f.toValue), rfl⟩

/-- The files of a listing as they are laid out. -/
def rowsOf (l : Listing) : List FileRow :=
  l.map fun d => ⟨.text d.1, (Value.list (d.2.map Finding.toValue)).truthy, d.2.map Finding.toValue⟩

/-- The files that an audit lists can be laid out, unless one hides the others. -/
theorem fileRows_toDict {l : Listing} (h : "items" ∉ l.files) :
    fileRows l.toDict = .ok (rowsOf l) := by
  have hnone : Dict.get? l.toDict "items" = none := by
    rw [Listing.get?_toDict, List.lookup_eq_none_iff.mpr]
    · rfl
    · intro d hd
      have hne : d.1 ≠ "items" := fun heq => h (heq ▸ List.mem_map_of_mem hd)
      simpa using Ne.symm hne
  unfold fileRows Listing.toDict
  rw [show Dict.get? (l.map _) "items" = none from hnone]
  simp only [List.mapM_map, Function.comp_def]
  exact mapM_eq_map fun d _ => rfl

/-- What is shown of a finding is whole if its texts are. -/
theorem partsWhole_finding (f : Finding) : f.toValue.partsWhole = f.isWhole := by
  have hentry : ∀ key (w : Option Wording),
      (Finding.optionalEntry key w).all (fun e => e.2.isWhole) = w.all (·.isWhole) := by
    intro key w
    cases w <;> simp [Finding.optionalEntry]
  show f.toDict.all (fun e => e.2.isWhole) = f.isWhole
  cases hline : f.line <;> cases hexcerpt : f.excerpt <;> cases hsubtype : f.subtype <;>
    simp [Finding.toDict, Finding.isWhole, hline, hexcerpt, hsubtype, hentry]

/-- No file of an audit hides the others: they all are in the directory. -/
theorem Project.items_not_mem (p : Project) (services : Surroundings) :
    "items" ∉ (p.standing services).listing.files := by
  have hlisting : (p.standing services).listing
      = foundIn services.toServices (p.job services).modules := (standing_one .full (p.job services)).1
  rw [hlisting, files_foundIn]
  intro hmem
  obtain ⟨m, hm, hname⟩ := List.mem_map.mp hmem
  obtain ⟨f, -, rfl⟩ := List.mem_map.mp (List.mem_filter.mp hm).1
  have hpath : joinPath auditDirectory f.path = "upload" ++ "/" ++ f.path := by
    unfold joinPath
    rw [if_neg (by decide)]
    rfl
  unfold Project.job at hname
  rw [hpath] at hname
  have hfirst := congrArg (fun s : String => s.toList.head?) hname
  simp at hfirst

/-! ## §2. Reports that can be viewed. -/

/-- A report that a page can show: it can be read and laid out, and what is on the
sheet can be sent if the scans were sound. -/
def Viewable (sound : Prop) (report : Value) : Prop :=
  ∃ reading sheet, Reading.of report = .ok reading ∧ reading.sheet = .ok sheet ∧
    (sound → sheet.Whole)

theorem Viewable.mono {sound sounder : Prop} {report : Value} (h : Viewable sound report)
    (himp : sounder → sound) : Viewable sounder report := by
  obtain ⟨reading, sheet, hreading, hsheet, hwhole⟩ := h
  exact ⟨reading, sheet, hreading, hsheet, fun hsound => hwhole (himp hsound)⟩

/-- The report that holds a test suite can be viewed: nothing of it is on the sheet. -/
theorem viewable_suite (sound : Prop) (p : Project) (services : Surroundings) :
    Viewable sound (p.suiteReport services) := by
  refine ⟨_, ⟨none, none, none, none, none, [], false, [], none, [], none⟩, rfl, rfl,
    fun _ => ⟨?_, ?_, ?_, rfl⟩⟩
  · simp
  · exact List.forall_mem_nil _
  · exact List.forall_mem_nil _

/-- What a page needs of a standing to lay its report out. -/
structure Legible (s : Standing) : Prop where
  words : ∃ words, s.advice = some (textOrNull words)
  advice : ∃ advice : List Advice, Dict.get? s.summary adviceKey
    = some (.list (advice.map Advice.toValue)) ∧ ∀ a ∈ advice, isNumber a.value = true
  metrics : ∀ key ∈ [Counter.cyclomatic.key, Counter.lint.key, "ml_prediction"],
    (Dict.get? s.summary key).all Value.isWhole = true
  files : "items" ∉ s.listing.files

/-- A report can be read when the adviser's words are words and the advice is a list. -/
theorem reading_standing {s : Standing} {words : Option String} {advice : List Value}
    (hwords : s.advice = some (textOrNull words))
    (hadvice : Dict.get? s.summary adviceKey = some (.list advice)) :
    ∃ (adviser : Option String) (groups : Groups), Reading.of (.dict s.report)
      = .ok ⟨.dict s.report, .dict s.summary, s.listing.toDict, .list advice,
        adviser.map .whole, groups⟩ := by
  obtain ⟨groups, hgroups⟩ := bySeverity_toDict s.listing
  have hread : ∀ {adviser : Option Wording},
      (if (textOrNull words).truthy then (adviserHtml (textOrNull words)).map some else .ok none)
        = .ok adviser →
      Reading.of (.dict s.report)
        = .ok ⟨.dict s.report, .dict s.summary, s.listing.toDict, .list advice, adviser, groups⟩ := by
    intro adviser hadviser
    unfold Reading.of
    have hlist : Dict.get? s.summary "recommendations" = some (.list advice) := hadvice
    simp only [Value.fieldOr, Standing.get?_advice, Standing.get?_summary, Standing.get?_listing,
      hwords, hlist, Option.getD_some, ok_bind, Value.entries, hgroups]
    split at hadviser
    · rename_i htruthy
      rw [if_pos htruthy, hadviser]
      rfl
    · rename_i htruthy
      rw [if_neg htruthy]
      cases hadviser
      rfl
  cases words with
  | none => exact ⟨none, groups, hread rfl⟩
  | some text =>
      by_cases htext : (Value.text text).truthy = true
      · exact ⟨some (Markup.html text), groups, hread (if_pos htext)⟩
      · exact ⟨none, groups, hread (if_neg htext)⟩

/-- A reading can be laid out when its files can and its advice is a list, and then
the sheet is whole if the files are. -/
theorem sheet_whole {r : Reading} {rows : List FileRow} {advice : List Value}
    (hrows : fileRows r.files = .ok rows) (hadvice : r.recommendations = .list advice)
    (hstandard : listed (part? r.metrics "recommendations") = .ok advice)
    (hfigures : ∀ key ∈ ["files_analyzed", "files_with_issues", "llm_error"],
      (part? r.report key).all Value.isWhole = true)
    (hmetrics : ∀ key ∈ ["complexite_cyclomatique", "violations_pylint", "ml_prediction"],
      (part? r.metrics key).all Value.isWhole = true)
    (hparts : ∀ v ∈ advice, v.partsWhole = true) (hadviser : r.adviser.all (·.isWhole) = true) :
    ∃ sheet, r.sheet = .ok sheet ∧
      ((∀ f ∈ rows, f.path.isWhole = true ∧ ∀ v ∈ f.findings, v.partsWhole = true) →
        sheet.Whole) := by
  simp only [List.forall_mem_cons] at hfigures hmetrics
  obtain ⟨hanalyzed, hissues, herror, -⟩ := hfigures
  obtain ⟨hcomplexity, hviolations, hprediction, -⟩ := hmetrics
  -- What is advised on the metrics and in place of the adviser's words: all of it or nothing.
  have hwhole : ∀ {shown standard : List Value}, (shown = advice ∨ shown = []) →
      (standard = advice ∨ standard = []) → ∀ advised,
      (∀ f ∈ rows, f.path.isWhole = true ∧ ∀ v ∈ f.findings, v.partsWhole = true) → Sheet.Whole
        ⟨part? r.report "files_analyzed", part? r.report "files_with_issues",
          part? r.metrics "complexite_cyclomatique", part? r.metrics "violations_pylint",
          part? r.metrics "ml_prediction", rows, advised, shown, r.adviser, standard,
          part? r.report "llm_error"⟩ := by
    intro shown standard hshown hstandard advised hfiles
    refine ⟨?_, hfiles, ?_, hadviser⟩
    · simp [hanalyzed, hissues, hcomplexity, hviolations, hprediction, herror]
    · intro v hv
      rcases hshown with rfl | rfl <;> rcases hstandard with rfl | rfl <;> simp_all
  unfold Reading.sheet
  rw [hrows, hadvice, hstandard]
  cases (Value.list advice).truthy <;> cases r.adviser.isSome
  · exact ⟨_, rfl, hwhole (.inr rfl) (.inl rfl) _⟩
  · exact ⟨_, rfl, hwhole (.inr rfl) (.inr rfl) _⟩
  · exact ⟨_, rfl, hwhole (.inl rfl) (.inl rfl) _⟩
  · exact ⟨_, rfl, hwhole (.inl rfl) (.inr rfl) _⟩

/-- **A report of which all that a page needs is there can be viewed**, if the findings
are whole. -/
theorem viewable_of_legible {s : Standing} (h : Legible s) :
    Viewable (∀ f ∈ s.listing.findings, f.isWhole = true) (.dict s.report) := by
  obtain ⟨words, hwords⟩ := h.words
  obtain ⟨advice, hadvice, hnumbers⟩ := h.advice
  obtain ⟨adviser, groups, hreading⟩ := reading_standing hwords hadvice
  have hlisted : listed (part? (.dict s.summary) "recommendations")
      = .ok (advice.map Advice.toValue) := by
    show listed (Dict.get? s.summary adviceKey) = _
    rw [hadvice]
    rfl
  have hfiles : (∀ f ∈ s.listing.findings, f.isWhole = true) → ∀ row ∈ rowsOf s.listing,
      row.path.isWhole = true ∧ ∀ v ∈ row.findings, v.partsWhole = true := by
    intro hfindings row hrow
    obtain ⟨d, hd, rfl⟩ := List.mem_map.mp hrow
    refine ⟨rfl, fun v hv => ?_⟩
    obtain ⟨f, hf, rfl⟩ := List.mem_map.mp hv
    rw [partsWhole_finding]
    exact hfindings f (List.mem_flatMap.mpr ⟨d, hd, hf⟩)
  have hparts : ∀ v ∈ advice.map Advice.toValue, v.partsWhole = true := by
    intro v hv
    obtain ⟨a, ha, rfl⟩ := List.mem_map.mp hv
    simp [Advice.toValue, Value.partsWhole, Value.isWhole_of_isNumber (hnumbers a ha)]
  obtain ⟨sheet, hsheet, hwhole⟩ := sheet_whole
    (r := ⟨.dict s.report, .dict s.summary, s.listing.toDict, .list (advice.map Advice.toValue),
      adviser.map .whole, groups⟩)
    (fileRows_toDict h.files) rfl hlisted (by simp [part?]) h.metrics hparts
    (by cases adviser <;> rfl)
  exact ⟨_, sheet, hreading, hsheet, fun hfindings => hwhole (hfiles hfindings)⟩

/-- The report of an audit has all that a page needs, if the adviser replied in words. -/
theorem legible_audit (p : Project) {services : Surroundings}
    (hwords : services.adviser.inWords = true) : Legible (p.standing services) := by
  have hcomplete : Complete services.toServices (p.standing services).report :=
    complete_audited .start .full rfl .standard services.toServices auditDirectory
      (p.job services).modules
  obtain ⟨t, heritage, hsummary⟩ : ∃ t heritage,
      (p.standing services).summary = summaryOf .full services.model t heritage := ⟨_, _, rfl⟩
  have hcounter : ∀ c : Counter, Dict.get? (p.standing services).summary c.key = some (.int (t c)) := by
    rw [hsummary]
    exact get?_summaryOf_key .full services.model t heritage
  have hprediction := hcomplete.prediction
  rw [metric?_report] at hprediction
  refine ⟨⟨services.adviser.said?, ?_⟩, ⟨adviceOn t heritage, ?_, (gather_derivedMetrics t heritage).2⟩,
    ?_, p.items_not_mem services⟩
  · rw [← Standing.get?_advice]
    exact hcomplete.words hwords
  · rw [hsummary]
    exact get?_summaryOf_adviceKey .full services.model t heritage
  · simp [hcounter, hprediction]

/-- **The report of an audit can be viewed**, whatever the files held, if the adviser
replied in words; the scans are sound if the scanner replied in whole texts. -/
theorem viewable_audit (p : Project) {services : Surroundings}
    (hwords : services.adviser.inWords = true) :
    Viewable (services.scanner.isWhole = true) (p.auditReport services) := by
  refine (viewable_of_legible (legible_audit p hwords)).mono fun hwhole f hf => ?_
  exact whole_listed .full [p.job services] (List.forall_mem_singleton.mpr hwhole) hf

/-! ## §3. Finished projects. -/

/-- Run: every finished project has a report with entries. -/
theorem entries_run (now : Moment) (calls : List Call) :
    ∀ p ∈ ((World.start now).run calls).site.projects, p.completed = true →
      ∃ es, p.report = .dict es ∧ es ≠ [] := by
  refine World.projects_run now (Q := fun _ => True) (fun {w c p} _ hentries horigin hdone => ?_)
    fun _ _ => trivial
  cases horigin with
  | kept hkept => exact hentries p hkept hdone
  | submitted _ _ => cases hdone
  | @audited _ q _ _ _ _ => exact ⟨_, rfl, List.cons_ne_nil _ _⟩
  | @tested _ q _ _ _ => exact ⟨_, rfl, List.cons_ne_nil _ _⟩

/-- Step: finished projects have reports that can be viewed. -/
theorem viewable_step {sound : Prop} {w : World} {c : Call} {p : Project}
    (hwords : c.services.adviser.inWords = true)
    (hscanner : sound → c.services.scanner.isWhole = true)
    (hview : ∀ q ∈ w.site.projects, q.completed = true → Viewable sound q.report)
    (horigin : Origin c.services c.request (w.seen c) p) (hdone : p.completed = true) :
    Viewable sound p.report := by
  cases horigin with
  | kept hkept => exact hview p hkept hdone
  | submitted _ _ => cases hdone
  | @audited _ q _ _ _ _ => exact (viewable_audit q hwords).mono hscanner
  | @tested _ q _ _ _ => exact viewable_suite sound q c.services

/-- **Run: every finished project has a report that can be viewed.** -/
theorem viewable_run (now : Moment) {calls : List Call}
    (hwords : ∀ c ∈ calls, c.services.adviser.inWords = true) :
    ∀ p ∈ ((World.start now).run calls).site.projects, p.completed = true →
      Viewable (∀ c ∈ calls, c.services.scanner.isWhole = true) p.report :=
  World.projects_run now
    (Q := fun c => c.services.adviser.inWords = true ∧
      ((∀ d ∈ calls, d.services.scanner.isWhole = true) → c.services.scanner.isWhole = true))
    (fun hc hview horigin => viewable_step hc.1 hc.2 hview horigin)
    fun c hc => ⟨hwords c hc, fun hscans => hscans c hc⟩

/-- **Run: nothing but a torn text keeps back the page of a finished project**, and then
a scanner has printed one. -/
theorem showReport_run (now : Moment) {calls : List Call}
    (hwords : ∀ c ∈ calls, c.services.adviser.inWords = true) {p : Project}
    (hp : p ∈ ((World.start now).run calls).site.projects) (hdone : p.completed = true) :
    (∃ reading html, showReport p = .only (.page (.report p reading) html)) ∨
      (∃ gap, showReport p = .only (.failure (.unsendable gap))) ∧
        ∃ c ∈ calls, c.services.scanner.isWhole = false := by
  obtain ⟨reading, sheet, hreading, hsheet, hwhole⟩ := viewable_run now hwords p hp hdone
  have hshown : showReport p = .only (present (.report p reading)) := by
    unfold showReport
    rw [if_pos hdone, hreading]
  rw [hshown]
  rcases present_laid p hsheet with ⟨html, hpage⟩ | ⟨gap, hgap⟩
  · exact .inl ⟨reading, html, by rw [hpage]⟩
  · refine .inr ⟨⟨gap, by rw [hgap]⟩, ?_⟩
    -- Had all scanners printed whole texts, the page would have been sent.
    by_contra hnone
    have hscans : ∀ c ∈ calls, c.services.scanner.isWhole = true := by simpa using hnone
    obtain ⟨html, hpage⟩ := present_report p hsheet (hwhole hscans)
    rw [hpage] at hgap
    cases hgap

/-- A call meets an adviser that replies in words and a scanner that prints whole texts
about dependencies. -/
structure Call.InWholeWords (c : Call) : Prop where
  adviser : c.services.adviser.inWords = true
  scanner : c.services.scanner.isWhole = true

instance (c : Call) : Decidable c.InWholeWords :=
  decidable_of_iff (c.services.adviser.inWords = true ∧ c.services.scanner.isWhole = true)
    ⟨fun h => ⟨h.1, h.2⟩, fun h => ⟨h.adviser, h.scanner⟩⟩

/-- The owner is shown the page of a finished project if all words were whole. -/
theorem showReport_inWholeWords (now : Moment) {calls : List Call}
    (hcalls : ∀ c ∈ calls, c.InWholeWords) {p : Project}
    (hp : p ∈ ((World.start now).run calls).site.projects) (hdone : p.completed = true) :
    ∃ reading html, showReport p = .only (.page (.report p reading) html) := by
  rcases showReport_run now (fun c hc => (hcalls c hc).adviser) hp hdone with hpage | ⟨-, c, hc, htorn⟩
  · exact hpage
  · rw [(hcalls c hc).scanner] at htorn
    cases htorn

/-- A finished project stays finished. -/
theorem completed_run {w : World} (h : Orderly w.site) {p : Project} (hp : p ∈ w.site.projects)
    (hdone : p.completed = true) (later : List Call) (hlater : Orderly (w.run later).site) :
    ∃ q, (w.run later).site.project? p.owner p.id = some q ∧ q.completed = true := by
  obtain ⟨q, hq, hsame⟩ := World.stays_run h hp later
  refine ⟨q, ?_, hsame.completed hdone⟩
  rw [← hsame.owner, ← hsame.number]
  exact hlater.project?_of_mem hq

/-- **A finished project can always be viewed.**  In every state that calls lead to, a
finished project has a report with entries and is finished for good.  The owner of a
project who asks for its report is sent to have it audited if it is not finished.  If
it is, the page is shown, as long as the calls have met an adviser that replies in
words and a scanner that prints whole texts about dependencies. -/
theorem finished_projects_viewable (now : Moment) (calls : List Call) (p : Project)
    (hp : p ∈ ((World.start now).run calls).site.projects) :
    (p.completed = true →
      (∃ es, p.report = .dict es ∧ es ≠ []) ∧
      ∀ later : List Call, ∃ q,
        ((World.start now).run (calls ++ later)).site.project? p.owner p.id = some q ∧
          q.completed = true) ∧
    ∀ c : Call, (((World.start now).run calls).visitor? c).map (·.id) = some p.owner →
      c.route? = some (.report p.id) →
      if p.completed then
        (∀ d ∈ calls, d.InWholeWords) → ∃ reading html,
          ((World.start now).run calls).answer c = .only (.page (.report p reading) html)
      else ((World.start now).run calls).answer c = .only (goTo (.analyze p.id)) := by
  have horderly := World.orderly_run now calls
  constructor
  · intro hdone
    refine ⟨entries_run now calls p hp hdone, fun later => ?_⟩
    have hlater := World.orderly_run now (calls ++ later)
    rw [World.run_append] at hlater ⊢
    exact completed_run horderly hp hdone later hlater
  · intro c howner hroute
    have hanswer : ((World.start now).run calls).answer c = showReport p :=
      World.answer_owner horderly hp howner hroute rfl
    rw [hanswer]
    split
    · rename_i hdone
      exact fun hcalls => showReport_inWholeWords now hcalls hp hdone
    · rename_i hopen
      unfold showReport
      rw [if_neg hopen]

/-- A visitor opens an account, hands in a file that cannot be read, waits for the
audit, and asks for a test suite. -/
def unreadableRun : List Call :=
  [.signUp 0 "ann", .handIn 0 [⟨"a.py", [0xff]⟩], .visit 0 "/results/1/",
   .visit 0 "/generate_tests/1/"]

/-- After calls that meet whole words only, the visitor is shown the report of a
finished project, which has entries. -/
def ReportShown (calls : List Call) : Prop :=
  (∀ c ∈ calls, c.InWholeWords) ∧
  ∃ p ∈ ((World.start openingTime).run calls).site.projects,
    p.completed = true ∧ (∃ es, p.report = .dict es ∧ es ≠ []) ∧
    ∃ reading html, ((World.start openingTime).run calls).answer (.visit 0 "/view_report/1/")
      = .only (.page (.report p reading) html)

/-- The report is shown when the file could not be read, before a test suite was
written for it and afterwards. -/
theorem finished_projects_viewable_unreadable :
    ReportShown (unreadableRun.take 3) ∧ ReportShown unreadableRun := by
  suffices hboth : ∀ calls ∈ [unreadableRun.take 3, unreadableRun], ReportShown calls by
    exact ⟨hboth _ List.mem_cons_self, hboth _ (List.mem_cons_of_mem _ List.mem_cons_self)⟩
  intro calls hcalls
  have hwords : ∀ c ∈ calls, c.InWholeWords := by
    revert calls
    decide +kernel
  have hprojects : ((World.start openingTime).run calls).site.projects.map
      (fun p => (p.id, p.owner, p.completed)) = [(1, 1, true)] := by
    revert calls
    decide +kernel
  have hvisitor : (((World.start openingTime).run calls).visitor?
      (.visit 0 "/view_report/1/")).map (·.id) = some 1 := by
    revert calls
    decide +kernel
  have hroute : (Call.visit 0 "/view_report/1/").route? = some (.report 1) := by decide +kernel
  obtain ⟨p, hp, hfields⟩ := exists_of_only hprojects
  simp only [Prod.mk.injEq] at hfields
  obtain ⟨hid, howner, hdone⟩ := hfields
  obtain ⟨hkept, hshown⟩ := finished_projects_viewable _ calls p hp
  refine ⟨hwords, p, hp, hdone, (hkept hdone).1, ?_⟩
  have hpage := hshown _ (by rw [hvisitor, howner]) (by rw [hroute, hid])
  rw [if_pos hdone] at hpage
  exact hpage hwords

end CodeAudit.Site
