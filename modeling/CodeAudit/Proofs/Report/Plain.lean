/-
  CodeAudit.Proofs.Report.Plain
  ─────────────────────────────
  **WHEN THE PLAIN REPORT CAN BE WRITTEN.**

  The plain report reads five entries of every finding and fourteen metrics.
  After an audit the metrics are all there, and of a finding only the
  recommendation can be absent.  So writing fails in one way only, and
  exactly when a module has broken down.

    • `findingLines_toValue`, `fileLines_eq` — the lines of a finding and of a
      file, or the one failure,
    • `plainLines_report` — the lines of the whole report, or that failure,
    • `marked_plainLines` — the lines that name files and findings,
    • `plainLines_session` — so for a session,
    • `plain_report_iff` — when a session can have its report written.
-/
import CodeAudit.Proofs.Breakdowns
import CodeAudit.Proofs.Conservation
import CodeAudit.Proofs.Report.Lines
import CodeAudit.Proofs.Resilience

namespace CodeAudit.Report

open CodeAudit.Data CodeAudit.Audit

/-! ## §1. A finding and its file. -/

/-- The line that names a file. -/
def fileHead (file : String) : String := "\nFichier: " ++ file

/-- The line that opens a finding. -/
def entryLine (finding : Dict) : String :=
  "    * Ligne " ++ shown finding "line" ++ ": [" ++ shown finding "type" ++ "] "
    ++ shown finding "message"

/-- The failure of a finding that recommends nothing. -/
def unadvised : Failure := .missingKey "recommendation"

/-- The lines of a finding, with a recommendation. -/
def findingBlock (f : Finding) : List String :=
  [entryLine f.toDict, "      Gravité: " ++ Text.upper f.severity.word,
    "      Recommandation: " ++ (f.recommendation.getD "").shown]
    ++ f.excerpt.toList.map ("      Code: " ++ ·)

/-- **A finding can be written if and only if it recommends something.** -/
theorem findingLines_toValue (f : Finding) :
    findingLines f.toValue =
      if f.recommendation.isSome then .ok (findingBlock f) else .error unadvised := by
  obtain ⟨category, line, message, recommendation, excerpt, subtype⟩ := f
  cases recommendation with
  | none => cases excerpt <;> cases subtype <;> rfl
  | some r => cases r <;> cases excerpt <;> cases subtype <;> rfl

/-- The lines of a file with findings. -/
def fileBlock (d : String × List Finding) : List String :=
  fileHead d.1 :: "  - Problèmes détectés:" :: d.2.flatMap findingBlock

/-- A file can be written if all its findings can. -/
theorem fileLines_eq {d : String × List Finding} (hne : d.2 ≠ []) :
    fileLines d.1 (.list (d.2.map Finding.toValue)) =
      if d.2.all (·.recommendation.isSome) then .ok (fileBlock d) else .error unadvised := by
  have htruthy : (Value.list (d.2.map Finding.toValue)).truthy = true := by
    simp [Value.truthy, hne]
  have hlines : (d.2.map Finding.toValue).mapM findingLines =
      if d.2.all (·.recommendation.isSome) then .ok (d.2.map findingBlock)
      else .error unadvised := by
    rw [List.mapM_map]
    exact mapM_eq_ite fun f _ => findingLines_toValue f
  -- A listed file has findings, so its status is never written instead.
  unfold fileLines
  simp only [htruthy, if_true, Value.items, ok_bind, hlines]
  cases d.2.all (·.recommendation.isSome) with
  | false => rfl
  | true => rfl

/-! ## §2. Advice and metrics. -/

/-- The lines of a piece of advice. -/
def adviceBlock (a : Advice) : List String :=
  ["\n- [" ++ Text.upper a.severity.word ++ "] " ++ a.metric ++ " = " ++ a.value.display,
    "  Recommandation: " ++ a.text]

/-- The advice that metrics hold can always be written. -/
theorem allAdviceLines_eq {m : Metrics} {advice : List Advice}
    (h : Dict.get? m adviceKey = some (.list (advice.map Advice.toValue))) :
    allAdviceLines (.dict m) = .ok (advice.flatMap adviceBlock) := by
  have hhas : Dict.has m "recommendations" = true := by
    show (Dict.get? m adviceKey).isSome = true
    rw [h]
    rfl
  have hfield : Value.field (.dict m) "recommendations"
      = .ok (.list (advice.map Advice.toValue)) := field_of_get? h
  have hlines : (advice.map Advice.toValue).mapM adviceLines = .ok (advice.map adviceBlock) := by
    rw [List.mapM_map]
    exact mapM_eq_map fun a _ => rfl
  unfold allAdviceLines
  simp only [Value.contains, hhas, hfield, Value.items, ok_bind, if_true, hlines]
  rfl

/-- The line of a metric. -/
def metricLine (m : Metrics) (l : String × String × String) : String :=
  l.1 ++ shown m l.2.1 ++ l.2.2

/-- Metrics that are all there can be written. -/
theorem metricLines_eq {m : Metrics}
    (h : ∀ key ∈ readKeys, ∃ v, Dict.get? m key = some v ∧ isNumber v = true) :
    metricLines (.dict m) = .ok (metricLabels.map (metricLine m)) := by
  refine mapM_eq_map fun l hl => ?_
  obtain ⟨label, key, tail⟩ := l
  have hkey : key ∈ readKeys := by
    simp only [readKeys, List.append_assoc]
    exact List.mem_append_left _ (List.mem_map_of_mem hl)
  obtain ⟨v, hv, -⟩ := h key hkey
  simp only [field_of_get? hv, ok_bind, metricLine, shown, hv, Option.getD_some]

/-! ## §3. The whole report. -/

/-- The lines before the files. -/
def plainOpening (s : Standing) (advice : List Advice) : List String :=
  ["*** Rapport d'Analyse de Sécurité et Qualité ***",
    "Projet: " ++ s.project,
    "Fichiers analysés: " ++ (Value.int s.files).display,
    "Fichiers avec problèmes: " ++ (Value.int s.affected).display,
    "Total des problèmes détectés: " ++ (Value.int s.issues).display ++ "\n",
    "=== Recommandations Globales ==="]
    ++ advice.flatMap adviceBlock ++ ["\n=== Détails par Fichier ==="]

/-- The lines behind the files. -/
def plainClosing (m : Metrics) : List String :=
  ["\n=== Métriques Globales ==="] ++ metricLabels.map (metricLine m)

/-- **The plain report of a standing** can be written if and only if every
finding recommends something. -/
theorem plainLines_report {s : Standing} {advice : List Advice}
    (hadvice : Dict.get? s.summary adviceKey = some (.list (advice.map Advice.toValue)))
    (hmetrics : ∀ key ∈ readKeys, ∃ v, Dict.get? s.summary key = some v ∧ isNumber v = true)
    (hlists : ∀ d ∈ s.listing, d.2 ≠ []) :
    plainLines (.dict s.report) =
      if s.listing.findings.all (·.recommendation.isSome) then
        .ok (plainOpening s advice ++ s.listing.flatMap fileBlock ++ plainClosing s.summary)
      else .error unadvised := by
  have hfiles : ∀ d ∈ s.listing, fileLines d.1 (.list (d.2.map Finding.toValue)) =
      if d.2.all (·.recommendation.isSome) then .ok (fileBlock d) else .error unadvised :=
    fun d hd => fileLines_eq (hlists d hd)
  have hall : s.listing.findings.all (·.recommendation.isSome) =
      s.listing.all (fun d => d.2.all (·.recommendation.isSome)) := List.all_flatMap
  -- Everything else is there to be read, so the files decide.
  unfold plainLines
  simp only [field_of_get? s.get?_project, field_of_get? s.get?_files,
    field_of_get? s.get?_affected, field_of_get? s.get?_issues, field_of_get? s.get?_summary,
    field_of_get? s.get?_listing, Value.entries, allAdviceLines_eq hadvice,
    metricLines_eq hmetrics, ok_bind, Listing.toDict, List.mapM_map, Function.comp_def]
  rw [mapM_eq_ite hfiles, hall]
  cases s.listing.all (fun d => d.2.all (·.recommendation.isSome)) with
  | false => rfl
  | true => simp [plainOpening, plainClosing, List.flatMap]

/-! ## §4. The lines that name files and findings. -/

/-- How the lines begin that name a file or open a finding. -/
def listingMarks : List String := ["\nFichier: ", "    * Ligne "]

theorem marked_findingBlock (f : Finding) :
    marked listingMarks (findingBlock f) = [entryLine f.toDict] := by
  have hexcerpt : marked listingMarks (f.excerpt.toList.map ("      Code: " ++ ·)) = [] := by
    cases f.excerpt with
    | none => rfl
    | some code => exact marked_apart (by decide) code []
  unfold findingBlock entryLine
  rw [marked_append, hexcerpt]
  simp only [String.append_assoc]
  rw [marked_mark (by decide), marked_apart (by decide), marked_apart (by decide)]
  rfl

theorem marked_fileBlock (d : String × List Finding) :
    marked listingMarks (fileBlock d) = fileHead d.1 :: d.2.map (entryLine ∘ Finding.toDict) := by
  unfold fileBlock fileHead
  rw [marked_mark (by decide), marked_fixed (by decide), marked_flatMap]
  simp only [marked_findingBlock]
  rw [← List.map_eq_flatMap]
  rfl

theorem marked_plainOpening (s : Standing) (advice : List Advice) :
    marked listingMarks (plainOpening s advice) = [] := by
  have hadvice : marked listingMarks (advice.flatMap adviceBlock) = [] := by
    refine marked_flatMap_eq_nil fun a _ => ?_
    unfold adviceBlock
    simp only [String.append_assoc]
    rw [marked_apart (by decide), marked_apart (by decide)]
    rfl
  unfold plainOpening
  rw [marked_append, marked_append, hadvice]
  simp only [String.append_assoc]
  rw [marked_fixed (by decide), marked_apart (by decide), marked_apart (by decide),
    marked_apart (by decide), marked_apart (by decide)]
  decide

theorem marked_plainClosing (m : Metrics) : marked listingMarks (plainClosing m) = [] := by
  have hlabels : ∀ l ∈ metricLabels, listingMarks.all (apart · l.1) = true := by decide
  unfold plainClosing
  rw [marked_append, marked_fixed (by decide)]
  refine marked_eq_nil fun line hline => ?_
  obtain ⟨l, hl, rfl⟩ := List.mem_map.mp hline
  unfold metricLine
  rw [String.append_assoc]
  exact marked_apart (hlabels l hl) _ []

/-- **The report names every file and opens every finding once, in order.** -/
theorem marked_plainLines (s : Standing) (advice : List Advice) :
    marked listingMarks
        (plainOpening s advice ++ s.listing.flatMap fileBlock ++ plainClosing s.summary) =
      (listed s.report).flatMap fun d => fileHead d.1 :: d.2.map entryLine := by
  rw [marked_append, marked_append, marked_plainOpening, marked_plainClosing, marked_flatMap,
    List.nil_append, List.append_nil, listed_report, List.flatMap_map]
  refine List.flatMap_congr fun d _ => ?_
  rw [marked_fileBlock, List.map_map]

end CodeAudit.Report

namespace CodeAudit.Audit

open CodeAudit.Data CodeAudit.Source CodeAudit.Report

/-! ## §5. The report of a session. -/

/-- Writing the plain report reads an auditor and changes nothing. -/
theorem perform_plainReport (a : Auditor) :
    a.perform plainReport = (plain (.dict a.report), a, .empty) := by
  have hon : Task.on plainReport ⟨a.report, .empty⟩
      = (plain (.dict a.report), ⟨a.report, .empty⟩) := by
    unfold plainReport
    rw [Task.on_bind_ok (Task.on_get _)]
    cases plain (.dict a.report) <;> rfl
  show ((Task.on plainReport ⟨a.report, .empty⟩).1,
    { a with report := (Task.on plainReport ⟨a.report, .empty⟩).2.report },
    (Task.on plainReport ⟨a.report, .empty⟩).2.trace) = _
  rw [hon]

/-- All findings of a session recommend something if and only if none tells of a
failure. -/
theorem recommended_all_iff (e : Edition) (jobs : List Job) :
    (standing e jobs).listing.findings.all (·.recommendation.isSome) = true ↔
      Category.failure.title ∉ listedTitles (standing e jobs).report := by
  rw [List.all_eq_true, title_listed_iff]
  constructor
  · rintro hall ⟨f, hf, hfailure⟩
    exact (recommended_iff e jobs hf).mp (hall f hf) hfailure
  · intro hnone f hf
    exact (recommended_iff e jobs hf).mpr fun hfailure => hnone ⟨f, hf, hfailure⟩

/-- The lines of the plain report of a session: all of them, or the one failure. -/
theorem plainLines_session (e : Edition) (jobs : List Job) (j : Job) :
    (Category.failure.title ∈ listedTitles (session e (jobs ++ [j])).report ∧
        plainLines (.dict (session e (jobs ++ [j])).report) = .error unadvised) ∨
    Category.failure.title ∉ listedTitles (session e (jobs ++ [j])).report ∧
      ∃ lines, plainLines (.dict (session e (jobs ++ [j])).report) = .ok lines ∧
        marked listingMarks lines = (listed (session e (jobs ++ [j])).report).flatMap
          fun d => fileHead d.1 :: d.2.map entryLine := by
  have hsound := sound_after (sound_standing e jobs) e j
  have hlines := plainLines_report (s := (standing e jobs).after e j)
    (get?_summaryOf_adviceKey e j.services.model _ _) (readKeys_numbers e j.services.model _ _)
    hsound.nonempty
  rw [← standing_append] at hlines
  rw [session_report]
  have hall := recommended_all_iff e (jobs ++ [j])
  by_cases hfailure : Category.failure.title ∈ listedTitles (standing e (jobs ++ [j])).report
  · -- Some finding recommends nothing, and writing stops there.
    rw [if_neg (fun h => hall.mp h hfailure)] at hlines
    exact .inl ⟨hfailure, hlines⟩
  · rw [if_pos (hall.mpr hfailure)] at hlines
    exact .inr ⟨hfailure, _, hlines, marked_plainLines _ _⟩

/-- **The plain report of a session** can be written if and only if it lists no
failure, that is if and only if no module of the session has broken down.
Otherwise the recommendation of a finding is missed.  Either way the auditor
stays as it is.  The report names the listed files in order, and under each
opens its findings in order, each once. -/
theorem plain_report_iff (e : Edition) (jobs : List Job) (j : Job) :
    let auditor := session e (jobs ++ [j])
    let answer := auditor.perform plainReport
    let listsFailure := Category.failure.title ∈ listedTitles auditor.report
    ((∃ text, answer.1 = .ok text) ↔ ¬ listsFailure) ∧
      (listsFailure ↔ ∃ i ∈ jobs ++ [j], ∃ m ∈ i.modules, BreaksDown (i.services.lint m.1) m.2) ∧
      (listsFailure → ∃ f, answer.1 = .error f ∧ f.kind = "KeyError" ∧
        f.message = "'recommendation'") ∧
      answer.2.1 = auditor ∧
      ∀ text, answer.1 = .ok text → ∃ lines, plainLines (.dict auditor.report) = .ok lines ∧
        text = Text.joinWith "\n" lines ∧
        marked listingMarks lines =
          (listed auditor.report).flatMap fun d => fileHead d.1 :: d.2.map entryLine := by
  intro auditor answer listsFailure
  have hanswer : answer = (plain (.dict auditor.report), auditor, .empty) :=
    perform_plainReport auditor
  have hbroken : listsFailure ↔ ∃ i ∈ jobs ++ [j], ∃ m ∈ i.modules,
      BreaksDown (i.services.lint m.1) m.2 := by
    rw [← failure_listed_iff e (jobs ++ [j]), ← title_listed_iff]
    show _ ∈ listedTitles (session e (jobs ++ [j])).report ↔ _
    rw [session_report]
  rw [hanswer]
  unfold plain
  rcases plainLines_session e jobs j with ⟨hfailure, hlines⟩ | ⟨hnone, lines, hlines, hmarked⟩
  · rw [hlines]
    refine ⟨iff_of_false (fun ⟨_, h⟩ => nomatch h) (fun h => h hfailure), hbroken,
      fun _ => ⟨unadvised, rfl, rfl, by decide⟩, rfl, fun _ h => nomatch h⟩
  · rw [hlines]
    refine ⟨iff_of_true ⟨_, rfl⟩ hnone, hbroken, fun h => absurd h hnone, rfl, ?_⟩
    intro text htext
    cases htext
    exact ⟨lines, rfl, rfl, hmarked⟩

end CodeAudit.Audit
