/-
  CodeAudit.Proofs.Report.Enriched
  ────────────────────────────────
  **THE SECTIONS OF THE ENRICHED REPORT.**

  The enriched report is gathered as loosely typed sections and written from
  them.  What the gates let through is a selection of fixed topics and
  measures, and each of these has the entries that its writer reads, with one
  exception: a topic of security has to be counted.

    • `opened_eq`, `raised_eq` — what is gathered when all gates can be tried,
    • `securitySection` — the lines of the topics of security, or the one
      failure when a topic is not counted,
    • `sectionLines_eq`, `criticalLines_eq` — the lines of the other sections,
    • `enrichedLines_sections` — the lines of the whole report,
    • `marked_enriched` — the rows of its table.
-/
import CodeAudit.Proofs.Report.Critical
import CodeAudit.Report.Enriched

namespace CodeAudit.Report

open CodeAudit.Data CodeAudit.Audit

/-! ## §1. Gates. -/

namespace Gate

variable {g : Gate} {metrics : Value}

/-- Whether a gate opens; one that cannot be tried does not. -/
def isOpen (g : Gate) (metrics : Value) : Bool := (g.opens metrics).toOption.getD false

/-- The value behind a gate; null if there is none. -/
def reading (g : Gate) (metrics : Value) : Value := (g.value metrics).toOption.getD .null

theorem opens_eq (h : ∃ b, g.opens metrics = .ok b) : g.opens metrics = .ok (g.isOpen metrics) := by
  obtain ⟨b, hb⟩ := h
  rw [isOpen, hb]
  rfl

/-- A gate that can be tried has a value behind it. -/
theorem value_eq (h : ∃ b, g.opens metrics = .ok b) :
    g.value metrics = .ok (g.reading metrics) := by
  obtain ⟨b, hb⟩ := h
  unfold opens at hb
  unfold reading
  cases hv : g.value metrics with
  | error e =>
      rw [hv] at hb
      cases hb
  | ok v => rfl

end Gate

/-- When all gates can be tried, those that open are selected. -/
theorem opened_eq {α : Type} {gate : α → Gate} {metrics : Value} {all : List α}
    (h : ∀ a ∈ all, ∃ b, (gate a).opens metrics = .ok b) :
    opened gate metrics all = .ok (all.filter fun a => (gate a).isOpen metrics) :=
  filterM_eq fun a ha => Gate.opens_eq (h a ha)

/-- The topics of a list that are raised. -/
def raisedAmong (metrics : Value) (topics : List Topic) : List Topic :=
  topics.filter fun t => t.gate.isOpen metrics

/-- A topic as an entry of a report, with the value behind its gate. -/
def topicValue (metrics : Value) (t : Topic) : Value := t.toValue (t.gate.reading metrics)

/-- When all gates can be tried, the topics behind open ones are raised. -/
theorem raised_eq {topics : List Topic} {metrics : Value}
    (h : ∀ t ∈ topics, ∃ b, t.gate.opens metrics = .ok b) :
    raised topics metrics = .ok ((raisedAmong metrics topics).map (topicValue metrics)) := by
  unfold raised
  rw [opened_eq h]
  refine mapM_eq_map fun t ht => ?_
  rw [Gate.value_eq (h t (List.mem_of_mem_filter ht))]
  rfl

/-! ## §2. Items of the sections. -/

/-- A line for each item. -/
def bullets (items : List String) : List String := items.map ("- " ++ ·)

theorem bulletLines_texts (items : List String) :
    bulletLines (texts items) = .ok ((bullets items).map .text) := by
  show Except.ok ((items.map Value.text).map fun v => Value.text ("- " ++ v.display)) = _
  unfold bullets
  rw [List.map_map, List.map_map]
  rfl

/-- The lines of a topic behind its head. -/
def topicBlock (t : Topic) : List String :=
  ["**Description**: " ++ t.description, "**Recommandations**:"] ++ bullets t.recommendations
    ++ ["**Ressources**:"] ++ bullets t.resources ++ [""]

theorem topicLines_toValue (t : Topic) (v : Value) :
    topicLines (t.toValue v) = .ok ((topicBlock t).map .text) := by
  have hfields : topicLines (t.toValue v) = (do
      let recommendations ← bulletLines (texts t.recommendations)
      let resources ← bulletLines (texts t.resources)
      .ok ([.text ("**Description**: " ++ t.description), .text "**Recommandations**:"]
        ++ recommendations ++ [.text "**Ressources**:"] ++ resources ++ [.text ""])) := by
    obtain ⟨gate, amount, category, issue, severity, description, recommendations, resources⟩ := t
    cases amount <;> rfl
  rw [hfields, bulletLines_texts, bulletLines_texts]
  simp [topicBlock]

/-- The lines of a counted topic of security. -/
def securityBlock (metrics : Value) (t : Topic) : List String :=
  ("### " ++ t.issue ++ " (" ++ (t.gate.reading metrics).display ++ " occurrences, Severity: "
    ++ t.severity) :: topicBlock t

/-- The failure of a topic of security that is not counted. -/
def uncounted : Failure := .missingKey "count"

/-- A topic of security can be written if and only if it is counted. -/
theorem securityLines_topicValue (metrics : Value) (t : Topic) :
    securityLines (topicValue metrics t) =
      if t.amount == .count then .ok ((securityBlock metrics t).map .text)
      else .error uncounted := by
  unfold securityLines topicValue
  rw [topicLines_toValue]
  obtain ⟨gate, amount, category, issue, severity, description, recommendations, resources⟩ := t
  cases amount <;> rfl

/-- Whether a topic shows a value. -/
def Topic.isMeasured (t : Topic) : Bool := t.amount == .value || t.amount == .lines

/-- What a topic of quality shows of its value. -/
def amountShown (metrics : Value) (t : Topic) : String :=
  if t.amount == .lines then (t.gate.reading metrics).display ++ " lignes en moyenne"
  else (t.gate.reading metrics).display

/-- The lines of a topic of quality. -/
def qualityBlock (metrics : Value) (t : Topic) : List String :=
  ("### " ++ t.issue ++ " (Valeur: " ++ amountShown metrics t ++ ", Severity: " ++ t.severity)
    :: topicBlock t

theorem qualityLines_topicValue (metrics : Value) {t : Topic} (h : t.isMeasured = true) :
    qualityLines (topicValue metrics t) = .ok ((qualityBlock metrics t).map .text) := by
  unfold qualityLines topicValue
  rw [topicLines_toValue]
  obtain ⟨gate, amount, category, issue, severity, description, recommendations, resources⟩ := t
  cases amount with
  | value => rfl
  | lines => rfl
  | count => cases h
  | hidden => cases h

/-- The lines of a measure. -/
def measureBlock (m : Measure) : List String :=
  ["### " ++ m.action ++ " (Priorité: " ++ m.priority ++ ")", "**Étapes**:"] ++ bullets m.steps
    ++ ["**Temps estimé**: " ++ m.time, ""]

theorem measureLines_toValue (m : Measure) :
    measureLines m.toValue = .ok ((measureBlock m).map .text) := by
  have hfields : measureLines m.toValue = (do
      let steps ← bulletLines (texts m.steps)
      .ok ([.text ("### " ++ m.action ++ " (Priorité: " ++ m.priority ++ ")"),
        .text "**Étapes**:"] ++ steps ++ [.text ("**Temps estimé**: " ++ m.time), .text ""])) := rfl
  rw [hfields, bulletLines_texts]
  simp [measureBlock]

/-- The lines of a phase. -/
def phaseBlock (p : Phase) : List String :=
  ["### " ++ p.phase ++ " (" ++ p.timeline ++ ")", "**Responsable**: " ++ p.owner, "**Actions**:"]
    ++ bullets p.actions ++ [""]

theorem phaseLines_toValue (p : Phase) :
    phaseLines p.toValue = .ok ((phaseBlock p).map .text) := by
  have hfields : phaseLines p.toValue = (do
      let actions ← bulletLines (texts p.actions)
      .ok ([.text ("### " ++ p.phase ++ " (" ++ p.timeline ++ ")"),
        .text ("**Responsable**: " ++ p.owner), .text "**Actions**:"] ++ actions ++ [.text ""])) :=
    rfl
  rw [hfields, bulletLines_texts]
  simp [phaseBlock]

/-! ## §3. Sections. -/

/-- Items that can all be written make a section. -/
theorem sectionLines_eq {α : Type} {lines : Value → Except Failure (List Value)} {items : List α}
    {value : α → Value} {block : α → List String}
    (h : ∀ a ∈ items, lines (value a) = .ok ((block a).map .text)) :
    sectionLines lines (.list (items.map value)) = .ok ((items.flatMap block).map .text) := by
  have hitems : (items.map value).mapM lines = .ok (items.map fun a => (block a).map .text) := by
    rw [List.mapM_map]
    exact mapM_eq_map h
  show ((items.map value).mapM lines >>= fun found => .ok found.flatten) = _
  rw [hitems, List.map_flatMap]
  rfl

/-- **The topics of security can be written if and only if all are counted.** -/
theorem securitySection (metrics : Value) (topics : List Topic) :
    sectionLines securityLines (.list (topics.map (topicValue metrics))) =
      if topics.all (·.amount == .count) then
        .ok ((topics.flatMap (securityBlock metrics)).map .text)
      else .error uncounted := by
  have hitems : (topics.map (topicValue metrics)).mapM securityLines =
      if topics.all (·.amount == .count) then
        .ok (topics.map fun t => (securityBlock metrics t).map .text)
      else .error uncounted := by
    rw [List.mapM_map]
    exact mapM_eq_ite fun t _ => securityLines_topicValue metrics t
  -- All failures are one, so it does not matter which topic comes first.
  show ((topics.map (topicValue metrics)).mapM securityLines >>= fun found => .ok found.flatten) = _
  rw [hitems]
  cases topics.all (·.amount == .count) with
  | false => rfl
  | true =>
      rw [if_pos rfl, if_pos rfl, List.map_flatMap]
      rfl

/-- The row of a serious finding of a file. -/
def rowLine (file : String) (finding : Dict) : String :=
  "| " ++ file ++ " | " ++ shown finding "line" ++ " | " ++ shown finding "type" ++ " | "
    ++ shown finding "severity" ++ " | " ++ shown finding "message" ++ " |"

/-- The head of the table of serious findings. -/
def tableHead : String := "| Fichier | Ligne | Type | Sévérité | Description |"

/-- The table of serious findings; there is none without a row. -/
def tableLines (rows : List String) : List String :=
  if rows.isEmpty then []
  else ["\n## Problèmes Critiques par Fichier\n", tableHead,
    "|---------|-------|------|----------|-------------|"] ++ rows

/-- The serious findings make a table with a row for each. -/
theorem criticalLines_eq (found : List (String × Dict)) :
    criticalLines (.list (found.map fun x => seriousOf x.1 x.2)) =
      .ok ((tableLines (found.map fun x => rowLine x.1 x.2)).map .text) := by
  have hrows : (found.map fun x => seriousOf x.1 x.2).mapM criticalRow =
      .ok (found.map fun x => .text (rowLine x.1 x.2)) := by
    rw [List.mapM_map]
    exact mapM_eq_map fun x _ => rfl
  unfold criticalLines
  -- Without a serious finding the table is left out, head and all.
  cases found with
  | nil => rfl
  | cons x rest =>
      have htruthy : (Value.list ((x :: rest).map fun x => seriousOf x.1 x.2)).truthy = true := rfl
      rw [if_pos htruthy]
      show (List.mapM criticalRow _ >>= fun rows => .ok (_ ++ rows)) = _
      rw [hrows]
      simp [tableLines, tableHead]

/-! ## §4. The whole report. -/

/-- The gathered sections. -/
def sectionsOf (overview : String) (security quality critical measures plan : List Value) : Value :=
  .dict [("overview", .text overview), ("security_analysis", .list security),
    ("code_quality_analysis", .list quality), ("critical_issues", .list critical),
    ("detailed_recommendations", .list measures), ("action_plan", .list plan)]

/-- Texts can be joined. -/
theorem joinLines_texts (lines : List String) :
    joinLines (lines.map .text) = .ok (Text.joinWith "\n" lines) := by
  have hgo : ∀ i, joinLines.go i (lines.map .text) = .ok lines := by
    induction lines with
    | nil => exact fun _ => rfl
    | cons line rest ih =>
        intro i
        show (joinLines.go (i + 1) (rest.map .text)).map (line :: ·) = _
        rw [ih]
        rfl
  unfold joinLines
  rw [hgo]
  rfl

/-- The lines before the table. -/
def enrichedOpening (overview : String) (metrics : Value) (security quality : List Topic) :
    List String :=
  ["# Rapport d'Analyse de Sécurité et Qualité Amélioré\n", overview,
      "\n## Analyse de Sécurité Détailée\n"] ++ security.flatMap (securityBlock metrics)
    ++ ["\n## Analyse de Qualité de Code\n"] ++ quality.flatMap (qualityBlock metrics)

/-- The lines behind the table. -/
def enrichedClosing (measures : List Measure) (phases : List Phase) : List String :=
  ["\n## Recommandations Détaillées\n"] ++ measures.flatMap measureBlock
    ++ ["\n## Plan d'Action Priorisé\n"] ++ phases.flatMap phaseBlock

/-- The sections are written one after the other. -/
theorem enrichedLines_fields (overview : String) (s q c m p : List Value) :
    enrichedLines (sectionsOf overview s q c m p) = (do
      let security ← sectionLines securityLines (.list s)
      let quality ← sectionLines qualityLines (.list q)
      let critical ← criticalLines (.list c)
      let measures ← sectionLines measureLines (.list m)
      let phases ← sectionLines phaseLines (.list p)
      .ok ([.text "# Rapport d'Analyse de Sécurité et Qualité Amélioré\n", .text overview,
          .text "\n## Analyse de Sécurité Détailée\n"] ++ security
        ++ [.text "\n## Analyse de Qualité de Code\n"] ++ quality ++ critical
        ++ [.text "\n## Recommandations Détaillées\n"] ++ measures
        ++ [.text "\n## Plan d'Action Priorisé\n"] ++ phases)) := rfl

/-- A topic of security that is not counted stops the report. -/
theorem enrichedLines_uncounted {metrics : Value} {security : List Topic}
    (h : security.all (·.amount == .count) = false) (overview : String) (q c m p : List Value) :
    enrichedLines (sectionsOf overview (security.map (topicValue metrics)) q c m p)
      = .error uncounted := by
  have huncounted := securitySection metrics security
  rw [h, if_neg Bool.false_ne_true] at huncounted
  rw [enrichedLines_fields, huncounted, error_bind]

/-- **The lines of the enriched report,** when the topics of security are counted
and those of quality measured. -/
theorem enrichedLines_sections {metrics : Value} {security quality : List Topic}
    (hsecurity : security.all (·.amount == .count) = true)
    (hquality : ∀ t ∈ quality, t.isMeasured = true) (overview : String)
    (found : List (String × Dict)) (measures : List Measure) (phases : List Phase) :
    enrichedLines (sectionsOf overview (security.map (topicValue metrics))
        (quality.map (topicValue metrics)) (found.map fun x => seriousOf x.1 x.2)
        (measures.map Measure.toValue) (phases.map Phase.toValue)) =
      .ok ((enrichedOpening overview metrics security quality
        ++ tableLines (found.map fun x => rowLine x.1 x.2)
        ++ enrichedClosing measures phases).map .text) := by
  have hcounted := securitySection metrics security
  rw [if_pos hsecurity] at hcounted
  have hmeasured := sectionLines_eq fun t ht => qualityLines_topicValue metrics (hquality t ht)
  have hmeasures := sectionLines_eq fun m (_ : m ∈ measures) => measureLines_toValue m
  have hphases := sectionLines_eq fun p (_ : p ∈ phases) => phaseLines_toValue p
  rw [enrichedLines_fields, hcounted, hmeasured, criticalLines_eq, hmeasures, hphases]
  simp [enrichedOpening, enrichedClosing]

/-- Texts that are gathered and written are joined. -/
theorem enriched_of_lines {a : Amount} {report sections : Value} {lines : List String}
    (hsections : gatherEnriched a report = .ok sections)
    (hlines : enrichedLines sections = .ok (lines.map .text)) :
    enriched a report = .ok (Text.joinWith "\n" lines) := by
  unfold enriched writeEnriched
  rw [hsections, ok_bind, hlines, ok_bind, joinLines_texts]

/-! ## §5. The lines of the table. -/

/-- How the lines of a table begin. -/
def tableMarks : List String := ["| "]

theorem marked_bullets (items : List String) : marked tableMarks (bullets items) = [] := by
  refine marked_eq_nil fun line hline => ?_
  obtain ⟨item, -, rfl⟩ := List.mem_map.mp hline
  exact marked_apart (by decide) item []

theorem marked_topicBlock (t : Topic) : marked tableMarks (topicBlock t) = [] := by
  unfold topicBlock
  simp only [marked_append, marked_bullets, List.append_nil]
  rw [marked_apart (by decide)]
  decide

theorem marked_securityBlock (metrics : Value) (t : Topic) :
    marked tableMarks (securityBlock metrics t) = [] := by
  unfold securityBlock
  simp only [String.append_assoc]
  rw [marked_apart (by decide), marked_topicBlock]

theorem marked_qualityBlock (metrics : Value) (t : Topic) :
    marked tableMarks (qualityBlock metrics t) = [] := by
  unfold qualityBlock
  simp only [String.append_assoc]
  rw [marked_apart (by decide), marked_topicBlock]

theorem marked_measureBlock (m : Measure) : marked tableMarks (measureBlock m) = [] := by
  unfold measureBlock
  simp only [marked_append, marked_bullets, List.append_nil, String.append_assoc]
  rw [marked_apart (by decide), marked_apart (by decide)]
  decide

theorem marked_phaseBlock (p : Phase) : marked tableMarks (phaseBlock p) = [] := by
  unfold phaseBlock
  simp only [marked_append, marked_bullets, List.append_nil, String.append_assoc]
  rw [marked_apart (by decide), marked_apart (by decide)]
  decide

/-- The rows of a table with its head; without a row there is neither. -/
def tableOf (rows : List String) : List String := if rows.isEmpty then [] else tableHead :: rows

theorem marked_tableLines (found : List (String × Dict)) :
    marked tableMarks (tableLines (found.map fun x => rowLine x.1 x.2)) =
      tableOf (found.map fun x => rowLine x.1 x.2) := by
  have hrows : marked tableMarks (found.map fun x => rowLine x.1 x.2) =
      found.map fun x => rowLine x.1 x.2 := by
    induction found with
    | nil => rfl
    | cons x rest ih =>
        rw [List.map_cons]
        unfold rowLine at ih ⊢
        simp only [String.append_assoc] at ih ⊢
        rw [marked_mark (by decide), ih]
  unfold tableLines tableOf
  cases found with
  | nil => rfl
  | cons x rest =>
      show marked tableMarks ([_, tableHead, _] ++ _) = tableHead :: _
      rw [marked_append, hrows]
      rfl

/-- **The table of the enriched report has one row for each serious finding,** and
no other line of the report looks like one. -/
theorem marked_enriched {overview : String} (hoverview : marked tableMarks [overview] = [])
    (metrics : Value) (security quality : List Topic) (found : List (String × Dict))
    (measures : List Measure) (phases : List Phase) :
    marked tableMarks (enrichedOpening overview metrics security quality
        ++ tableLines (found.map fun x => rowLine x.1 x.2) ++ enrichedClosing measures phases) =
      tableOf (found.map fun x => rowLine x.1 x.2) := by
  have hsecurity : marked tableMarks (security.flatMap (securityBlock metrics)) = [] :=
    marked_flatMap_eq_nil fun t _ => marked_securityBlock metrics t
  have hquality : marked tableMarks (quality.flatMap (qualityBlock metrics)) = [] :=
    marked_flatMap_eq_nil fun t _ => marked_qualityBlock metrics t
  have hmeasures : marked tableMarks (measures.flatMap measureBlock) = [] :=
    marked_flatMap_eq_nil fun m _ => marked_measureBlock m
  have hphases : marked tableMarks (phases.flatMap phaseBlock) = [] :=
    marked_flatMap_eq_nil fun p _ => marked_phaseBlock p
  have hopening : marked tableMarks (enrichedOpening overview metrics security quality) = [] := by
    unfold enrichedOpening
    simp only [marked_append, hsecurity, hquality, List.append_nil]
    rw [marked_fixed (by decide), ← List.singleton_append, marked_append, hoverview]
    decide
  have hclosing : marked tableMarks (enrichedClosing measures phases) = [] := by
    unfold enrichedClosing
    simp only [marked_append, hmeasures, hphases, List.append_nil]
    decide
  rw [marked_append, marked_append, hopening, hclosing, marked_tableLines, List.nil_append,
    List.append_nil]

end CodeAudit.Report
