/-
  CodeAudit.Proofs.Walks
  ──────────────────────
  **WHAT A WALK FINDS POINTS INTO THE TEXT.**

  A walk hands every node of a tree to every check.  `walkFindings` is what
  comes of it: all findings in order, or the failure of the first check that
  fails.  On a tree whose lines are lines of the text no check fails, and
  whatever is found names the line of its node and quotes it.

    • `walkFindings_ok` — a walk comes to its end,
    • `made_treeSteps` — the steps of a file's audit make these findings,
    • `reports_walk` — a finding of a walk is a check's report about a node,
    • `walk_findings_point_into_text` — so it has all that a report reads:
      a line of the text, the line itself, a severity and three texts.
-/
import CodeAudit.Proofs.Classes

namespace CodeAudit.Audit

open CodeAudit.Data CodeAudit.Source
open CodeAudit.Text (Wording)

/-! ## §1. Walks. -/

/-- What the checks find at a node, in order. -/
def nodeFindings (k : Keywords) (lines : SourceLines) (n : Node) : Except Failure (List Finding) :=
  (Check.all.mapM fun (c : Check) => c.run k lines n).map List.flatten

/-- What a walk through the tree of a text finds, node by node. -/
def walkFindings (k : Keywords) (text : List Char) (tree : Node) : Except Failure (List Finding) :=
  (tree.walk.mapM (nodeFindings k (SourceLines.of text))).map List.flatten

/-- Every node of a tree is lineless or on a line of the text. -/
def OnLines (text : List Char) (tree : Node) : Prop :=
  ∀ n ∈ tree.walk, n.lineless = true ∨ LineOf text n.line

/-- The tree of a text with line feeds only is on the lines of the text. -/
theorem onLines_of_parse {text : List Char} {tree : Node} (hclean : '\r' ∉ text)
    (h : parse text = .ok tree) : OnLines text tree :=
  fun _ hn => line_of_mem_walk (parse_linesIn hclean h) hn

/-- **A walk over lines of the text comes to its end.** -/
theorem walkFindings_ok (k : Keywords) {text : List Char} {tree : Node} (h : OnLines text tree) :
    ∃ found, walkFindings k text tree = .ok found := by
  have hnode : ∀ n ∈ tree.walk, ∃ fs, nodeFindings k (SourceLines.of text) n = .ok fs := by
    intro n hn
    have hchecks : ∀ c ∈ Check.all, ∃ fs, c.run k (SourceLines.of text) n = .ok fs :=
      fun c _ => run_ok c k (h n hn)
    obtain ⟨parts, hparts⟩ := mapM_ok hchecks
    refine ⟨parts.flatten, ?_⟩
    unfold nodeFindings
    rw [hparts]
    rfl
  obtain ⟨parts, hparts⟩ := mapM_ok hnode
  refine ⟨parts.flatten, ?_⟩
  unfold walkFindings
  rw [hparts]
  rfl

/-! The steps of an audit make the findings of the walk, in the same order. -/

/-- The finding that a step makes. -/
def Step.made? : Step → Option Finding
  | .find f => some f
  | _ => none

/-- Raising counters makes no finding. -/
theorem made_countSteps (counts : List (Counter × Int)) :
    (countSteps counts).filterMap Step.made? = [] := by
  refine List.filterMap_eq_nil_iff.mpr fun s hs => ?_
  obtain ⟨p, -, rfl⟩ := List.mem_map.mp hs
  rfl

/-- Steps taken for item after item make what is found for item after item. -/
theorem made_flatMap {α : Type} {found : α → Except Failure (List Finding)} {steps : α → List Step}
    (hstep : ∀ x fs, found x = .ok fs → (steps x).filterMap Step.made? = fs) {xs : List α}
    {parts : List (List Finding)} (h : xs.mapM found = .ok parts) :
    (xs.flatMap steps).filterMap Step.made? = parts.flatten := by
  induction xs generalizing parts with
  | nil =>
      cases h
      rfl
  | cons x rest ih =>
      rw [List.mapM_cons] at h
      obtain ⟨fs, hfs, h⟩ := bind_eq_ok h
      obtain ⟨more, hmore, h⟩ := bind_eq_ok h
      cases h
      rw [List.flatMap_cons, List.filterMap_append, hstep x fs hfs, ih hmore, List.flatten_cons]

/-- A check that finds something has a step for each finding. -/
theorem made_checkSteps {k : Keywords} {lines : SourceLines} {n : Node} (c : Check)
    (fs : List Finding) (h : c.run k lines n = .ok fs) :
    (checkSteps k lines n c).filterMap Step.made? = fs := by
  unfold checkSteps
  rw [h]
  show (fs.map Step.find).filterMap Step.made? = fs
  rw [List.filterMap_map]
  exact List.filterMap_some

/-- The checks at a node have a step for each finding. -/
theorem made_nodeSteps {k : Keywords} {lines : SourceLines} (n : Node) (fs : List Finding)
    (h : nodeFindings k lines n = .ok fs) : (nodeSteps k lines n).filterMap Step.made? = fs := by
  obtain ⟨parts, hparts, rfl⟩ := map_eq_ok h
  unfold nodeSteps
  rw [List.filterMap_append, made_countSteps, List.append_nil]
  exact made_flatMap made_checkSteps hparts

/-- **The steps of a tree make the findings of its walk.** -/
theorem made_treeSteps {k : Keywords} {text : List Char} {tree : Node} {found : List Finding}
    (h : walkFindings k text tree = .ok found) :
    (treeSteps k text tree).filterMap Step.made? = found := by
  obtain ⟨parts, hparts, rfl⟩ := map_eq_ok h
  have hmeets : (tree.declarations.map Step.meet).filterMap Step.made? = [] := by
    refine List.filterMap_eq_nil_iff.mpr fun s hs => ?_
    obtain ⟨d, -, rfl⟩ := List.mem_map.mp hs
    rfl
  unfold treeSteps
  rw [List.filterMap_append, List.filterMap_append, made_countSteps, hmeets]
  exact made_flatMap made_nodeSteps hparts

/-- **The steps of a tree on lines of the text go on to the end of the walk.** -/
theorem goOn_of_onLines (k : Keywords) {text : List Char} {tree : Node} (h : OnLines text tree) :
    GoOn (treeSteps k text tree) :=
  .append (.append (countSteps_goOn _) (.map _ fun _ => rfl))
    (.flatMap fun n hn => nodeSteps_goOn k (h n hn))

/-- **A finding of a walk is what a check reports about a node**, and quotes the
line of the node. -/
theorem reports_walk {k : Keywords} {text : List Char} {tree : Node} {found : List Finding}
    (h : walkFindings k text tree = .ok found) {f : Finding} (hf : f ∈ found) :
    ∃ n ∈ tree.walk, n.lineless = false ∧ ∃ (c : Check) (excerpt : String),
      (SourceLines.of text).excerpt n.line = .ok excerpt ∧ c.Reports n excerpt f := by
  obtain ⟨parts, hparts, rfl⟩ := map_eq_ok h
  obtain ⟨atNode, hatNode, hf⟩ := List.mem_flatten.mp hf
  obtain ⟨n, hn, hnode⟩ := mem_of_mapM_ok hparts hatNode
  obtain ⟨byCheck, hbyCheck, rfl⟩ := map_eq_ok hnode
  obtain ⟨fs, hfs, hf⟩ := List.mem_flatten.mp hf
  obtain ⟨c, -, hrun⟩ := mem_of_mapM_ok hbyCheck hfs
  obtain ⟨hlined, excerpt, hexcerpt, hreports⟩ := reports_run c hrun hf
  exact ⟨n, hn, hlined, c, excerpt, hexcerpt, hreports⟩

/-! ## §2. The entries of a finding. -/

namespace Finding

theorem get?_line (f : Finding) : Dict.get? f.toDict "line" = some (match f.line with
    | some n => .int n
    | none => .text "N/A") := rfl

theorem get?_type (f : Finding) : Dict.get? f.toDict "type" = some (.text f.category.title) := rfl

theorem get?_message (f : Finding) :
    Dict.get? f.toDict "message" = some (.ofWording f.message) := rfl

theorem get?_severity (f : Finding) :
    Dict.get? f.toDict "severity" = some (.text f.category.severity.word) := rfl

/-- What may be absent is there when the finding has it. -/
theorem get?_recommendation (f : Finding) :
    Dict.get? f.toDict "recommendation" = f.recommendation.map .ofWording := by
  obtain ⟨_, _, _, recommendation, excerpt, subtype⟩ := f
  cases recommendation <;> cases excerpt <;> cases subtype <;> rfl

theorem get?_excerpt (f : Finding) :
    Dict.get? f.toDict "code_excerpt" = f.excerpt.map .text := by
  obtain ⟨_, _, _, recommendation, excerpt, subtype⟩ := f
  cases recommendation <;> cases excerpt <;> cases subtype <;> rfl

theorem get?_subtype (f : Finding) : Dict.get? f.toDict "subtype" = f.subtype.map .text := by
  obtain ⟨_, _, _, recommendation, excerpt, subtype⟩ := f
  cases recommendation <;> cases excerpt <;> cases subtype <;> rfl

end Finding

/-! ## §3. Findings that point into the text. -/

/-- The message about a variable names it in small letters. -/
def variableMessage (id : String) : String :=
  "Variable sensible détectée: '" ++ Text.lower id ++ "'"

/-- The entries of a finding about a node are complete and point into the text. -/
structure Finding.PointsInto (f : Finding) (text : List Char) (n : Node) : Prop where
  /-- The line is one of the text, and is the node's. -/
  line : LineOf text n.line ∧ Dict.get? f.toDict "line" = some (.int n.line)
  /-- The excerpt is that line, stripped. -/
  excerpt : ∃ quoted, (Text.splitLines text)[n.line - 1]? = some quoted ∧
    Dict.get? f.toDict "code_excerpt" = some (.text (String.ofList (Text.trim quoted)))
  severity : ∃ word ∈ ["critical", "high", "medium", "info"],
    Dict.get? f.toDict "severity" = some (.text word)
  texts : ∀ key ∈ ["type", "message", "recommendation"],
    ∃ s, Dict.get? f.toDict key = some (.text s)
  /-- Injected queries are critical, and nothing else is. -/
  critical : Dict.get? f.toDict "severity" = some (.text "critical") ↔
    Dict.get? f.toDict "type" = some (.text "Injection SQL potentielle")
  /-- A finding about a variable is about a name that the node assigns to. -/
  named : Dict.get? f.toDict "type" = some (.text "Variable sensible") →
    ∃ id ∈ assignedNames n, Dict.get? f.toDict "message" = some (.text (variableMessage id))
  /-- Names that speak of a key have a closer description, and nothing else has. -/
  subtype : (Dict.get? f.toDict "subtype").isSome = true ↔
    Dict.get? f.toDict "type" = some (.text "Variable sensible") ∧
      ∃ id ∈ assignedNames n, Dict.get? f.toDict "message" = some (.text (variableMessage id)) ∧
        (Text.occursIn "api_key".toList (Text.lower id).toList = true ∨
          Text.occursIn "access_token".toList (Text.lower id).toList = true)

/-- A message names one variable. -/
theorem lower_of_variableMessage {a b : String} (h : variableMessage a = variableMessage b) :
    Text.lower a = Text.lower b := by
  unfold variableMessage at h
  exact String.append_right_inj _ |>.mp (String.append_left_inj _ |>.mp h)

/-- Only the category of a check decides which check it was. -/
theorem check_sensitive_iff (c : Check) :
    c.category.title = "Variable sensible" ↔ c = .sensitive := by
  cases c <;> decide

/-- **What a check reports about a node of the text points into the text.** -/
theorem pointsInto_of_reports {c : Check} {n : Node} {text : List Char} {excerpt : String}
    {f : Finding} (hline : LineOf text n.line)
    (hexcerpt : (SourceLines.of text).excerpt n.line = .ok excerpt) (h : c.Reports n excerpt f) :
    f.PointsInto text n := by
  have htype : Dict.get? f.toDict "type" = some (.text c.category.title) := by
    rw [Finding.get?_type, h.made.category]
  have hseverity : Dict.get? f.toDict "severity" = some (.text c.category.severity.word) := by
    rw [Finding.get?_severity, h.made.category]
  have hsensitive : Dict.get? f.toDict "type" = some (.text "Variable sensible") ↔
      c = .sensitive := by
    rw [htype, ← check_sensitive_iff]
    simp
  have hmessage : ∀ id, Dict.get? f.toDict "message" = some (.text (variableMessage id)) ↔
      f.message = .whole (variableMessage id) := by
    intro id
    rw [Finding.get?_message]
    simp
  have hsubtype : (Dict.get? f.toDict "subtype").isSome = f.subtype.isSome := by
    rw [Finding.get?_subtype, Option.isSome_map]
  refine ⟨⟨hline, ?_⟩, ?_, ?_, ?_, ?_, ?_, ?_⟩
  · rw [Finding.get?_line, h.line]
  · -- The line was found in the text, for its excerpt was made of it.
    unfold SourceLines.excerpt SourceLines.of at hexcerpt
    rw [List.getElem?_toArray] at hexcerpt
    split at hexcerpt
    · rename_i quoted hquoted
      cases hexcerpt
      exact ⟨quoted, hquoted, by rw [Finding.get?_excerpt, h.excerpt]; rfl⟩
    · cases hexcerpt
  · exact ⟨_, by cases c <;> decide, hseverity⟩
  · -- What a check says and recommends are whole texts.
    obtain ⟨hmessage, hwhole⟩ := Bool.and_eq_true_iff.mp h.made.whole
    obtain ⟨m, hm⟩ := Wording.isWhole_iff.mp hmessage
    obtain ⟨w, hw⟩ := Option.isSome_iff_exists.mp h.made.recommended
    rw [hw] at hwhole
    obtain ⟨s, rfl⟩ := Wording.isWhole_iff.mp hwhole
    intro key hkey
    simp only [List.mem_cons, List.not_mem_nil, or_false] at hkey
    rcases hkey with rfl | rfl | rfl
    · exact ⟨_, htype⟩
    · exact ⟨m, by rw [Finding.get?_message, hm]; rfl⟩
    · exact ⟨s, by rw [Finding.get?_recommendation, hw]; rfl⟩
  · rw [hseverity, htype]
    cases c <;> simp [Check.category, Category.severity, Category.title, Severity.word]
  · intro hvariable
    obtain ⟨id, hid, hnamed, -⟩ := h.named (hsensitive.mp hvariable)
    exact ⟨id, hid, (hmessage id).mpr hnamed⟩
  · rw [hsubtype, hsensitive]
    constructor
    · intro hsome
      have hc : c = .sensitive := by
        by_contra hne
        rw [h.plain hne] at hsome
        cases hsome
      obtain ⟨id, hid, hnamed, hexposes⟩ := h.named hc
      rw [hexposes, exposesKey, Bool.or_eq_true] at hsome
      exact ⟨hc, id, hid, (hmessage id).mpr hnamed, hsome⟩
    · -- The message tells the name, so it is the one that the check had.
      rintro ⟨hc, id, -, hid, hspeaks⟩
      obtain ⟨other, -, hnamed, hexposes⟩ := h.named hc
      have hsame : Text.lower other = Text.lower id :=
        lower_of_variableMessage (Wording.whole.inj (hnamed.symm.trans ((hmessage id).mp hid)))
      rw [hexposes, hsame, exposesKey, Bool.or_eq_true]
      exact hspeaks

/-- **Every finding of a walk is complete and points into the text.**  The tree of
a text with line feeds only is on the lines of the text; and on a tree that is,
no check fails and no step of the audit halts, and each finding is about a node
of the tree. -/
theorem walk_findings_point_into_text (k : Keywords) {text : List Char} {tree : Node}
    (h : parse text = .ok tree) :
    ('\r' ∉ text → OnLines text tree) ∧
    (OnLines text tree → ∃ found, walkFindings k text tree = .ok found ∧
      GoOn (treeSteps k text tree) ∧ (treeSteps k text tree).filterMap Step.made? = found ∧
      ∀ f ∈ found, ∃ n ∈ tree.walk, f.PointsInto text n) := by
  refine ⟨fun hclean => onLines_of_parse hclean h, fun hlines => ?_⟩
  obtain ⟨found, hfound⟩ := walkFindings_ok k hlines
  refine ⟨found, hfound, goOn_of_onLines k hlines, made_treeSteps hfound, fun f hf => ?_⟩
  obtain ⟨n, hn, hlined, c, excerpt, hexcerpt, hreports⟩ := reports_walk hfound hf
  have hline : LineOf text n.line := by
    rcases hlines n hn with hnone | hline
    · rw [hlined] at hnone
      cases hnone
    · exact hline
  exact ⟨n, hn, pointsInto_of_reports hline hexcerpt hreports⟩

/-- An assignment to a name that speaks of a key: one finding, on the one line. -/
theorem walk_findings_point_into_text_key :
    ∃ tree found, parse "API_KEY = 1\n".toList = .ok tree ∧
      walkFindings .standard "API_KEY = 1\n".toList tree = .ok found ∧ found.length = 1 ∧
      ∀ f ∈ found, ∃ n ∈ tree.walk, f.PointsInto "API_KEY = 1\n".toList n := by
  have hcount : ((parse "API_KEY = 1\n".toList).toOption.bind fun tree =>
      (walkFindings .standard "API_KEY = 1\n".toList tree).toOption.map List.length)
        = some 1 := by
    decide +kernel
  obtain ⟨tree, htree, hcount⟩ := Option.bind_eq_some_iff.mp hcount
  have hparse : parse "API_KEY = 1\n".toList = .ok tree := by
    cases h : parse "API_KEY = 1\n".toList with
    | error flaw =>
        rw [h] at htree
        cases htree
    | ok other =>
        rw [h] at htree
        cases htree
        rfl
  obtain ⟨hlines, hfound⟩ := walk_findings_point_into_text .standard hparse
  obtain ⟨found, hfound, -, -, hall⟩ := hfound (hlines (by decide))
  refine ⟨tree, found, hparse, hfound, ?_, hall⟩
  rw [hfound] at hcount
  exact Option.some.inj hcount

end CodeAudit.Audit
