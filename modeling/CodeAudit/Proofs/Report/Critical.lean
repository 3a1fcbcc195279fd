/-
  CodeAudit.Proofs.Report.Critical
  ────────────────────────────────
  **THE SERIOUS FINDINGS OF A REPORT.**

  The serious findings of a report are those of severity critical, in the
  order of the report, and behind them those of severity high, in that order
  too.  This holds of every report whose findings have a line, a type, a
  severity and a message, whoever has made it.

    • `seriousEntry_eq` — what is kept of one finding,
    • `criticalFirst_eq` — the sort parts the findings and keeps their order,
    • `visitFindings_eq` — a visit that succeeds on every finding,
    • `criticalFindings_eq` — the serious findings of a report,
    • `seriousOf_of_criticalFindings` — what is found in any report at all,
    • `serious_findings_parted` — the two parts, each in the order of the report.
-/
import CodeAudit.Proofs.Fallible
import CodeAudit.Proofs.Listed
import CodeAudit.Proofs.Report.Lines
import CodeAudit.Report.Critical
import Mathlib.Data.Set.List

namespace CodeAudit.Report

open CodeAudit.Data CodeAudit.Audit

/-! ## §1. One finding. -/

/-- A finding has the entries that a table of findings shows. -/
def Carries (finding : Dict) : Prop :=
  ∀ key ∈ ["line", "type", "severity", "message"], ∃ v, Dict.get? finding key = some v

/-- Whether a finding is of a severity. -/
def graded (severity : String) (finding : Dict) : Bool :=
  (Dict.get? finding "severity").any (·.isText severity)

/-- Whether a finding is serious. -/
def isSerious (finding : Dict) : Bool := graded "critical" finding || graded "high" finding

/-- The entry of a finding, null if there is none. -/
def entryOf (finding : Dict) (key : String) : Value := (Dict.get? finding key).getD .null

/-- A finding of a file as the table of serious findings takes it. -/
def seriousOf (file : String) (finding : Dict) : Value :=
  .dict [("file", .text file), ("line", entryOf finding "line"), ("type", entryOf finding "type"),
    ("severity", entryOf finding "severity"), ("description", entryOf finding "message"),
    ("recommendation", (Dict.get? finding "recommendation").getD (.text ""))]

/-- A serious finding is kept and any other is not. -/
theorem seriousEntry_eq {finding : Dict} (h : Carries finding) (file : String) :
    seriousEntry file (.dict finding) =
      .ok (if isSerious finding then some (seriousOf file finding) else none) := by
  obtain ⟨line, hline⟩ := h "line" (by decide)
  obtain ⟨type, htype⟩ := h "type" (by decide)
  obtain ⟨severity, hseverity⟩ := h "severity" (by decide)
  obtain ⟨message, hmessage⟩ := h "message" (by decide)
  have hserious : isSerious finding = (severity.isText "critical" || severity.isText "high") := by
    simp [isSerious, graded, hseverity]
  have hentry : seriousOf file finding = .dict [("file", .text file), ("line", line),
      ("type", type), ("severity", severity), ("description", message),
      ("recommendation", (Dict.get? finding "recommendation").getD (.text ""))] := by
    simp [seriousOf, entryOf, hline, htype, hseverity, hmessage]
  unfold seriousEntry
  simp only [field_of_get? hseverity, field_of_get? hline, field_of_get? htype,
    field_of_get? hmessage, Value.fieldOr, ok_bind, hserious, hentry]
  split <;> rfl

/-- Critical entries are told apart from high ones. -/
theorem isCritical_seriousOf (file : String) (finding : Dict) :
    isCritical (seriousOf file finding) = graded "critical" finding := by
  show (entryOf finding "severity").isText "critical" = _
  unfold entryOf graded
  cases Dict.get? finding "severity" with
  | none => rfl
  | some v => rfl

/-- No severity is two words. -/
theorem not_graded_critical {finding : Dict} (h : graded "high" finding = true) :
    graded "critical" finding = false := by
  unfold graded at h ⊢
  cases hseverity : Dict.get? finding "severity" with
  | none => rfl
  | some v =>
      rw [hseverity] at h
      cases v with
      | text s =>
          have hs : s = "high" := by simpa [Value.isText] using h
          subst hs
          decide
      | _ => rfl

/-- What is serious and not critical is high. -/
theorem not_isCritical_seriousOf {finding : Dict} (h : isSerious finding = true) (file : String) :
    (!isCritical (seriousOf file finding)) = graded "high" finding := by
  rw [isCritical_seriousOf]
  cases hhigh : graded "high" finding with
  | true => rw [not_graded_critical hhigh]; rfl
  | false =>
      rw [isSerious, hhigh, Bool.or_false] at h
      rw [h]
      rfl

/-! ## §2. By urgency. -/

theorem urgency_trans (a b c : Value) (hab : decide (urgency a ≤ urgency b) = true)
    (hbc : decide (urgency b ≤ urgency c) = true) : decide (urgency a ≤ urgency c) = true :=
  decide_eq_true (Nat.le_trans (of_decide_eq_true hab) (of_decide_eq_true hbc))

theorem urgency_total (a b : Value) :
    (decide (urgency a ≤ urgency b) || decide (urgency b ≤ urgency a)) = true := by
  rw [Bool.or_eq_true, decide_eq_true_eq, decide_eq_true_eq]
  exact Nat.le_total _ _

/-- Entries of one urgency stay in the order in which they came. -/
theorem filter_criticalFirst {p : Value → Bool}
    (hp : ∀ a b, p a = true → p b = true → urgency a ≤ urgency b) (entries : List Value) :
    (criticalFirst entries).filter p = entries.filter p := by
  have hclass : (entries.filter p).Pairwise fun a b => decide (urgency a ≤ urgency b) = true := by
    refine List.pairwise_of_forall_mem_list fun a ha b hb => decide_eq_true ?_
    exact hp a b (List.mem_filter.mp ha).2 (List.mem_filter.mp hb).2
  -- A part that is in order already is still there in that order, and the sort adds nothing to it.
  have hstable : (entries.filter p).Sublist (criticalFirst entries) :=
    List.sublist_mergeSort urgency_trans urgency_total hclass List.filter_sublist
  have hkept : (entries.filter p).Sublist ((criticalFirst entries).filter p) := by
    have h := hstable.filter p
    simpa only [List.filter_filter, Bool.and_self] using h
  have hlength : ((criticalFirst entries).filter p).length = (entries.filter p).length :=
    ((List.mergeSort_perm entries _).filter p).length_eq
  exact (hkept.eq_of_length hlength.symm).symm

/-- What is in order of urgency has its critical entries in front. -/
theorem eq_filter_append {entries : List Value}
    (h : entries.Pairwise fun a b => decide (urgency a ≤ urgency b) = true) :
    entries = entries.filter isCritical ++ entries.filter (!isCritical ·) := by
  induction entries with
  | nil => rfl
  | cons entry rest ih =>
      obtain ⟨hfirst, hrest⟩ := List.pairwise_cons.mp h
      cases hentry : isCritical entry with
      | true =>
          rw [List.filter_cons_of_pos hentry, List.filter_cons_of_neg (by simp [hentry]),
            List.cons_append, ← ih hrest]
      | false =>
          -- Nothing behind it comes before it, so nothing behind it is critical.
          have hnone : ∀ e ∈ rest, isCritical e = false := by
            intro e he
            have hle : urgency entry ≤ urgency e := of_decide_eq_true (hfirst e he)
            cases hcritical : isCritical e with
            | false => rfl
            | true => simp [urgency, hentry, hcritical] at hle
          have hfront : (entry :: rest).filter isCritical = [] := by
            rw [List.filter_eq_nil_iff]
            intro e he
            rcases List.mem_cons.mp he with rfl | he
            · simp [hentry]
            · simp [hnone e he]
          have hbehind : (entry :: rest).filter (!isCritical ·) = entry :: rest := by
            rw [List.filter_eq_self]
            intro e he
            rcases List.mem_cons.mp he with rfl | he
            · simp [hentry]
            · simp [hnone e he]
          rw [hfront, hbehind, List.nil_append]

/-- **Sorting by urgency parts the entries:** the critical ones in their order, and
behind them the others in theirs. -/
theorem criticalFirst_eq (entries : List Value) :
    criticalFirst entries = entries.filter isCritical ++ entries.filter (!isCritical ·) := by
  have hsorted : (criticalFirst entries).Pairwise
      fun a b => decide (urgency a ≤ urgency b) = true :=
    List.pairwise_mergeSort urgency_trans urgency_total entries
  have hcritical := filter_criticalFirst (p := isCritical) (fun a b ha hb => by
    simp [urgency, ha, hb]) entries
  have hothers := filter_criticalFirst (p := (!isCritical ·)) (fun a b ha hb => by
    rw [Bool.not_eq_true'] at ha hb
    simp [urgency, ha, hb]) entries
  rw [eq_filter_append hsorted, hcritical, hothers]

/-! ## §3. All findings. -/

/-- Findings by file, as a report holds them. -/
def filesValue (files : List (String × List Dict)) : Value :=
  .dict (files.map fun d => (d.1, .list (d.2.map .dict)))

/-- A visit that succeeds on every finding gives one result for each. -/
theorem visitFindings_eq {α : Type} {report : Dict} {files : List (String × List Dict)}
    (hfiles : Dict.get? report "detailed_report" = some (filesValue files))
    {visit : String → Value → Except Failure α} {result : String × List Dict → Dict → α}
    (hvisit : ∀ d ∈ files, ∀ f ∈ d.2, visit d.1 (.dict f) = .ok (result d f)) :
    visitFindings (.dict report) visit =
      .ok (files.flatMap fun d => d.2.map (result d)) := by
  have hfound : ∀ d ∈ files, d.2.mapM (fun f => visit d.1 (.dict f)) = .ok (d.2.map (result d)) :=
    fun d hd => mapM_eq_map fun f hf => hvisit d hd f hf
  unfold visitFindings
  simp only [field_of_get? hfiles, filesValue, Value.entries, Value.items, ok_bind, List.mapM_map,
    Function.comp_def]
  rw [mapM_eq_map hfound]
  rfl

/-- The findings of a severity with their files, in order. -/
def gradedFindings (severity : String) (files : List (String × List Dict)) :
    List (String × Dict) :=
  files.flatMap fun d => (d.2.filter (graded severity)).map (d.1, ·)

/-- What is selected among the serious entries is selected among the findings. -/
theorem filter_serious {p : Value → Bool} {q : Dict → Bool}
    (hpq : ∀ file f, isSerious f = true → p (seriousOf file f) = q f)
    (hq : ∀ f, q f = true → isSerious f = true) (files : List (String × List Dict)) :
    ((files.flatMap fun d => d.2.map fun f =>
        if isSerious f then some (seriousOf d.1 f) else none).filterMap id).filter p =
      (files.flatMap fun d => (d.2.filter q).map (d.1, ·)).map fun x => seriousOf x.1 x.2 := by
  rw [List.filterMap_flatMap, List.filter_flatMap, List.map_flatMap]
  refine List.flatMap_congr fun d _ => ?_
  rw [List.map_map]
  -- Induction on the findings of one file: a finding is kept on both sides or on neither.
  induction d.2 with
  | nil => rfl
  | cons f rest ih =>
      rw [List.map_cons, List.filter_cons]
      cases hf : isSerious f with
      | false =>
          have hnot : q f = false := by
            rw [← Bool.not_eq_true]
            exact fun h => by rw [hq f h] at hf; cases hf
          rw [hnot]
          exact ih
      | true =>
          show ((seriousOf d.1 f :: _).filter p) = _
          rw [List.filter_cons, hpq d.1 f hf]
          cases q f with
          | false => exact ih
          | true => exact congrArg (seriousOf d.1 f :: ·) ih

/-- **The serious findings of a report:** the critical ones in order, then the
high ones in order. -/
theorem criticalFindings_eq {report : Dict} {files : List (String × List Dict)}
    (hfiles : Dict.get? report "detailed_report" = some (filesValue files))
    (hcarries : ∀ d ∈ files, ∀ f ∈ d.2, Carries f) :
    criticalFindings (.dict report) =
      .ok ((gradedFindings "critical" files ++ gradedFindings "high" files).map
        fun x => seriousOf x.1 x.2) := by
  have hvisit : visitFindings (.dict report) seriousEntry = .ok (files.flatMap fun d =>
      d.2.map fun f => if isSerious f then some (seriousOf d.1 f) else none) :=
    visitFindings_eq hfiles fun d hd f hf => seriousEntry_eq (hcarries d hd f hf) d.1
  have hcritical := filter_serious (p := isCritical) (q := graded "critical")
    (fun file f _ => isCritical_seriousOf file f) (fun f h => by simp [isSerious, h]) files
  have hhigh := filter_serious (p := (!isCritical ·)) (q := graded "high")
    (fun file f hf => not_isCritical_seriousOf hf file) (fun f h => by simp [isSerious, h]) files
  unfold criticalFindings
  rw [hvisit, ok_bind, criticalFirst_eq, hcritical, hhigh, List.map_append]
  rfl

/-! ## §4. Reports of any kind. -/

/-- Whatever is kept as serious has the entries of a serious finding. -/
theorem seriousOf_of_entry {file : String} {finding entry : Value}
    (h : seriousEntry file finding = .ok (some entry)) : ∃ d, seriousOf file d = entry := by
  unfold seriousEntry at h
  obtain ⟨severity, -, h⟩ := bind_eq_ok h
  split at h
  · obtain ⟨line, -, h⟩ := bind_eq_ok h
    obtain ⟨type, -, h⟩ := bind_eq_ok h
    obtain ⟨message, -, h⟩ := bind_eq_ok h
    obtain ⟨advice, -, h⟩ := bind_eq_ok h
    cases h
    exact ⟨[("line", line), ("type", type), ("severity", severity), ("message", message),
      ("recommendation", advice)], rfl⟩
  · cases h

/-- The serious findings of any report have such entries. -/
theorem seriousOf_of_criticalFindings {report : Value} {entries : List Value}
    (h : criticalFindings report = .ok entries) :
    ∃ found : List (String × Dict), found.map (fun x => seriousOf x.1 x.2) = entries := by
  unfold criticalFindings at h
  obtain ⟨visited, hvisited, h⟩ := bind_eq_ok h
  cases h
  unfold visitFindings at hvisited
  obtain ⟨details, -, hvisited⟩ := bind_eq_ok hvisited
  obtain ⟨files, -, hvisited⟩ := bind_eq_ok hvisited
  obtain ⟨results, hresults, hvisited⟩ := bind_eq_ok hvisited
  cases hvisited
  have hentries : ∀ entry ∈ criticalFirst (results.flatten.filterMap id),
      ∃ x : String × Dict, seriousOf x.1 x.2 = entry := by
    intro entry hentry
    have hmem : entry ∈ results.flatten.filterMap id := List.mem_mergeSort.mp hentry
    obtain ⟨result, hresult, rfl⟩ := List.mem_filterMap.mp hmem
    obtain ⟨ofFile, hofFile, hresult⟩ := List.mem_flatten.mp hresult
    obtain ⟨⟨file, findings⟩, -, hfile⟩ := mem_of_mapM_ok hresults hofFile
    obtain ⟨items, -, hfile⟩ := bind_eq_ok hfile
    obtain ⟨finding, -, hfinding⟩ := mem_of_mapM_ok hfile hresult
    obtain ⟨d, hd⟩ := seriousOf_of_entry hfinding
    exact ⟨(file, d), hd⟩
  have hrange : criticalFirst (results.flatten.filterMap id)
      ∈ Set.range (List.map fun x : String × Dict => seriousOf x.1 x.2) := by
    rw [Set.range_list_map]
    exact hentries
  exact hrange

/-! ## §5. Nothing lost. -/

/-- The findings of files in order, each with its file. -/
def inOrder (files : List (String × List Dict)) : List (String × Dict) :=
  files.flatMap fun d => d.2.map (d.1, ·)

/-- The findings of a severity are selected from those of all files in order. -/
theorem gradedFindings_eq (severity : String) (files : List (String × List Dict)) :
    gradedFindings severity files = (inOrder files).filter fun x => graded severity x.2 := by
  unfold gradedFindings inOrder
  rw [List.filter_flatMap]
  refine List.flatMap_congr fun d _ => ?_
  rw [List.filter_map]
  rfl

/-- Critical and high findings together are the serious ones, each as often. -/
theorem graded_perm (found : List (String × Dict)) :
    (found.filter (fun x => graded "critical" x.2) ++ found.filter fun x => graded "high" x.2).Perm
      (found.filter fun x => isSerious x.2) := by
  have hcritical : (found.filter fun x => isSerious x.2).filter (fun x => graded "critical" x.2)
      = found.filter fun x => graded "critical" x.2 := by
    rw [List.filter_filter]
    refine List.filter_congr fun x _ => ?_
    cases h : graded "critical" x.2 <;> simp [isSerious, h]
  have hhigh : (found.filter fun x => isSerious x.2).filter (fun x => !graded "critical" x.2)
      = found.filter fun x => graded "high" x.2 := by
    rw [List.filter_filter]
    refine List.filter_congr fun x _ => ?_
    cases h : graded "high" x.2 with
    | true => simp [isSerious, h, not_graded_critical h]
    | false => simp [isSerious, h]
  have hparted := List.filter_append_perm (fun x : String × Dict => graded "critical" x.2)
    (found.filter fun x => isSerious x.2)
  rwa [hcritical, hhigh] at hparted

/-- **The serious findings of a report are parted stably.**  On a report whose
findings have a line, a type, a severity and a message, what comes out are the
critical findings in the order of the report and then the high ones in that
order, each with its own file; these are all serious findings, each as often as
it is listed; and where nothing is recommended the recommendation is empty. -/
theorem serious_findings_parted {report : Dict} {files : List (String × List Dict)}
    (hfiles : Dict.get? report "detailed_report" = some (filesValue files))
    (hcarries : ∀ d ∈ files, ∀ f ∈ d.2, Carries f) :
    let critical := (inOrder files).filter fun x => graded "critical" x.2
    let high := (inOrder files).filter fun x => graded "high" x.2
    criticalFindings (.dict report)
        = .ok ((critical ++ high).map fun x => seriousOf x.1 x.2) ∧
      (critical ++ high).Perm ((inOrder files).filter fun x => isSerious x.2) ∧
      ∀ x ∈ critical ++ high, Dict.get? x.2 "recommendation" = none →
        (seriousOf x.1 x.2).field "recommendation" = .ok (.text "") := by
  refine ⟨?_, graded_perm _, fun x _ hnone => ?_⟩
  · rw [criticalFindings_eq hfiles hcarries, gradedFindings_eq, gradedFindings_eq]
  · have hentry : (seriousOf x.1 x.2).field "recommendation"
        = .ok ((Dict.get? x.2 "recommendation").getD (.text "")) := rfl
    rw [hentry, hnone]
    rfl

/-- A finding with nothing but what a table shows. -/
def bareFinding (line : Nat) (severity : String) : Dict :=
  [("line", .int line), ("type", .text "t"), ("severity", .text severity), ("message", .text "m")]

/-- A bare finding in a table of serious findings. -/
def bareEntry (file : String) (line : Nat) (severity : String) : Value :=
  .dict [("file", .text file), ("line", .int line), ("type", .text "t"),
    ("severity", .text severity), ("description", .text "m"), ("recommendation", .text "")]

/-- Two files with findings of three severities. -/
def mixedFiles : List (String × List Dict) :=
  [("b.py", [bareFinding 1 "high", bareFinding 2 "critical"]),
   ("a.py", [bareFinding 3 "info", bareFinding 4 "critical", bareFinding 5 "high"])]

/-- The critical finding of the second file overtakes the high one of the first, and
findings of one severity stay in order. -/
theorem serious_findings_parted_mixed :
    (∀ d ∈ mixedFiles, ∀ f ∈ d.2, Carries f) ∧
      criticalFindings (.dict [("detailed_report", filesValue mixedFiles)])
        = .ok [bareEntry "b.py" 2 "critical", bareEntry "a.py" 4 "critical",
            bareEntry "b.py" 1 "high", bareEntry "a.py" 5 "high"] := by
  have hbare : ∀ line severity, Carries (bareFinding line severity) := by
    intro line severity key hkey
    simp only [List.mem_cons, List.not_mem_nil, or_false] at hkey
    rcases hkey with rfl | rfl | rfl | rfl <;> exact ⟨_, rfl⟩
  have hcarries : ∀ d ∈ mixedFiles, ∀ f ∈ d.2, Carries f := by
    intro d hd f hf
    simp only [mixedFiles, List.mem_cons, List.not_mem_nil, or_false] at hd
    rcases hd with rfl | rfl
    · simp only [List.mem_cons, List.not_mem_nil, or_false] at hf
      rcases hf with rfl | rfl <;> exact hbare _ _
    · simp only [List.mem_cons, List.not_mem_nil, or_false] at hf
      rcases hf with rfl | rfl | rfl <;> exact hbare _ _
  have hfiles : Dict.get? [("detailed_report", filesValue mixedFiles)] "detailed_report"
      = some (filesValue mixedFiles) := rfl
  exact ⟨hcarries, (serious_findings_parted hfiles hcarries).1⟩

end CodeAudit.Report
