/-
  CodeAudit.Proofs.Dependencies
  ─────────────────────────────
  **WHAT A SCAN OF DEPENDENCIES CHANGES.**

  Holes are taken one by one, each for all files, and the first that is no
  dictionary ends the work.  It ends it at the first file already, so no hole
  is ever added for some files and not for others: every file gets the same
  findings, one for each hole before the first that is no dictionary.

    • `addHoles_eq` — what a list of holes adds to the lists of files,
    • `takeScan_details`, `takeScan_metrics` — what a reply of the scanner
      changes, for every reply,
    • `on_takeScan`, `on_enterDependencies` — taking over a reply never fails.
-/
import CodeAudit.Proofs.Standing
import CodeAudit.Proofs.Totals

namespace CodeAudit.Audit

open CodeAudit.Data CodeAudit.Source CodeAudit.Report

/-! ## §1. The findings about holes. -/

/-- Whether a value is a dictionary. -/
def isDictionary : Value → Bool
  | .dict _ => true
  | _ => false

/-- A hole that is a dictionary gives a finding. -/
theorem holeFinding_dict (es : Dict) : ∃ f, holeFinding (.dict es) = .ok f := ⟨_, rfl⟩

/-- A hole that is no dictionary gives none. -/
theorem holeFinding_of_not {v : Value} (h : isDictionary v = false) :
    ∃ e, holeFinding v = .error e := by
  cases v with
  | dict es => cases h
  | _ => exact ⟨_, rfl⟩

/-- The findings about the holes before the first that is no dictionary. -/
def holeFindings (holes : List Value) : List Finding :=
  (holes.takeWhile isDictionary).filterMap fun v => (holeFinding v).toOption

/-- One hole less. -/
theorem holeFindings_cons_ok {v : Value} {f : Finding} (hv : isDictionary v = true)
    (hf : holeFinding v = .ok f) (rest : List Value) :
    holeFindings (v :: rest) = f :: holeFindings rest := by
  simp [holeFindings, hv, hf, Except.toOption]

/-! ## §2. Adding holes to lists. -/

/-- Lists of entries by file, whatever the entries are. -/
abbrev Rows := List (String × List Value)

namespace Rows

/-- The lists as a report holds them. -/
def toDetails (rows : Rows) : Details := rows.map fun r => (r.1, .list r.2)

/-- Add entries to the list of every file. -/
def addToAll (rows : Rows) (entries : List Value) : Rows := rows.map fun r => (r.1, r.2 ++ entries)

@[simp] theorem toDetails_cons (file : String) (old : List Value) (rest : Rows) :
    toDetails ((file, old) :: rest) = (file, .list old) :: toDetails rest := rfl

@[simp] theorem addToAll_nil (rows : Rows) : rows.addToAll [] = rows := by
  simp [addToAll]

theorem addToAll_addToAll (rows : Rows) (a b : List Value) :
    (rows.addToAll a).addToAll b = rows.addToAll (a ++ b) := by
  simp [addToAll]

end Rows

/-- A hole that is a dictionary is added to the list of every file. -/
theorem addHole_ok {v : Value} {f : Finding} (hf : holeFinding v = .ok f) (rows : Rows) :
    addHole v rows.toDetails = ((rows.addToAll [f.toValue]).toDetails, none) := by
  induction rows with
  | nil => rfl
  | cons r rest ih =>
      obtain ⟨file, old⟩ := r
      -- A list takes one more entry at its end.
      have hadd : (holeFinding v).bind (addFinding (.list old))
          = .ok (.list (old ++ [f.toValue])) := by
        rw [hf]
        rfl
      rw [Rows.toDetails_cons, addHole]
      simp only [hadd, ih]
      rfl

/-- A hole that is no dictionary changes nothing: the first file already
refuses it. -/
theorem addHole_error {v : Value} (hv : isDictionary v = false) (rows : Rows) :
    (addHole v rows.toDetails).1 = rows.toDetails ∧
      ((addHole v rows.toDetails).2 = none → rows = []) := by
  obtain ⟨e, he⟩ := holeFinding_of_not hv
  cases rows with
  | nil => exact ⟨rfl, fun _ => rfl⟩
  | cons r rest =>
      obtain ⟨file, old⟩ := r
      have hadd : (holeFinding v).bind (addFinding (.list old)) = .error e := by
        rw [he]
        rfl
      rw [Rows.toDetails_cons, addHole]
      simp only [hadd]
      exact ⟨trivial, fun h => by cases h⟩

/-- **Every file gets the same findings about holes.** -/
theorem addHoles_eq (holes : List Value) (rows : Rows) :
    (addHoles rows.toDetails holes).1
      = (rows.addToAll ((holeFindings holes).map Finding.toValue)).toDetails := by
  induction holes generalizing rows with
  | nil => simp [addHoles, holeFindings]
  | cons v rest ih =>
      cases hv : isDictionary v with
      | true =>
          cases v with
          | dict es =>
              obtain ⟨f, hf⟩ := holeFinding_dict es
              rw [addHoles, addHole_ok hf, holeFindings_cons_ok hv hf]
              simp only
              rw [ih, Rows.addToAll_addToAll]
              rfl
          | _ => cases hv
      | false =>
          have hnone : holeFindings (v :: rest) = [] := by simp [holeFindings, hv]
          obtain ⟨hsame, hempty⟩ := addHole_error hv rows
          rw [hnone, List.map_nil, Rows.addToAll_nil, addHoles]
          rcases hres : addHole v rows.toDetails with ⟨details, failure⟩
          rw [hres] at hsame hempty
          cases failure with
          | some e => exact hsame
          | none =>
              -- Without files no hole is ever looked at.
              have hrows : rows = [] := hempty rfl
              subst hrows
              have hdetails : details = Rows.toDetails [] := hsame
              simp only [hdetails]
              rw [ih]
              rfl

/-! ## §3. Replies of the scanner. -/

namespace ScannerReply

/-- The value that the scanner prints, if its end and its output are in order. -/
def printed? : ScannerReply → Option Value
  | .fails _ => none
  | .ends code output =>
      if code = 0 ∨ code = 1 then
        if output.toList.isEmpty then some (.list []) else (Json.read output.toList).toOption
      else none

/-- The number of holes that become a metric. -/
def holeCount? (r : ScannerReply) : Option Nat := r.printed?.bind fun v => v.length.toOption

/-- The findings that every file gets. -/
def findings (r : ScannerReply) : List Finding :=
  match r.printed? with
  | some v => holeFindings ((v.items.toOption).getD [])
  | none => []

end ScannerReply

/-- What has a length has items. -/
theorem items_of_length_error {v : Value} {e : Failure} (h : v.length = .error e) :
    (v.items.toOption).getD [] = [] := by
  cases v <;> first | rfl | cases h

/-- Taking over a printed value adds findings to all lists. -/
theorem details_takeHoles (v : Value) (m : Metrics) (rows : Rows) :
    (takeHoles v m rows.toDetails).details
      = (rows.addToAll ((holeFindings ((v.items.toOption).getD [])).map Finding.toValue)).toDetails := by
  unfold takeHoles
  cases h : v.length with
  | error e =>
      rw [items_of_length_error h]
      show rows.toDetails = (rows.addToAll []).toDetails
      rw [Rows.addToAll_nil]
  | ok n => exact addHoles_eq _ rows

/-- Taking over holes sets one metric. -/
theorem metrics_takeHoles (v : Value) (m : Metrics) (details : Details) :
    (takeHoles v m details).metrics = match v.length.toOption with
      | some n => Dict.put m Counter.vulnerableDependencies.key (.int n)
      | none => m := by
  unfold takeHoles
  cases v.length <;> rfl

/-- A reply is taken over through what it prints. -/
theorem takeScan_eq (r : ScannerReply) (m : Metrics) (details : Details) :
    (takeScan r m details).details = (match r.printed? with
        | some v => (takeHoles v m details).details
        | none => details) ∧
      (takeScan r m details).metrics = match r.printed? with
        | some v => (takeHoles v m details).metrics
        | none => m := by
  cases r with
  | fails reason => exact ⟨rfl, rfl⟩
  | ends code output =>
      by_cases hcode : code = 0 ∨ code = 1
      · simp only [takeScan, ScannerReply.printed?, hcode, if_true]
        -- No output at all stands for an empty list.
        cases hempty : output.toList.isEmpty with
        | true => exact ⟨rfl, rfl⟩
        | false =>
            simp only [Bool.false_eq_true, if_false]
            cases Json.read output.toList <;> exact ⟨rfl, rfl⟩
      · simp only [takeScan, ScannerReply.printed?, hcode, if_false]
        exact ⟨trivial, trivial⟩

/-- **What a reply of the scanner does to the lists of files.** -/
theorem takeScan_details (r : ScannerReply) (m : Metrics) (rows : Rows) :
    (takeScan r m rows.toDetails).details
      = (rows.addToAll (r.findings.map Finding.toValue)).toDetails := by
  rw [(takeScan_eq r m rows.toDetails).1, ScannerReply.findings]
  cases r.printed? with
  | none => simp
  | some v => exact details_takeHoles v m rows

/-- The metrics after a reply of the scanner. -/
def Metrics.afterScan (m : Metrics) (r : ScannerReply) : Metrics :=
  match r.holeCount? with
  | some n => Dict.put m Counter.vulnerableDependencies.key (.int n)
  | none => m

/-- **What a reply of the scanner does to the metrics.** -/
theorem takeScan_metrics (r : ScannerReply) (m : Metrics) (details : Details) :
    (takeScan r m details).metrics = m.afterScan r := by
  rw [(takeScan_eq r m details).2, Metrics.afterScan, ScannerReply.holeCount?]
  cases r.printed? with
  | none => rfl
  | some v => exact metrics_takeHoles v m details

/-! ## §4. At the desk. -/

/-- The totals after a reply of the scanner. -/
def Totals.afterScan (t : Totals) (r : ScannerReply) : Totals :=
  match r.holeCount? with
  | some n => Function.update t .vulnerableDependencies n
  | none => t

/-- A scan touches no other counter. -/
theorem Totals.afterScan_of_ne (t : Totals) (r : ScannerReply) {c : Counter}
    (hc : c ≠ .vulnerableDependencies) : t.afterScan r c = t c := by
  unfold afterScan
  cases r.holeCount? with
  | none => rfl
  | some n => exact Function.update_of_ne hc _ _

/-- The standing after a reply of the scanner. -/
def Standing.withScan (s : Standing) (r : ScannerReply) : Standing :=
  { s with listing := s.listing.addToAll r.findings }

/-- **Taking over a reply of the scanner never fails** on a report that has a list for
every file.  At most a line is printed. -/
theorem on_takeScan {report : Dict} {rows : Rows}
    (h : Dict.get? report "detailed_report" = some (.dict rows.toDetails)) (trace : Trace)
    (r : ScannerReply) (m : Metrics) :
    ∃ after : Trace, after.features = trace.features ∧
      Task.on (enterDependencies r m) ⟨report, trace⟩ = (.ok (m.afterScan r),
        ⟨Dict.put report "detailed_report"
          (.dict (rows.addToAll (r.findings.map Finding.toValue)).toDetails), after⟩) := by
  have hentry : Task.on (Task.entry "detailed_report") ⟨report, trace⟩
      = (.ok (.dict rows.toDetails), ⟨report, trace⟩) := Task.on_entry h
  unfold enterDependencies
  rw [Task.on_bind_ok hentry]
  simp only [takeScan_details, takeScan_metrics]
  rw [Task.on_bind_ok (Task.on_write _ _ _)]
  -- A fault on the way is printed, and ends nothing.
  cases (takeScan r m rows.toDetails).fault with
  | none => exact ⟨trace, rfl, rfl⟩
  | some fault => exact ⟨trace.print (faultLine fault), rfl, rfl⟩

/-- A listing as lists of entries. -/
def Listing.toRows (l : Listing) : Rows := l.map fun d => (d.1, d.2.map Finding.toValue)

theorem Listing.toDetails_toRows (l : Listing) : l.toRows.toDetails = l.toDict := by
  simp [toRows, Rows.toDetails, toDict]

theorem Listing.toRows_addToAll (l : Listing) (fs : List Finding) :
    (l.addToAll fs).toRows = l.toRows.addToAll (fs.map Finding.toValue) := by
  simp [toRows, Rows.addToAll, addToAll]

/-- Entering dependencies never fails on the report of a standing. -/
theorem on_enterDependencies (s : Standing) (trace : Trace) (r : ScannerReply) (t : Totals) :
    ∃ after : Trace, after.features = trace.features ∧
      Task.on (enterDependencies r (.ofTotals t)) ⟨s.report, trace⟩
        = (.ok (.ofTotals (t.afterScan r)), ⟨(s.withScan r).report, after⟩) := by
  have hlists : Dict.get? s.report "detailed_report" = some (.dict s.listing.toRows.toDetails) := by
    rw [Standing.get?_listing, Listing.toDetails_toRows]
  have hmetrics : (Metrics.ofTotals t).afterScan r = .ofTotals (t.afterScan r) := by
    unfold Metrics.afterScan Totals.afterScan
    cases r.holeCount? with
    | none => rfl
    | some n => exact Metrics.put_ofTotals t _ _
  obtain ⟨after, hfeatures, hon⟩ := on_takeScan hlists trace r (.ofTotals t)
  refine ⟨after, hfeatures, ?_⟩
  rw [hon, hmetrics, ← Listing.toRows_addToAll, Listing.toDetails_toRows, Standing.put_listing]
  rfl

end CodeAudit.Audit
