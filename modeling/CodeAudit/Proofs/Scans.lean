/-
  CodeAudit.Proofs.Scans
  ──────────────────────
  **A SCAN REACHES ALL FILES ALIKE.**

  The scanner may not start, end badly, or print anything at all.  A reply is
  of no use when no length can be read off it, and then nothing changes.
  Otherwise the length becomes a metric, and one list of entries is added
  behind the list of every file: an entry for each object at the front of a
  printed array, up to the first item that is none.  It does not matter which
  entries the report holds already.

    • `useless_iff` — which replies are of no use,
    • `map_holeFindings` — what the others add,
    • `scan_reaches_all_files` — taking over a reply, whatever it is,
    • `silent_scan_resets_count` — no output is not the same as bad output.
-/
import CodeAudit.Proofs.Dependencies
import CodeAudit.Proofs.Fallible

namespace CodeAudit.Data

/-- Writing what is there already changes nothing. -/
theorem Dict.put_of_get? {d : Dict} {key : String} {v : Value} (h : Dict.get? d key = some v) :
    Dict.put d key v = d := by
  induction d with
  | nil => cases h
  | cons entry rest ih =>
      obtain ⟨k, old⟩ := entry
      unfold Dict.get? at h
      rw [List.lookup_cons] at h
      by_cases hk : key = k
      · subst hk
        rw [beq_self_eq_true] at h
        cases h
        simp [Dict.put]
      · have hb : (key == k) = false := by simpa using hk
        have hb' : (k == key) = false := by simpa using Ne.symm hk
        rw [hb] at h
        simp only [Dict.put, hb', Bool.false_eq_true, if_false]
        rw [ih h]

end CodeAudit.Data

namespace CodeAudit.Audit

open CodeAudit.Data
open CodeAudit.Text (Wording)

/-! ## §1. Replies that are of no use. -/

namespace ScannerReply

/-- A reply that is of no use. -/
inductive Useless : ScannerReply → Prop
  /-- The scanner does not start. -/
  | absent (reason : String) : Useless (.fails reason)
  /-- It ends with a code other than 0 and 1. -/
  | broken {code : Int} (output : String) (hzero : code ≠ 0) (hone : code ≠ 1) :
      Useless (.ends code output)
  /-- It prints something that cannot be read. -/
  | garbled (code : Int) {output : String} {fault : Json.Fault} (hprinted : output ≠ "")
      (hread : Json.read output.toList = .error fault) : Useless (.ends code output)
  /-- It prints a value without a length. -/
  | unsized (code : Int) {output : String} {v : Value} {e : Failure}
      (hread : Json.read output.toList = .ok v) (hlength : v.length = .error e) :
      Useless (.ends code output)

/-- A reply with which the scanner prints a value.  No output stands for an empty
array. -/
inductive Prints : ScannerReply → Value → Prop
  | nothing {code : Int} (hcode : code = 0 ∨ code = 1) : Prints (.ends code "") (.list [])
  | document {code : Int} {output : String} {v : Value} (hcode : code = 0 ∨ code = 1)
      (hprinted : output ≠ "") (hread : Json.read output.toList = .ok v) :
      Prints (.ends code output) v

/-- What a reply prints is what can be read off it. -/
theorem printed?_eq_some_iff {r : ScannerReply} {v : Value} :
    r.printed? = some v ↔ r.Prints v := by
  constructor
  · intro h
    cases r with
    | fails reason => cases h
    | ends code output =>
        rw [printed?] at h
        by_cases hcode : code = 0 ∨ code = 1
        · rw [if_pos hcode] at h
          by_cases hprinted : output = ""
          · subst hprinted
            cases h
            exact .nothing hcode
          · rw [if_neg (by simpa using hprinted)] at h
            exact .document hcode hprinted (eq_ok_of_toOption h)
        · rw [if_neg hcode] at h
          cases h
  · intro h
    cases h with
    | nothing hcode =>
        rw [printed?, if_pos hcode]
        rfl
    | document hcode hprinted hread =>
        rw [printed?, if_pos hcode, if_neg (by simpa using hprinted), hread]
        rfl

/-- **A reply is of no use when no length can be read off it.** -/
theorem useless_iff {r : ScannerReply} : r.Useless ↔ r.holeCount? = none := by
  constructor
  · intro huseless
    cases hcount : r.holeCount? with
    | none => rfl
    | some n =>
        obtain ⟨v, hv, hn⟩ := Option.bind_eq_some_iff.mp hcount
        have hlength : v.length = .ok n := eq_ok_of_toOption hn
        -- Whatever is printed is what the reply was of no use for.
        cases printed?_eq_some_iff.mp hv with
        | nothing hcode =>
            cases huseless with
            | broken _ hzero hone => exact absurd hcode (not_or.mpr ⟨hzero, hone⟩)
            | garbled _ hprinted _ => exact absurd rfl hprinted
            | unsized _ hread _ => cases hread
        | document hcode _ hread =>
            cases huseless with
            | broken _ hzero hone => exact absurd hcode (not_or.mpr ⟨hzero, hone⟩)
            | garbled _ _ hfault =>
                rw [hfault] at hread
                cases hread
            | unsized _ hsame hnone =>
                rw [hread] at hsame
                cases hsame
                rw [hlength] at hnone
                cases hnone
  · intro hcount
    cases r with
    | fails reason => exact .absent reason
    | ends code output =>
        by_cases hcode : code = 0 ∨ code = 1
        · by_cases hprinted : output = ""
          · subst hprinted
            unfold holeCount? at hcount
            rw [printed?_eq_some_iff.mpr (.nothing hcode)] at hcount
            cases hcount
          · cases hread : Json.read output.toList with
            | error fault => exact .garbled code hprinted hread
            | ok v =>
                cases hlength : v.length with
                | error e => exact .unsized code hread hlength
                | ok n =>
                    unfold holeCount? at hcount
                    rw [printed?_eq_some_iff.mpr (.document hcode hprinted hread)] at hcount
                    rw [Option.bind_some, hlength] at hcount
                    cases hcount
        · obtain ⟨hzero, hone⟩ := not_or.mp hcode
          exact .broken output hzero hone

/-- Without a length there are no findings either. -/
theorem findings_of_useless {r : ScannerReply} (h : r.Useless) : r.findings = [] := by
  have hcount := useless_iff.mp h
  unfold findings
  unfold holeCount? at hcount
  cases hv : r.printed? with
  | none => rfl
  | some v =>
      rw [hv] at hcount
      cases hlength : v.length with
      | error e =>
          show holeFindings ((v.items.toOption).getD []) = []
          rw [items_of_length_error hlength]
          rfl
      | ok n =>
          rw [Option.bind_some, hlength] at hcount
          cases hcount

end ScannerReply

/-! ## §2. What the others add. -/

/-- The objects that a printed value begins with: those of an array up to the first
item that is none.  Other values have none. -/
inductive Leads : Value → List Dict → Prop
  | array {objects : List Dict} {rest : List Value}
      (hrest : ∀ es more, rest ≠ Value.dict es :: more) :
      Leads (.list (objects.map Value.dict ++ rest)) objects
  | other {v : Value} (hv : ∀ xs, v ≠ .list xs) : Leads v []

/-- The text of a field of an object, empty when it is absent. -/
def fieldText (es : Dict) (key : String) : Wording := ((Dict.get? es key).getD (.text "")).wording

/-- The entry about a vulnerable dependency. -/
def holeEntry (es : Dict) : Value :=
  .dict [("line", .text "N/A"), ("type", .text "Dépendance vulnérable"),
    ("message", .ofWording (fieldText es "package_name" ++ " " ++ fieldText es "vulnerable_spec"
      ++ ": " ++ fieldText es "advisory")),
    ("severity", .text "high"),
    ("recommendation", .ofWording ("Mettez à jour vers " ++ fieldText es "analyzed_version"
      ++ " ou plus récent."))]

/-- Every value begins with some objects, or none. -/
theorem exists_leads (v : Value) : ∃ objects, Leads v objects := by
  have hlist : ∀ xs : List Value, ∃ objects, Leads (.list xs) objects := by
    intro xs
    induction xs with
    | nil => exact ⟨[], @Leads.array [] [] fun es more h => by cases h⟩
    | cons x rest ih =>
        obtain ⟨objects, hleads⟩ := ih
        cases x with
        | dict es =>
            cases hleads with
            | @array _ behind hbehind => exact ⟨es :: objects, @Leads.array (es :: objects) behind hbehind⟩
            | other hv => exact absurd rfl (hv rest)
        | _ => exact ⟨[], @Leads.array [] (_ :: rest) fun es more h => by cases h⟩
  cases v with
  | list xs => exact hlist xs
  | _ => exact ⟨[], .other fun xs h => by cases h⟩

/-- **The findings of a printed value are entries about the objects at its front.** -/
theorem map_holeFindings {v : Value} {objects : List Dict} (h : Leads v objects) :
    (holeFindings ((v.items.toOption).getD [])).map Finding.toValue = objects.map holeEntry := by
  cases h with
  | @array _ rest hrest =>
      show (holeFindings (objects.map Value.dict ++ rest)).map Finding.toValue = _
      induction objects with
      | nil =>
          -- The first item behind the objects is looked at, and is none.
          have hstop : holeFindings rest = [] := by
            cases rest with
            | nil => rfl
            | cons x more =>
                cases x with
                | dict es => exact absurd rfl (hrest es more)
                | _ => rfl
          rw [List.map_nil, List.nil_append, hstop]
          rfl
      | cons es more ih =>
          obtain ⟨f, hf⟩ := holeFinding_dict es
          rw [List.map_cons, List.cons_append, holeFindings_cons_ok rfl hf, List.map_cons, ih,
            List.map_cons]
          cases hf
          rfl
  | other hv =>
      cases v with
      | list xs => exact absurd rfl (hv xs)
      | text s =>
          -- The items of a text are texts.
          show (holeFindings (s.toList.map fun c => .text (String.singleton c))).map _ = []
          cases s.toList <;> rfl
      | torn t =>
          show (holeFindings (t.signs.map fun s => .ofWording (.ofSigns [s]))).map _ = []
          cases t.signs with
          | nil => rfl
          | cons s rest => cases s <;> rfl
      | dict es =>
          show (holeFindings (es.map fun e => .text e.1)).map _ = []
          cases es <;> rfl
      | _ => rfl

/-- **A scan reaches all files alike.**  On a report that has a list for every file,
whatever the lists hold, taking over a reply of the scanner never fails.  If the
reply is of no use nothing changes.  Otherwise the length of what is printed
becomes a metric, and one and the same list is added behind that of every file:
an entry for each object at the front of a printed array. -/
theorem scan_reaches_all_files (r : ScannerReply) (m : Metrics) {report : Dict} {rows : Rows}
    (h : Dict.get? report "detailed_report" = some (.dict rows.toDetails)) (trace : Trace) :
    ∃ (metrics : Metrics) (after : Desk),
      Task.on (enterDependencies r m) ⟨report, trace⟩ = (.ok metrics, after) ∧
      (r.Useless → metrics = m ∧ after.report = report) ∧
      (¬ r.Useless → ∃ v n objects, r.Prints v ∧ v.length = .ok n ∧ Leads v objects ∧
        metrics = Dict.put m "dependances_vulnerables" (.int n) ∧
        after.report = Dict.put report "detailed_report" (.dict (Rows.toDetails
          (rows.map fun row => (row.1, row.2 ++ objects.map holeEntry))))) := by
  obtain ⟨after, -, hon⟩ := on_takeScan h trace r m
  refine ⟨_, _, hon, fun huseless => ⟨?_, ?_⟩, fun huse => ?_⟩
  · unfold Metrics.afterScan
    rw [ScannerReply.useless_iff.mp huseless]
  · show Dict.put report "detailed_report" _ = report
    rw [ScannerReply.findings_of_useless huseless, List.map_nil, Rows.addToAll_nil,
      Dict.put_of_get? h]
  · cases hcount : r.holeCount? with
    | none => exact absurd (ScannerReply.useless_iff.mpr hcount) huse
    | some n =>
        obtain ⟨v, hv, hn⟩ := Option.bind_eq_some_iff.mp hcount
        obtain ⟨objects, hleads⟩ := exists_leads v
        refine ⟨v, n, objects, ScannerReply.printed?_eq_some_iff.mp hv, eq_ok_of_toOption hn, hleads,
          ?_, ?_⟩
        · unfold Metrics.afterScan
          rw [hcount]
          rfl
        · show Dict.put report "detailed_report" (.dict (rows.addToAll _).toDetails) = _
          unfold ScannerReply.findings
          rw [hv]
          show Dict.put report "detailed_report" (.dict (rows.addToAll
            ((holeFindings ((v.items.toOption).getD [])).map Finding.toValue)).toDetails) = _
          rw [map_holeFindings hleads]
          rfl

/-- The output of a scan: an array with an item that is no object between two that
are. -/
def haltedScan : ScannerReply := .ends 1 "[\x7b\x7d, null, \x7b\x7d]"

/-- Both files get an entry about the first object, and the metric counts all items. -/
theorem scan_reaches_all_files_halted :
    ∃ (metrics : Metrics) (after : Desk),
      Task.on (enterDependencies haltedScan Metrics.zero)
        ⟨[("detailed_report", .dict (Rows.toDetails [("a.py", [.int 7]), ("b.py", [])]))], .empty⟩
          = (.ok metrics, after) ∧
      metrics = Dict.put Metrics.zero "dependances_vulnerables" (.int 3) ∧
      after.report = [("detailed_report", .dict (Rows.toDetails
        [("a.py", [.int 7, holeEntry []]), ("b.py", [holeEntry []])]))] := by
  have hread : Json.read "[\x7b\x7d, null, \x7b\x7d]".toList
      = .ok (.list [.dict [], .null, .dict []]) := rfl
  have hprinted : haltedScan.printed? = some (.list [.dict [], .null, .dict []]) :=
    ScannerReply.printed?_eq_some_iff.mpr (.document (.inr rfl) (by decide) hread)
  have huse : ¬ haltedScan.Useless := by
    rw [ScannerReply.useless_iff, ScannerReply.holeCount?, hprinted]
    exact Option.some_ne_none 3
  obtain ⟨metrics, after, hon, -, hafter⟩ := scan_reaches_all_files haltedScan Metrics.zero
    (show Dict.get? [("detailed_report",
      .dict (Rows.toDetails [("a.py", [.int 7]), ("b.py", [])]))] "detailed_report" = _ from rfl) .empty
  obtain ⟨v, n, objects, hv, hn, hleads, hmetrics, hreport⟩ := hafter huse
  rw [ScannerReply.printed?_eq_some_iff.mpr hv] at hprinted
  cases hprinted
  cases hn
  have hentries : [holeEntry []] = objects.map holeEntry := map_holeFindings hleads
  rw [← hentries] at hreport
  exact ⟨metrics, after, hon, hmetrics, hreport⟩

/-- **No output is not bad output.**  An empty text cannot be read, yet a scan that
prints nothing changes a metric: the count of an earlier scan is gone. -/
theorem silent_scan_resets_count :
    (∃ fault, Json.read "".toList = .error fault) ∧
      ∃ (metrics : Metrics) (after : Desk),
        Task.on (enterDependencies (.ends 0 "") [("dependances_vulnerables", .int 5)])
          ⟨emptyReport, .empty⟩ = (.ok metrics, after) ∧
        metrics ≠ [("dependances_vulnerables", .int 5)] := by
  refine ⟨⟨_, rfl⟩, [("dependances_vulnerables", .int 0)], _, rfl, ?_⟩
  simp

end CodeAudit.Audit
