/-
  CodeAudit.Proofs.Listed
  ───────────────────────
  **THE FINDINGS THAT A REPORT LISTS.**

  A report lists findings by file, each as a dictionary of its own.  `listed`
  reads them back from the report, whatever made it.  Where a listed finding
  can come from is followed through a session:

    • `listed_report` — what the report of a standing lists,
    • `mem_findings_after` — the findings that one audit adds,
    • `findings_from`, `findings_kept` — every listed finding comes from a
      module or from a scan, and every finding of a module is listed.
-/
import CodeAudit.Proofs.Additivity

namespace CodeAudit.Audit

open CodeAudit.Data CodeAudit.Source CodeAudit.Report

/-! ## §1. Reading a report. -/

/-- The entries of a dictionary; a value of another kind has none. -/
def entriesOf : Value → Dict
  | .dict es => es
  | _ => []

/-- The items of a list; a value of another kind has none. -/
def itemsOf : Value → List Value
  | .list vs => vs
  | _ => []

/-- The findings that a report lists, file by file, each as its entries. -/
def listed (report : Dict) : List (String × List Dict) :=
  (entriesOf ((Dict.get? report "detailed_report").getD .null)).map fun d =>
    (d.1, (itemsOf d.2).map entriesOf)

/-- An entry of a finding as a sentence shows it. -/
def shown (finding : Dict) (key : String) : String :=
  ((Dict.get? finding key).getD .null).display

/-- The titles of the findings that a report lists, in order. -/
def listedTitles (report : Dict) : List String :=
  (listed report).flatMap fun d => d.2.map (shown · "type")

/-- All findings of a listing, in order. -/
def Listing.findings (l : Listing) : List Finding := l.flatMap (·.2)

/-- **A standing lists its findings.** -/
theorem listed_report (s : Standing) :
    listed s.report = s.listing.map fun d => (d.1, d.2.map Finding.toDict) := by
  unfold listed
  rw [Standing.get?_listing]
  show (s.listing.toDict).map (fun d => (d.1, (itemsOf d.2).map entriesOf)) = _
  unfold Listing.toDict
  rw [List.map_map]
  refine List.map_congr_left fun d _ => ?_
  show (d.1, (d.2.map Finding.toValue).map entriesOf) = _
  rw [List.map_map]
  rfl

theorem listedTitles_report (s : Standing) :
    listedTitles s.report = s.listing.findings.map (·.category.title) := by
  unfold listedTitles Listing.findings
  rw [listed_report, List.flatMap_map, List.map_flatMap]
  refine List.flatMap_congr fun d _ => ?_
  show (d.2.map Finding.toDict).map (shown · "type") = _
  rw [List.map_map]
  rfl

/-- Categories are told apart by their titles. -/
theorem title_injective : Function.Injective Category.title := by
  intro c d h
  cases c <;> cases d <;> first | rfl | exact absurd h (by decide)

/-- A title is listed if a listed finding has it. -/
theorem title_listed_iff (s : Standing) (c : Category) :
    c.title ∈ listedTitles s.report ↔ ∃ f ∈ s.listing.findings, f.category = c := by
  rw [listedTitles_report, List.mem_map]
  constructor
  · rintro ⟨f, hf, htitle⟩
    exact ⟨f, hf, title_injective htitle⟩
  · rintro ⟨f, hf, rfl⟩
    exact ⟨f, hf, rfl⟩

/-! ## §2. What entering adds. -/

namespace Listing

@[simp] theorem findings_nil : findings [] = [] := rfl

@[simp] theorem findings_cons (file : String) (fs : List Finding) (rest : Listing) :
    findings ((file, fs) :: rest) = fs ++ findings rest := rfl

variable {l : Listing} {f : Finding}

/-- What is added for a file is listed, and nothing else changes. -/
theorem mem_findings_add (file : String) (fs : List Finding) :
    f ∈ (l.add file fs).findings ↔ f ∈ l.findings ∨ f ∈ fs := by
  induction l with
  | nil => simp [add]
  | cons d rest ih =>
      obtain ⟨g, old⟩ := d
      rw [add]
      split
      · simp only [findings_cons, List.mem_append]
        rw [or_assoc, or_assoc, or_comm (a := f ∈ fs)]
      · simp only [findings_cons, List.mem_append]
        rw [ih, or_assoc]

/-- What is added for every file is listed if there is a file. -/
theorem mem_findings_addToAll (fs : List Finding) :
    f ∈ (l.addToAll fs).findings ↔ f ∈ l.findings ∨ l ≠ [] ∧ f ∈ fs := by
  induction l with
  | nil => simp [addToAll]
  | cons d rest ih =>
      obtain ⟨g, old⟩ := d
      show f ∈ (old ++ fs) ++ (addToAll rest fs).findings ↔ _
      rw [List.mem_append, List.mem_append, ih, findings_cons, List.mem_append]
      constructor
      · rintro ((h | h) | h | ⟨-, h⟩)
        · exact .inl (.inl h)
        · exact .inr ⟨List.cons_ne_nil _ _, h⟩
        · exact .inl (.inr h)
        · exact .inr ⟨List.cons_ne_nil _ _, h⟩
      · rintro ((h | h) | ⟨-, h⟩)
        · exact .inl (.inl h)
        · exact .inr (.inl h)
        · exact .inl (.inr h)

end Listing

/-- The findings of files that are entered are listed. -/
theorem mem_findings_enterAll {s : Standing} {f : Finding} (found : List (String × List Finding)) :
    f ∈ (s.enterAll found).listing.findings ↔
      f ∈ s.listing.findings ∨ ∃ g ∈ found, f ∈ g.2 := by
  induction found generalizing s with
  | nil => simp
  | cons g rest ih =>
      have hstep : f ∈ (s.enter g.1 g.2).listing.findings ↔ f ∈ s.listing.findings ∨ f ∈ g.2 := by
        cases hg : g.2.isEmpty with
        | true =>
            rw [List.isEmpty_iff] at hg
            rw [hg, Standing.enter_nil]
            simp
        | false =>
            rw [Standing.enter_of_ne_nil s g.1 hg]
            exact Listing.mem_findings_add g.1 g.2
      rw [Standing.enterAll_cons, ih, hstep, or_assoc, List.exists_mem_cons_iff]

/-! ## §3. Where findings come from. -/

/-- The findings of a module of a job, audited alone. -/
def Job.findingsIn (j : Job) (m : String × List UInt8) : List Finding :=
  (alone j.services.lint m).findings

/-- **What is listed after an audit** was listed before, is a finding of a
module, or was added by the scan. -/
theorem mem_findings_after (e : Edition) (s : Standing) (j : Job) {f : Finding} :
    f ∈ (s.after e j).listing.findings ↔
      (f ∈ s.listing.findings ∨ ∃ m ∈ j.modules, f ∈ j.findingsIn m) ∨
        (s.after e j).listing ≠ [] ∧ f ∈ j.services.scanner.findings := by
  have hentered := mem_findings_enterAll (s := { s with project := baseName j.directory }) (f := f)
    (findingsOf .standard j.services.lint j.modules)
  have hmodules : (∃ g ∈ findingsOf .standard j.services.lint j.modules, f ∈ g.2) ↔
      ∃ m ∈ j.modules, f ∈ j.findingsIn m := by
    rw [findingsOf_eq]
    simp only [List.mem_map, exists_exists_and_eq_and]
    rfl
  rw [hmodules] at hentered
  show f ∈ (Listing.addToAll _ j.services.scanner.findings).findings ↔ _
  rw [Listing.mem_findings_addToAll, hentered]
  refine or_congr Iff.rfl (and_congr (not_congr ?_) Iff.rfl)
  -- A scan lists findings for the same files as before.
  show _ ↔ Listing.addToAll _ _ = []
  exact List.map_eq_nil_iff.symm

/-- Every listed finding comes from a module or from a scan. -/
theorem findings_from (e : Edition) (jobs : List Job) {f : Finding}
    (hf : f ∈ (standing e jobs).listing.findings) :
    ∃ j ∈ jobs, (∃ m ∈ j.modules, f ∈ j.findingsIn m) ∨ f ∈ j.services.scanner.findings := by
  induction jobs using List.reverseRecOn with
  | nil => cases hf
  | append_singleton jobs j ih =>
      rw [standing_append, mem_findings_after] at hf
      rcases hf with (hf | hf) | ⟨-, hf⟩
      · obtain ⟨i, hi, hfrom⟩ := ih hf
        exact ⟨i, List.mem_append_left _ hi, hfrom⟩
      · exact ⟨j, List.mem_append_right _ List.mem_cons_self, .inl hf⟩
      · exact ⟨j, List.mem_append_right _ List.mem_cons_self, .inr hf⟩

/-- **Every finding of a module stays listed.** -/
theorem findings_kept (e : Edition) {jobs : List Job} {j : Job} (hj : j ∈ jobs)
    {m : String × List UInt8} (hm : m ∈ j.modules) {f : Finding} (hf : f ∈ j.findingsIn m) :
    f ∈ (standing e jobs).listing.findings := by
  induction jobs using List.reverseRecOn with
  | nil => cases hj
  | append_singleton jobs i ih =>
      rw [standing_append, mem_findings_after]
      rcases List.mem_append.mp hj with hj | hj
      · exact .inl (.inl (ih hj))
      · rw [List.mem_singleton] at hj
        subst hj
        exact .inl (.inr ⟨m, hm, hf⟩)

end CodeAudit.Audit
