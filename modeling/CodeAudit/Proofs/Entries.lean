/-
  CodeAudit.Proofs.Entries
  ────────────────────────
  **WHAT ENTERING FILES ADDS UP TO.**

  A file that is entered raises three counts and lengthens the list of its
  findings.  Entering many files is followed here count by count:

    • `files_enterAll`, `affected_enterAll`, `issues_enterAll` — the counts,
    • `size_add`, `size_addToAll` — the findings that are listed,
    • `listing_enterAll` — the listing itself, for files not entered before.
-/
import CodeAudit.Proofs.Standing
import Mathlib.Algebra.BigOperators.Group.List.Basic
import Mathlib.Data.List.Nodup

namespace CodeAudit.Audit

open CodeAudit.Data CodeAudit.Source CodeAudit.Report

/-! ## §1. Listings. -/

namespace Listing

@[simp] theorem files_nil : files [] = [] := rfl

@[simp] theorem files_cons (f : String) (fs : List Finding) (rest : Listing) :
    files ((f, fs) :: rest) = f :: files rest := rfl

@[simp] theorem size_nil : size [] = 0 := rfl

@[simp] theorem size_cons (f : String) (fs : List Finding) (rest : Listing) :
    size ((f, fs) :: rest) = fs.length + size rest := rfl

/-- A new file goes to the end. -/
theorem add_of_not_mem {l : Listing} {file : String} (h : file ∉ l.files) (findings : List Finding) :
    l.add file findings = l ++ [(file, findings)] := by
  induction l with
  | nil => rfl
  | cons d rest ih =>
      obtain ⟨f, old⟩ := d
      rw [files_cons, List.mem_cons, not_or] at h
      obtain ⟨hne, hrest⟩ := h
      rw [add, if_neg (Ne.symm hne), ih hrest, List.cons_append]

/-- A file that is listed stays where it is. -/
theorem files_add (l : Listing) (file : String) (findings : List Finding) :
    (l.add file findings).files = if file ∈ l.files then l.files else l.files ++ [file] := by
  induction l with
  | nil => rfl
  | cons d rest ih =>
      obtain ⟨f, old⟩ := d
      by_cases hf : f = file
      · subst hf
        simp [add]
      · have hne : file ≠ f := Ne.symm hf
        rw [add, if_neg hf, files_cons, files_cons, ih]
        by_cases hmem : file ∈ files rest
        · simp [hmem]
        · simp [hmem, hne]

/-- No file is listed twice. -/
theorem nodup_files_add {l : Listing} (h : l.files.Nodup) (file : String) (findings : List Finding) :
    (l.add file findings).files.Nodup := by
  rw [files_add]
  split
  · exact h
  · rename_i hnew
    exact List.nodup_append.mpr ⟨h, List.nodup_singleton file, fun a ha b hb => by
      rw [List.mem_singleton] at hb
      subst hb
      exact fun heq => hnew (heq ▸ ha)⟩

/-- Adding for a file lists at most one file more. -/
theorem length_add_le (l : Listing) (file : String) (findings : List Finding) :
    (l.add file findings).length ≤ l.length + 1 := by
  have hfiles : ∀ m : Listing, m.length = m.files.length := fun m => by simp [files]
  rw [hfiles, hfiles, files_add]
  split <;> simp

/-- Every finding that is added is listed. -/
theorem size_add (l : Listing) (file : String) (findings : List Finding) :
    (l.add file findings).size = l.size + findings.length := by
  induction l with
  | nil => simp [add]
  | cons d rest ih =>
      obtain ⟨f, old⟩ := d
      rw [add]
      split
      · simp only [size_cons, List.length_append]
        omega
      · simp only [size_cons, ih]
        omega

/-- Lists of findings only get longer. -/
theorem ne_nil_add {l : Listing} (h : ∀ d ∈ l, d.2 ≠ []) (file : String) {findings : List Finding}
    (hf : findings ≠ []) : ∀ d ∈ l.add file findings, d.2 ≠ [] := by
  induction l with
  | nil =>
      intro d hd
      rw [add, List.mem_singleton] at hd
      subst hd
      exact hf
  | cons e rest ih =>
      obtain ⟨f, old⟩ := e
      have hold : old ≠ [] := h (f, old) List.mem_cons_self
      have hrest : ∀ d ∈ rest, d.2 ≠ [] := fun d hd => h d (List.mem_cons_of_mem _ hd)
      intro d hd
      rw [add] at hd
      split at hd
      · -- The list of the file is lengthened where it stands.
        rcases List.mem_cons.mp hd with rfl | hd
        · simp [hold]
        · exact hrest d hd
      · rcases List.mem_cons.mp hd with rfl | hd
        · exact hold
        · exact ih hrest d hd

@[simp] theorem files_addToAll (l : Listing) (findings : List Finding) :
    (l.addToAll findings).files = l.files := by
  simp [files, addToAll]

@[simp] theorem length_addToAll (l : Listing) (findings : List Finding) :
    (l.addToAll findings).length = l.length := by
  simp [addToAll]

/-- Findings that every file gets are listed once for each file. -/
theorem size_addToAll (l : Listing) (findings : List Finding) :
    (l.addToAll findings).size = l.size + findings.length * l.length := by
  induction l with
  | nil => rfl
  | cons d rest ih =>
      obtain ⟨f, old⟩ := d
      show (old ++ findings).length + (addToAll rest findings).size = _
      rw [ih, size_cons, List.length_append, List.length_cons, Nat.mul_succ]
      omega

theorem ne_nil_addToAll {l : Listing} (h : ∀ d ∈ l, d.2 ≠ []) (findings : List Finding) :
    ∀ d ∈ l.addToAll findings, d.2 ≠ [] := by
  intro d hd
  obtain ⟨e, he, rfl⟩ := List.mem_map.mp hd
  simp [h e he]

end Listing

/-! ## §2. Counts. -/

/-- The files with findings. -/
def affectedOnly (found : Listing) : Listing :=
  found.filter fun f => !f.2.isEmpty

@[simp] theorem affectedOnly_nil : affectedOnly [] = [] := rfl

theorem affectedOnly_cons (f : String × List Finding) (rest : List (String × List Finding)) :
    affectedOnly (f :: rest)
      = if f.2.isEmpty then affectedOnly rest else f :: affectedOnly rest := by
  cases h : f.2.isEmpty <;> simp [affectedOnly, h]

namespace Standing

variable (s : Standing)

@[simp] theorem enterAll_nil : s.enterAll [] = s := rfl

@[simp] theorem enterAll_cons (f : String × List Finding) (rest : List (String × List Finding)) :
    s.enterAll (f :: rest) = (s.enter f.1 f.2).enterAll rest := rfl

/-- A file without findings is counted, and that is all. -/
theorem enter_nil (file : String) : s.enter file [] = { s with files := s.files + 1 } := rfl

/-- A file with findings. -/
theorem enter_of_ne_nil (file : String) {findings : List Finding} (h : findings.isEmpty = false) :
    s.enter file findings = { s with
      files := s.files + 1
      affected := s.affected + 1
      issues := s.issues + findings.length
      listing := s.listing.add file findings } := by
  rw [enter, h]
  rfl

/-- Every file is counted. -/
theorem files_enterAll (found : List (String × List Finding)) :
    (s.enterAll found).files = s.files + found.length := by
  induction found generalizing s with
  | nil => rfl
  | cons f rest ih =>
      rw [enterAll_cons, ih, List.length_cons]
      have hone : (s.enter f.1 f.2).files = s.files + 1 := by
        unfold enter
        split <;> rfl
      omega

/-- Every file with findings is counted. -/
theorem affected_enterAll (found : List (String × List Finding)) :
    (s.enterAll found).affected = s.affected + (affectedOnly found).length := by
  induction found generalizing s with
  | nil => rfl
  | cons f rest ih =>
      obtain ⟨file, findings⟩ := f
      rw [enterAll_cons, ih, affectedOnly_cons]
      cases h : findings.isEmpty with
      | true => simp [enter, h]
      | false =>
          simp only [enter_of_ne_nil s file h, Bool.false_eq_true, if_false, List.length_cons]
          omega

/-- Every finding is counted. -/
theorem issues_enterAll (found : List (String × List Finding)) :
    (s.enterAll found).issues = s.issues + (found.map (·.2.length)).sum := by
  induction found generalizing s with
  | nil => rfl
  | cons f rest ih =>
      obtain ⟨file, findings⟩ := f
      rw [enterAll_cons, ih, List.map_cons, List.sum_cons]
      cases h : findings.isEmpty with
      | true =>
          rw [List.isEmpty_iff] at h
          subst h
          simp [enter_nil]
      | false =>
          simp only [enter_of_ne_nil s file h]
          omega

/-- Files entered for the first time are listed in order behind the others. -/
theorem listing_enterAll {found : List (String × List Finding)} (hnodup : (found.map (·.1)).Nodup)
    (hnew : ∀ f ∈ found, f.1 ∉ s.listing.files) :
    (s.enterAll found).listing = s.listing ++ affectedOnly found := by
  induction found generalizing s with
  | nil => simp
  | cons f rest ih =>
      obtain ⟨file, findings⟩ := f
      rw [List.map_cons, List.nodup_cons] at hnodup
      obtain ⟨hfile, hrest⟩ := hnodup
      have hfresh : file ∉ s.listing.files := hnew (file, findings) List.mem_cons_self
      have hlater : ∀ g ∈ rest, g.1 ∉ s.listing.files := fun g hg =>
        hnew g (List.mem_cons_of_mem _ hg)
      rw [enterAll_cons, affectedOnly_cons]
      cases h : findings.isEmpty with
      | true =>
          have hsame : (s.enter file findings).listing = s.listing := by simp [enter, h]
          rw [ih _ hrest (by rw [hsame]; exact hlater), hsame]
          rfl
      | false =>
          have hadd : (s.enter file findings).listing = s.listing ++ [(file, findings)] := by
            rw [enter_of_ne_nil s file h]
            exact Listing.add_of_not_mem hfresh findings
          -- Nothing that comes later is the file just entered.
          have hlater' : ∀ g ∈ rest, g.1 ∉ (s.enter file findings).listing.files := by
            intro g hg hmem
            rw [hadd, Listing.files, List.map_append, List.mem_append] at hmem
            rcases hmem with hmem | hmem
            · exact hlater g hg hmem
            · rw [List.map_singleton, List.mem_singleton] at hmem
              exact hfile (hmem ▸ List.mem_map_of_mem hg)
          rw [ih _ hrest hlater', hadd, List.append_assoc]
          rfl

end Standing

end CodeAudit.Audit
