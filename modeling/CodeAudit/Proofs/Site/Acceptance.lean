/-
  CodeAudit.Proofs.Site.Acceptance
  ────────────────────────────────
  **WHICH SUBMISSIONS ARE ACCEPTED.**

  Every field of a submission is checked on its own.  For each check there is
  one lemma that says exactly what it lets through, and a submission passes
  when all of its fields do.

    • `checkText_ok_iff`, `checkWish_ok_iff`, `checkFiles_ok_iff` — the fields,
    • `check_ok_iff` — the whole form,
    • `accepted_exactly_if_sound` — the sound submissions are accepted, with
      all of their files, and no others,
    • `no_files_accepted` — there need not be any files.
-/
import CodeAudit.Proofs.Fallible
import CodeAudit.Site.Submission

namespace CodeAudit.Site

open CodeAudit.Data

/-! ## §1. The name and the wish. -/

/-- A text passes as it is: if it is there, within the limit, and free of null
characters. -/
theorem checkText_ok_iff {limit : Nat} {text accepted : String} :
    checkText (some limit) text = .ok accepted ↔
      accepted = text ∧ text ≠ "" ∧ text.length ≤ limit ∧ '\x00' ∉ text.toList := by
  unfold checkText
  by_cases hempty : text = ""
  · simp [hempty]
  by_cases hlong : limit < text.length
  · have hover : ¬ text.length ≤ limit := by omega
    simp [hempty, hlong, hover]
  by_cases hnull : '\x00' ∈ text.toList
  · simp [hempty, hlong, hnull]
  · have hunder : text.length ≤ limit := by omega
    simp only [hempty, hlong, hnull, hunder, String.isEmpty_iff, List.contains_iff_mem, if_false,
      List.append_nil, ne_eq, not_false_eq_true, and_true]
    constructor
    · rintro ⟨rfl⟩
      rfl
    · rintro rfl
      rfl

/-- A wish passes if it is spelt as one of the two. -/
theorem checkWish_ok_iff {given : Option String} {wish : Wish} :
    checkWish given = .ok wish ↔ given = some wish.code := by
  constructor
  · intro h
    unfold checkWish at h
    split at h
    -- No code, and the empty one, are complained of before the wishes are looked through.
    · cases h
    · cases h
    · rename_i code _
      cases hfound : Wish.ofCode? code with
      | none =>
          rw [hfound] at h
          cases h
      | some found =>
          rw [hfound] at h
          cases h
          have hcode := List.find?_some hfound
          rw [eq_of_beq hcode]
  · rintro rfl
    cases wish <;> rfl

/-! ## §2. The files. -/

/-- A file that is not empty and is named as a module. -/
structure SentFile.Sound (f : SentFile) : Prop where
  filled : f.content ≠ []
  named : ∃ stem, f.name = stem ++ ".py"

theorem isModule_iff {f : SentFile} : f.isModule = true ↔ ∃ stem, f.name = stem ++ ".py" := by
  unfold SentFile.isModule
  rw [List.isSuffixOf_iff_suffix]
  exact Text.suffix_toList_iff

/-- Files pass their check unchanged, or the first empty one is complained of. -/
theorem checkEachFile_eq (files : List SentFile) :
    checkEachFile files
      = if files.all fun f => !f.content.isEmpty then .ok files else .error [.emptyFile] := by
  have hone : ∀ f ∈ files, checkFile f
      = if !f.content.isEmpty then .ok (id f) else .error [.emptyFile] := by
    intro f _
    unfold checkFile
    cases f.content.isEmpty <;> rfl
  have hall := mapM_eq_ite hone
  rw [List.map_id] at hall
  exact hall

/-- All files pass, in their order, or none does. -/
theorem checkFiles_ok_iff {files accepted : List SentFile} :
    checkFiles files = .ok accepted ↔ accepted = files ∧ ∀ f ∈ files, f.Sound := by
  constructor
  · intro h
    obtain ⟨checked, hchecked, hmodules⟩ := bind_eq_ok h
    rw [checkEachFile_eq] at hchecked
    split at hchecked
    · rename_i hfilled
      cases hchecked
      split at hmodules
      · rename_i hnamed
        cases hmodules
        refine ⟨rfl, fun f hf => ⟨?_, isModule_iff.mp (List.all_eq_true.mp hnamed f hf)⟩⟩
        simpa using List.all_eq_true.mp hfilled f hf
      · cases hmodules
    · cases hchecked
  · rintro ⟨rfl, hsound⟩
    have hfilled : (accepted.all fun f => !f.content.isEmpty) = true :=
      List.all_eq_true.mpr fun f hf => by simpa using (hsound f hf).filled
    have hnamed : accepted.all SentFile.isModule = true :=
      List.all_eq_true.mpr fun f hf => isModule_iff.mpr (hsound f hf).named
    unfold checkFiles
    rw [checkEachFile_eq, if_pos hfilled]
    exact if_pos hnamed

/-! ## §3. The whole form. -/

/-- A form passes when its fields do. -/
theorem check_ok_iff {s : Submission} {a : Accepted} :
    s.check = .ok a ↔ checkProjectName s.name = .ok a.name ∧ checkFiles s.files = .ok a.files ∧
      checkWish s.wish = .ok a.wish := by
  unfold Submission.check
  constructor
  · intro h
    split at h
    · rename_i hname hfiles hwish
      cases h
      exact ⟨hname, hfiles, hwish⟩
    · cases h
  · rintro ⟨hname, hfiles, hwish⟩
    rw [hname, hfiles, hwish]

/-- A submission in which every field is as it should be.  Nothing is asked of
the number of files. -/
structure Submission.Sound (s : Submission) : Prop where
  named : Text.strip (s.name.getD "") ≠ ""
  short : (Text.strip (s.name.getD "")).length ≤ 255
  plain : '\x00' ∉ (Text.strip (s.name.getD "")).toList
  wished : s.wish = some "analysis" ∨ s.wish = some "tests"
  files : ∀ f ∈ s.files, f.Sound

theorem Submission.wished_iff {s : Submission} :
    (s.wish = some "analysis" ∨ s.wish = some "tests") ↔ ∃ wish : Wish, s.wish = some wish.code := by
  constructor
  · rintro (h | h)
    · exact ⟨.audit, h⟩
    · exact ⟨.tests, h⟩
  · rintro ⟨wish, h⟩
    cases wish with
    | audit => exact .inl h
    | tests => exact .inr h

/-- **What is accepted.**  A submission is accepted if and only if it is sound.
It is then taken with its name stripped, the wish it spells, and all of its
files in their order. -/
theorem accepted_exactly_if_sound (s : Submission) :
    ((∃ a, s.check = .ok a) ↔ s.Sound) ∧
      ∀ a, s.check = .ok a ↔ s.Sound ∧ a.name = Text.strip (s.name.getD "") ∧
        s.wish = some a.wish.code ∧ a.files = s.files := by
  -- All is in the exact result: a sound submission has a wish, so it has a result.
  have hexact : ∀ a, s.check = .ok a ↔ s.Sound ∧ a.name = Text.strip (s.name.getD "") ∧
      s.wish = some a.wish.code ∧ a.files = s.files := by
    intro a
    rw [check_ok_iff, checkProjectName, checkText_ok_iff, checkFiles_ok_iff, checkWish_ok_iff]
    constructor
    · rintro ⟨⟨hname, hnamed, hshort, hplain⟩, ⟨hfiles, hsound⟩, hwish⟩
      have hwished := Submission.wished_iff.mpr ⟨a.wish, hwish⟩
      exact ⟨⟨hnamed, hshort, hplain, hwished, hsound⟩, hname, hwish, hfiles⟩
    · rintro ⟨hs, hname, hwish, hfiles⟩
      exact ⟨⟨hname, hs.named, hs.short, hs.plain⟩, ⟨hfiles, hs.files⟩, hwish⟩
  refine ⟨⟨?_, ?_⟩, hexact⟩
  · rintro ⟨a, ha⟩
    exact ((hexact a).mp ha).1
  · intro hs
    obtain ⟨wish, hwish⟩ := Submission.wished_iff.mp hs.wished
    exact ⟨⟨Text.strip (s.name.getD ""), wish, s.files⟩, (hexact _).mpr ⟨hs, rfl, hwish, rfl⟩⟩

/-- A submission need not hold a single file. -/
theorem no_files_accepted :
    Submission.check ⟨some "p", some "analysis", []⟩ = .ok ⟨"p", .audit, []⟩ := by
  rfl

end CodeAudit.Site
