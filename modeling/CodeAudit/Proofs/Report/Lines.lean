/-
  CodeAudit.Proofs.Report.Lines
  ─────────────────────────────
  **THE LINES OF A REPORT, BY THEIR BEGINNINGS.**

  A report is a list of lines of several kinds, and a reader tells the kinds
  apart by how lines begin.  `marked` selects the lines that begin with a
  mark; what it selects from the lines of a writer is computed line by line.

    • `begins_append`, `not_begins` — what a line begins with is settled by
      its fixed part, whatever follows,
    • `marked_mark`, `marked_apart` — a line with a mark is selected, one
      whose fixed part is apart from all marks is not.
-/
import CodeAudit.Data.Operations

namespace CodeAudit.Report

open CodeAudit.Data

/-! ## §1. Beginnings. -/

/-- Whether a line begins with a mark. -/
def begins (mark line : String) : Bool := Text.startsWith mark.toList line.toList

/-- Neither of two texts begins with the other. -/
def apart (a b : String) : Bool := !begins a b && !begins b a

theorem begins_append (mark rest : String) : begins mark (mark ++ rest) = true := by
  unfold begins Text.startsWith
  rw [String.toList_append, List.isPrefixOf_iff_prefix]
  exact List.prefix_append mark.toList rest.toList

/-- What stands behind a text that is apart from a mark makes no difference. -/
theorem not_begins {mark front : String} (h : apart mark front = true) (rest : String) :
    begins mark (front ++ rest) = false := by
  unfold apart begins Text.startsWith at h
  unfold begins Text.startsWith
  rw [Bool.and_eq_true, Bool.not_eq_true', Bool.not_eq_true'] at h
  rw [String.toList_append]
  cases hp : mark.toList.isPrefixOf (front.toList ++ rest.toList) with
  | false => rfl
  | true =>
      exfalso
      rw [List.isPrefixOf_iff_prefix] at hp
      -- Two beginnings of one line are comparable.
      rcases List.prefix_or_prefix_of_prefix hp (List.prefix_append _ _) with hp | hp
      · rw [List.isPrefixOf_iff_prefix.mpr hp] at h
        exact absurd h.1 (by decide)
      · rw [List.isPrefixOf_iff_prefix.mpr hp] at h
        exact absurd h.2 (by decide)

/-! ## §2. Lines with a mark. -/

/-- The lines that begin with one of the marks, in order. -/
def marked (marks lines : List String) : List String :=
  lines.filter fun line => marks.any (begins · line)

section

variable {marks : List String}

@[simp] theorem marked_append (marks a b : List String) :
    marked marks (a ++ b) = marked marks a ++ marked marks b := List.filter_append a b

theorem marked_flatMap {α : Type} (marks : List String) (xs : List α) (f : α → List String) :
    marked marks (xs.flatMap f) = xs.flatMap fun x => marked marks (f x) := by
  unfold marked
  rw [List.filter_flatMap]

/-- A line with a mark is selected. -/
theorem marked_mark {mark : String} (h : mark ∈ marks) (rest : String) (lines : List String) :
    marked marks ((mark ++ rest) :: lines) = (mark ++ rest) :: marked marks lines := by
  unfold marked
  rw [List.filter_cons_of_pos]
  exact List.any_eq_true.mpr ⟨mark, h, begins_append mark rest⟩

/-- A line whose fixed part is apart from the marks is passed over. -/
theorem marked_apart {front : String} (h : marks.all (apart · front) = true) (rest : String)
    (lines : List String) : marked marks ((front ++ rest) :: lines) = marked marks lines := by
  unfold marked
  rw [List.filter_cons_of_neg]
  rw [Bool.not_eq_true, List.any_eq_false]
  intro mark hmark
  rw [not_begins (List.all_eq_true.mp h mark hmark) rest]
  exact Bool.false_ne_true

/-- A fixed line without a mark is passed over. -/
theorem marked_fixed {line : String} (h : marks.any (begins · line) = false)
    (lines : List String) : marked marks (line :: lines) = marked marks lines := by
  unfold marked
  rw [List.filter_cons_of_neg (by rw [h]; exact Bool.false_ne_true)]

/-- Lines that are passed over one by one are passed over together. -/
theorem marked_eq_nil {lines : List String} (h : ∀ line ∈ lines, marked marks [line] = []) :
    marked marks lines = [] := by
  induction lines with
  | nil => rfl
  | cons line rest ih =>
      rw [← List.singleton_append, marked_append, h line List.mem_cons_self,
        ih fun l hl => h l (List.mem_cons_of_mem _ hl)]
      rfl

theorem marked_flatMap_eq_nil {α : Type} {xs : List α} {f : α → List String}
    (h : ∀ x ∈ xs, marked marks (f x) = []) : marked marks (xs.flatMap f) = [] := by
  rw [marked_flatMap]
  exact List.flatMap_eq_nil_iff.mpr h

end

/-! ## §3. Fields. -/

/-- A field that is there is read. -/
theorem field_of_get? {d : Dict} {key : String} {v : Value} (h : Dict.get? d key = some v) :
    Value.field (.dict d) key = .ok v := by
  simp only [Value.field, h]

end CodeAudit.Report
