/-
  CodeAudit.Proofs.Report.Points
  ──────────────────────────────
  **TEXTS OF POINTS.**

  Strengths and areas to improve are told in a text with a line for each.  An
  area may begin with a number, so a reader knows it by the end of its line:
  a text names a phrase if one of its lines ends with it (`Names`).

    • `splitLines_points` — the lines of a text of points,
    • `names_points` — a text names exactly what was selected for it, when no
      phrase ends with another one.
-/
import CodeAudit.Report.Assessment

namespace CodeAudit.Report

open CodeAudit.Data

/-! ## §1. The lines of a text of points. -/

/-- What stands before joined texts stands before the first of them. -/
theorem append_joinWith (separator front first : String) (rest : List String) :
    front ++ Text.joinWith separator (first :: rest)
      = Text.joinWith separator ((front ++ first) :: rest) := by
  cases rest with
  | nil => rfl
  | cons next rest => simp only [Text.joinWith, String.append_assoc]

/-- A text is one line. -/
def OneLine (text : String) : Prop := '\n' ∉ text.toList

instance (text : String) : Decidable (OneLine text) :=
  inferInstanceAs (Decidable ('\n' ∉ text.toList))

theorem OneLine.plain {text : String} (h : OneLine text) :
    ∀ c ∈ text.toList, (c == '\n') = false :=
  Text.uncut_of_not_mem h

/-- **Points stand on lines of their own,** all but the first behind a dash. -/
theorem splitLines_points {first : String} {rest : List String} (hfirst : OneLine first)
    (hrest : ∀ x ∈ rest, OneLine x) :
    Text.splitLines (Text.joinWith "\n- " (first :: rest)).toList
      = first.toList :: rest.map fun x => ("- " ++ x).toList := by
  -- Induction on the points behind the first; the dash goes with the point after it.
  induction rest generalizing first with
  | nil => exact Text.cutAt_of_none (OneLine.plain hfirst)
  | cons next rest ih =>
      have hnext : OneLine ("- " ++ next) := by
        have hplain := hrest next List.mem_cons_self
        unfold OneLine at hplain ⊢
        simp only [String.toList_append, List.mem_append, not_or]
        exact ⟨by decide, hplain⟩
      have htext : (Text.joinWith "\n- " (first :: next :: rest)).toList
          = first.toList ++ '\n' :: (Text.joinWith "\n- " (("- " ++ next) :: rest)).toList := by
        rw [← append_joinWith]
        simp [Text.joinWith, String.toList_append]
      unfold Text.splitLines at ih ⊢
      rw [htext, Text.cutAt_append (OneLine.plain hfirst) rfl,
        ih hnext fun x hx => hrest x (List.mem_cons_of_mem _ hx), List.map_cons]

/-! ## §2. What a text names. -/

/-- A text names a phrase: one of its lines ends with it. -/
def Names (text phrase : String) : Prop :=
  ∃ line ∈ Text.splitLines text.toList, phrase.toList <:+ line

/-- One of two phrases ends with the other. -/
def overlap (a b : String) : Bool :=
  a.toList.isSuffixOf b.toList || b.toList.isSuffixOf a.toList

/-- Phrases that end one line overlap. -/
theorem overlap_of_suffix {a b : String} {line : List Char} (ha : a.toList <:+ line)
    (hb : b.toList <:+ line) : overlap a b = true := by
  unfold overlap
  rw [Bool.or_eq_true, List.isSuffixOf_iff_suffix, List.isSuffixOf_iff_suffix]
  exact List.suffix_or_suffix_of_suffix ha hb

/-- A text of points names a phrase if and only if a point ends with it, or what
stands for no point does. -/
theorem names_joined {otherwise : String} {lines : List String} {phrase : String}
    (hlines : ∀ x ∈ lines, OneLine x) (hotherwise : OneLine otherwise)
    (h : Names (points otherwise lines) phrase) :
    (lines = [] ∧ phrase.toList <:+ otherwise.toList) ∨
      ∃ x ∈ lines, phrase.toList <:+ ("- " ++ x).toList := by
  obtain ⟨line, hline, hends⟩ := h
  cases lines with
  | nil =>
      have hwhole : Text.splitLines otherwise.toList = [otherwise.toList] :=
        Text.cutAt_of_none (OneLine.plain hotherwise)
      change line ∈ Text.splitLines otherwise.toList at hline
      rw [hwhole, List.mem_singleton] at hline
      subst hline
      exact .inl ⟨rfl, hends⟩
  | cons first rest =>
      change line ∈ Text.splitLines (Text.joinWith "\n- " (first :: rest)).toList at hline
      rw [splitLines_points (hlines first List.mem_cons_self)
        fun x hx => hlines x (List.mem_cons_of_mem _ hx)] at hline
      rcases List.mem_cons.mp hline with rfl | hline
      · refine .inr ⟨first, List.mem_cons_self, hends.trans ?_⟩
        rw [String.toList_append]
        exact List.suffix_append _ _
      · obtain ⟨x, hx, rfl⟩ := List.mem_map.mp hline
        exact .inr ⟨x, List.mem_cons_of_mem _ hx, hends⟩

/-- A text of points names what a point ends with. -/
theorem names_of_mem {otherwise : String} {lines : List String} {phrase x : String}
    (hlines : ∀ x ∈ lines, OneLine x) (hx : x ∈ lines) (h : phrase.toList <:+ x.toList) :
    Names (points otherwise lines) phrase := by
  cases lines with
  | nil => cases hx
  | cons first rest =>
      have hsplit := splitLines_points (hlines first List.mem_cons_self)
        fun y hy => hlines y (List.mem_cons_of_mem _ hy)
      have hdash : x.toList <:+ ("- " ++ x).toList := by
        rw [String.toList_append]
        exact List.suffix_append _ _
      unfold Names
      change ∃ line ∈ Text.splitLines (Text.joinWith "\n- " (first :: rest)).toList, _
      rw [hsplit]
      rcases List.mem_cons.mp hx with rfl | hx
      · exact ⟨x.toList, List.mem_cons_self, h⟩
      · exact ⟨("- " ++ x).toList,
          List.mem_cons_of_mem _ (List.mem_map.mpr ⟨x, hx, rfl⟩), h.trans hdash⟩

/-- **A text of points names exactly what was selected for it.**  Each candidate has
a phrase with which its line ends, and phrases of candidates that are selected
differently do not overlap. -/
theorem names_points {α : Type} {all : List α} {selected : α → Bool} {phrase line : α → String}
    {otherwise : String} (hlines : ∀ a ∈ all, OneLine (line a)) (hotherwise : OneLine otherwise)
    (hends : ∀ a ∈ all, (phrase a).toList <:+ (line a).toList)
    (hapart : ∀ a ∈ all, ∀ b ∈ all, overlap (phrase a) (phrase b) = true → selected a = selected b)
    (hnone : ∀ a ∈ all, overlap (phrase a) otherwise = false) {a : α} (ha : a ∈ all) :
    Names (points otherwise ((all.filter selected).map line)) (phrase a) ↔ selected a = true := by
  have hchosen : ∀ x ∈ (all.filter selected).map line, OneLine x := by
    intro x hx
    obtain ⟨b, hb, rfl⟩ := List.mem_map.mp hx
    exact hlines b (List.mem_filter.mp hb).1
  constructor
  · intro h
    rcases names_joined hchosen hotherwise h with ⟨-, hsuffix⟩ | ⟨x, hx, hsuffix⟩
    · have hoverlap := overlap_of_suffix hsuffix (List.suffix_refl _)
      rw [hnone a ha] at hoverlap
      cases hoverlap
    · obtain ⟨b, hb, rfl⟩ := List.mem_map.mp hx
      obtain ⟨hball, hselected⟩ := List.mem_filter.mp hb
      have hline : (phrase b).toList <:+ ("- " ++ line b).toList := by
        rw [String.toList_append]
        exact (hends b hball).trans (List.suffix_append _ _)
      rw [hapart a ha b hball (overlap_of_suffix hsuffix hline)]
      exact hselected
  · intro h
    have hmem : line a ∈ (all.filter selected).map line :=
      List.mem_map.mpr ⟨a, List.mem_filter.mpr ⟨ha, h⟩, rfl⟩
    exact names_of_mem hchosen hmem (hends a ha)

/-! ## §3. Whole numbers. -/

/-- A whole number is written on one line. -/
theorem oneLine_toString (n : Int) : OneLine (toString n) :=
  Text.not_mem_toString (by decide) (by decide) n

end CodeAudit.Report
