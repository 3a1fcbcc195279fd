/-
  CodeAudit.Proofs.Report.Solutions
  ─────────────────────────────────
  **WHERE THE SOLUTION STANDS IN A COMMENT.**

  A comment is cut at headings from left to right, and the solution is what
  the cutting leaves in one place.  Here the place is said without cutting:
  after the last heading of a solution, and up to the first heading of the
  references behind it.

    • `piecesAt_cases` — a text without the mark is one piece; else the first
      piece ends where the mark first stands, and the rest is cut in turn,
    • `getLast?_piecesAt` — the last piece follows the last mark, provided
      that occurrences of the mark cannot overlap,
    • `solution_between_headings` — the place of the solution; nothing is
      left in it for a second search.
-/
import CodeAudit.Report.Assistant

namespace CodeAudit.Report

/-! ## §1. Occurrences of a mark. -/

/-- The first occurrence of a mark in a text: none begins earlier. -/
structure StandsFirst (mark before after text : List Char) : Prop where
  here : text = before ++ mark ++ after
  first : ∀ earlier later, text = earlier ++ mark ++ later → before.length ≤ earlier.length

/-- The last occurrence of a mark in a text: none begins later. -/
structure StandsLast (mark before after text : List Char) : Prop where
  here : text = before ++ mark ++ after
  last : ∀ earlier later, text = earlier ++ mark ++ later → earlier.length ≤ before.length

/-- The part of a text up to the first occurrence of a mark, or all of it. -/
def UpTo (mark text part : List Char) : Prop :=
  (∃ after, StandsFirst mark part after text) ∨ (¬ mark <:+: text ∧ part = text)

section

variable {mark before after text : List Char}

/-- Nothing before the first occurrence holds the mark. -/
theorem StandsFirst.free_before (h : StandsFirst mark before after text) (hmark : mark ≠ []) :
    ¬ mark <:+: before := by
  rintro ⟨earlier, between, rfl⟩
  have hle := h.first earlier (between ++ mark ++ after) (by rw [h.here]; simp)
  have hpos : 0 < mark.length := List.length_pos_iff.mpr hmark
  simp only [List.length_append] at hle
  omega

/-- Nothing after the last occurrence holds the mark. -/
theorem StandsLast.free_after (h : StandsLast mark before after text) (hmark : mark ≠ []) :
    ¬ mark <:+: after := by
  rintro ⟨between, later, rfl⟩
  have hle := h.last (before ++ mark ++ between) later (by rw [h.here]; simp)
  have hpos : 0 < mark.length := List.length_pos_iff.mpr hmark
  simp only [List.length_append] at hle
  omega

/-- A mark that does not stand at the very front stands first where it stands
first in the rest. -/
theorem StandsFirst.cons {c : Char} (hfront : ¬ mark <+: c :: text)
    (h : StandsFirst mark before after text) :
    StandsFirst mark (c :: before) after (c :: text) := by
  refine ⟨by rw [h.here]; rfl, ?_⟩
  intro earlier later hearlier
  cases earlier with
  | nil => exact absurd ⟨later, hearlier.symm⟩ hfront
  | cons d earlier =>
      have hrest : text = earlier ++ mark ++ later := (List.cons.inj hearlier).2
      have hle := h.first earlier later hrest
      simp only [List.length_cons]
      omega

/-- The part up to a mark is at the front of the text, and free of the mark. -/
theorem UpTo.front_and_free {part : List Char} (h : UpTo mark text part) (hmark : mark ≠ []) :
    part <+: text ∧ ¬ mark <:+: part := by
  rcases h with ⟨after, hfirst⟩ | ⟨hnone, rfl⟩
  · refine ⟨⟨mark ++ after, ?_⟩, hfirst.free_before hmark⟩
    rw [hfirst.here, List.append_assoc]
  · exact ⟨List.prefix_refl part, hnone⟩

end

/-! ## §2. Marks that cannot overlap.

The first character of such a mark does not come again in it.  So an
occurrence that begins after another one begins behind its end. -/

section

variable {c : Char} {tail before after earlier later : List Char}

theorem behind_of_later (hc : c ∉ tail)
    (h : before ++ (c :: tail) ++ after = earlier ++ (c :: tail) ++ later)
    (hlater : before.length < earlier.length) :
    ∃ between, earlier = before ++ (c :: tail) ++ between ∧
      after = between ++ (c :: tail) ++ later := by
  simp only [List.append_assoc] at h
  rcases List.append_eq_append_iff.mp h with ⟨beyond, hearlier, hrest⟩ | ⟨beyond, hbefore, -⟩
  · cases beyond with
    | nil => simp [hearlier] at hlater
    | cons d beyond =>
        simp only [List.cons_append, List.cons.injEq] at hrest
        obtain ⟨rfl, hrest⟩ := hrest
        rcases List.append_eq_append_iff.mp hrest with
          ⟨between, hbeyond, hafter⟩ | ⟨left, htail, hleft⟩
        · refine ⟨between, ?_, by simpa using hafter⟩
          rw [hearlier, hbeyond]
          simp
        -- What is left of the first occurrence would begin with the character of the second.
        · cases left with
          | nil =>
              refine ⟨[], ?_, hleft.symm⟩
              rw [hearlier, htail]
              simp
          | cons e left =>
              have he : c = e := (List.cons.inj hleft).1
              rw [htail, he] at hc
              exact absurd (List.mem_append_right beyond List.mem_cons_self) hc
  · rw [hbefore, List.length_append] at hlater
    omega

/-- An occurrence with no other behind it is the last. -/
theorem standsLast_of_free (hc : c ∉ tail) (hnone : ¬ (c :: tail) <:+: after) :
    StandsLast (c :: tail) before after (before ++ (c :: tail) ++ after) := by
  refine ⟨rfl, ?_⟩
  intro earlier later h
  apply Nat.le_of_not_lt
  intro hlater
  obtain ⟨between, -, hafter⟩ := behind_of_later hc h hlater
  exact hnone ⟨between, later, hafter.symm⟩

/-- The last occurrence behind another one is the last of all. -/
theorem StandsLast.behind (hc : c ∉ tail) (h : StandsLast (c :: tail) earlier later after) :
    StandsLast (c :: tail) (before ++ (c :: tail) ++ earlier) later
      (before ++ (c :: tail) ++ after) := by
  refine ⟨by rw [h.here]; simp, ?_⟩
  intro other rest hother
  by_cases hlater : before.length < other.length
  · obtain ⟨between, hbetween, hafter⟩ := behind_of_later hc hother hlater
    have hle := h.last between rest hafter
    simp only [hbetween, List.length_append]
    omega
  · simp only [List.length_append]
    omega

end

/-! ## §3. The pieces. -/

section

variable {mark text : List Char}

theorem cutAtMark_drop (mark : List Char) (pending : Nat) (text : List Char) :
    cutAtMark mark pending text = piecesAt mark (text.drop pending) := by
  unfold piecesAt
  induction text generalizing pending with
  | nil => cases pending <;> rfl
  | cons c rest ih =>
      cases pending with
      | zero => rfl
      | succ pending => exact ih pending

/-- A mark at the front is cut out. -/
theorem piecesAt_mark (hmark : mark ≠ []) (after : List Char) :
    piecesAt mark (mark ++ after) = [] :: piecesAt mark after := by
  obtain ⟨c, tail, rfl⟩ := List.exists_cons_of_ne_nil hmark
  have hfront : Text.startsWith (c :: tail) (c :: (tail ++ after)) = true :=
    List.isPrefixOf_iff_prefix.mpr ⟨after, rfl⟩
  show cutAtMark (c :: tail) 0 (c :: (tail ++ after)) = _
  rw [cutAtMark, if_pos hfront, cutAtMark_drop]
  simp

/-- A character that begins no mark belongs to the first piece. -/
theorem piecesAt_cons {c : Char} (hfront : ¬ mark <+: c :: text) :
    piecesAt mark (c :: text) = (piecesAt mark text).modifyHead (c :: ·) := by
  have hno : ¬ Text.startsWith mark (c :: text) = true :=
    fun h => hfront (List.isPrefixOf_iff_prefix.mp h)
  show cutAtMark mark 0 (c :: text) = _
  rw [cutAtMark, if_neg hno]
  rfl

/-- What cutting does, one piece at a time. -/
theorem piecesAt_cases (hmark : mark ≠ []) (text : List Char) :
    (¬ mark <:+: text ∧ piecesAt mark text = [text]) ∨
      ∃ before after, StandsFirst mark before after text ∧
        piecesAt mark text = before :: piecesAt mark after := by
  induction text with
  | nil =>
      refine .inl ⟨?_, rfl⟩
      rw [List.infix_nil]
      exact hmark
  | cons c rest ih =>
      by_cases hfront : mark <+: c :: rest
      · obtain ⟨after, hafter⟩ := hfront
        refine .inr ⟨[], after, ⟨hafter.symm, fun _ _ _ => Nat.zero_le _⟩, ?_⟩
        rw [← hafter, piecesAt_mark hmark]
      · rw [piecesAt_cons hfront]
        rcases ih with ⟨hnone, hpieces⟩ | ⟨before, after, hfirst, hpieces⟩
        · refine .inl ⟨?_, by rw [hpieces]; rfl⟩
          rw [List.infix_cons_iff]
          exact not_or.mpr ⟨hfront, hnone⟩
        · exact .inr ⟨c :: before, after, hfirst.cons hfront, by rw [hpieces]; rfl⟩

/-- A text without the mark stays whole. -/
theorem piecesAt_of_free (hmark : mark ≠ []) (hnone : ¬ mark <:+: text) :
    piecesAt mark text = [text] := by
  rcases piecesAt_cases hmark text with ⟨-, hpieces⟩ | ⟨before, after, hfirst, -⟩
  · exact hpieces
  · exact absurd ⟨before, after, hfirst.here.symm⟩ hnone

/-- The first piece is the part up to the mark. -/
theorem head?_piecesAt (hmark : mark ≠ []) (text : List Char) :
    ∃ part, (piecesAt mark text).head? = some part ∧ UpTo mark text part := by
  rcases piecesAt_cases hmark text with ⟨hnone, hpieces⟩ | ⟨before, after, hfirst, hpieces⟩
  · exact ⟨text, by rw [hpieces]; rfl, .inr ⟨hnone, rfl⟩⟩
  · exact ⟨before, by rw [hpieces]; rfl, .inl ⟨after, hfirst⟩⟩

/-- The last of several pieces follows the last occurrence. -/
theorem getLast?_piecesAt {c : Char} {tail : List Char} (hc : c ∉ tail) (text : List Char)
    (h : (c :: tail) <:+: text) :
    ∃ before after, StandsLast (c :: tail) before after text ∧
      (piecesAt (c :: tail) text).getLast? = some after ∧
      1 < (piecesAt (c :: tail) text).length := by
  -- Each cut leaves a shorter text, which holds the mark again or is the last piece.
  induction hlength : text.length using Nat.strongRecOn generalizing text with
  | ind n ih =>
      rcases piecesAt_cases (List.cons_ne_nil c tail) text with
        ⟨hnone, -⟩ | ⟨before, after, hfirst, hpieces⟩
      · exact absurd h hnone
      · have htext := hfirst.here
        rw [hpieces]
        by_cases hmore : (c :: tail) <:+: after
        · have hshorter : after.length < n := by
            rw [← hlength, htext]
            simp only [List.length_append, List.length_cons]
            omega
          obtain ⟨earlier, later, hlast, hget, hmany⟩ := ih _ hshorter after hmore rfl
          refine ⟨before ++ (c :: tail) ++ earlier, later, ?_, ?_, ?_⟩
          · rw [htext]
            exact hlast.behind hc
          · rw [List.getLast?_cons, hget]
            rfl
          · simp only [List.length_cons]
            omega
        · rw [piecesAt_of_free (List.cons_ne_nil c tail) hmore]
          refine ⟨before, after, ?_, rfl, Nat.lt_succ_self 1⟩
          rw [htext]
          exact standsLast_of_free hc hmore

end

/-! ## §4. The solution. -/

/-- Headings of a solution cannot overlap. -/
theorem solutionHeading_apart :
    ∃ c tail, solutionHeading.toList = c :: tail ∧ c ∉ tail :=
  ⟨'S', "olution recommandée:".toList, by decide, by decide⟩

theorem solutionHeading_ne_nil : solutionHeading.toList ≠ [] := by decide

theorem referencesHeading_ne_nil : referencesHeading.toList ≠ [] := by decide

/-- Without a heading the comment is the solution. -/
theorem solution_without_heading {comment : String}
    (hnone : ¬ solutionHeading.toList <:+: comment.toList) : solution comment = comment := by
  have hpieces := piecesAt_of_free solutionHeading_ne_nil hnone
  unfold solution
  rw [hpieces]
  rfl

/-- With a heading the solution stands behind the last one, up to the
references. -/
theorem solution_with_heading {comment : String}
    (h : solutionHeading.toList <:+: comment.toList) :
    ∃ before rest, StandsLast solutionHeading.toList before rest comment.toList ∧
      UpTo referencesHeading.toList rest (solution comment).toList := by
  obtain ⟨c, tail, hheading, hc⟩ := solutionHeading_apart
  rw [hheading] at h
  obtain ⟨before, rest, hlast, hget, hmany⟩ := getLast?_piecesAt hc comment.toList h
  obtain ⟨part, hhead, hpart⟩ := head?_piecesAt referencesHeading_ne_nil rest
  have hsolution : solution comment = String.ofList part := by
    unfold solution
    simp only [hheading, hget, hmany, if_true, hhead, Option.getD_some]
  refine ⟨before, rest, hheading ▸ hlast, ?_⟩
  rw [hsolution, String.toList_ofList]
  exact hpart

/-- A solution that stood behind a heading holds no heading of either kind. -/
theorem headings_not_in_solution {comment : String}
    (h : solutionHeading.toList <:+: comment.toList) :
    ¬ solutionHeading.toList <:+: (solution comment).toList ∧
      ¬ referencesHeading.toList <:+: (solution comment).toList := by
  obtain ⟨before, rest, hlast, hpart⟩ := solution_with_heading h
  obtain ⟨hfront, hfree⟩ := hpart.front_and_free referencesHeading_ne_nil
  refine ⟨?_, hfree⟩
  intro hheading
  have hrest : solutionHeading.toList <:+: rest := hheading.trans hfront.isInfix
  exact hlast.free_after solutionHeading_ne_nil hrest

/-- **The place of the solution.**  If a comment holds a heading of a solution,
the solution is what stands behind the last such heading and before the first
heading of the references that follows, or up to the end; and it holds neither
heading.  Any other comment is a solution as it is.  So the solution of a
solution is the solution. -/
theorem solution_between_headings (comment : String) :
    (solutionHeading.toList <:+: comment.toList →
      (∃ before rest, StandsLast solutionHeading.toList before rest comment.toList ∧
        UpTo referencesHeading.toList rest (solution comment).toList) ∧
      ¬ solutionHeading.toList <:+: (solution comment).toList ∧
      ¬ referencesHeading.toList <:+: (solution comment).toList) ∧
    (¬ solutionHeading.toList <:+: comment.toList → solution comment = comment) ∧
    solution (solution comment) = solution comment := by
  refine ⟨?_, solution_without_heading, ?_⟩
  · intro h
    exact ⟨solution_with_heading h, headings_not_in_solution h⟩
  -- In both cases the solution holds no heading.
  by_cases h : solutionHeading.toList <:+: comment.toList
  · exact solution_without_heading (headings_not_in_solution h).1
  · rw [solution_without_heading h]
    exact solution_without_heading h

/-- A comment with a heading begun in vain and two that touch. -/
theorem solution_between_headings_repeated :
    solutionHeading.toList <:+:
        "Solution Solution recommandée:Solution recommandée:bRéférences".toList ∧
      solution "Solution Solution recommandée:Solution recommandée:bRéférences" = "b" ∧
      ¬ solutionHeading.toList <:+: "b".toList ∧ ¬ referencesHeading.toList <:+: "b".toList ∧
      solution "b" = "b" := by
  have hheading : solutionHeading.toList <:+:
      "Solution Solution recommandée:Solution recommandée:bRéférences".toList :=
    ⟨"Solution ".toList, "Solution recommandée:bRéférences".toList, by decide +kernel⟩
  have hsolution :
      solution "Solution Solution recommandée:Solution recommandée:bRéférences" = "b" := by
    decide +kernel
  obtain ⟨hplace, -, hagain⟩ := solution_between_headings
    "Solution Solution recommandée:Solution recommandée:bRéférences"
  rw [hsolution] at hplace hagain
  obtain ⟨-, hfree⟩ := hplace hheading
  exact ⟨hheading, hsolution, hfree.1, hfree.2, hagain⟩

end CodeAudit.Report
