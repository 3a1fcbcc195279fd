/-
  CodeAudit.Proofs.Authorization
  ──────────────────────────────
  **BRANCHES THAT CHECK NO RIGHT.**

  A branch is reported when sensitive data is reached somewhere in it and no
  right is checked anywhere in it.  The check gets there by two shortcuts: a
  branch on a permission is not looked at, and the search for data ends with
  the first node that reaches some.  Neither makes a difference: the
  permission is a right checked in the branch, and whatever comes behind the
  first node could only be found to say the same again.

    • `firstAccess_eq_take` — a search that went on would repeat itself,
    • `checkAuthorization_eq` — a look at a branch on a permission would find
      nothing,
    • `unauthorized_iff` — what the search comes to,
    • `branches_reported_exactly` — the branches that are reported.
-/
import CodeAudit.Proofs.Protection

namespace CodeAudit.Audit

open CodeAudit.Data CodeAudit.Source

/-! ## §1. Branches without authorization. -/

/-- An access to an attribute that has one of some names. -/
def ReadsOneOf (names : List String) (n : Node) : Prop :=
  ∃ line value name, n = .attr line value name ∧ name ∈ names

/-- Sensitive data is reached somewhere in a tree, and no right is checked in it. -/
structure Unauthorized (n : Node) : Prop where
  reaches : ∃ m : Node, m.LiesIn n ∧ ReadsOneOf ["user", "request"] m
  unchecked : ∀ m : Node, m.LiesIn n →
    ¬ CallsOneOf ["has_permission", "has_role", "is_authenticated"] m

theorem readsAttribute_iff {names : List String} {n : Node} :
    readsAttribute names n = true ↔ ReadsOneOf names n := by
  unfold ReadsOneOf
  constructor
  · intro h
    unfold readsAttribute at h
    split at h
    · exact ⟨_, _, _, rfl, List.contains_iff_mem.mp h⟩
    · cases h
  · rintro ⟨line, value, name, rfl, hname⟩
    exact List.contains_iff_mem.mpr hname

/-- A right is checked in a tree when a call that checks one lies in it. -/
theorem checksAuthorization_iff {n : Node} : checksAuthorization n = true ↔
    ∃ m : Node, m.LiesIn n ∧
      CallsOneOf ["has_permission", "has_role", "is_authenticated"] m := by
  unfold checksAuthorization
  rw [List.any_eq_true]
  simp only [Node.mem_walk_iff, callsAttribute_iff]

/-! ## §2. The search. -/

/-- What one node of a branch gives to find. -/
def accessAt (branch n : Node) : List (String → Finding) :=
  if readsAttribute ["user", "request"] n then
    if checksAuthorization branch then [] else [unauthorizedFinding branch.line]
  else []

/-- A branch that checks a right gives nothing to find. -/
theorem accessAt_of_checks {branch : Node} (h : checksAuthorization branch = true) (n : Node) :
    accessAt branch n = [] := by
  unfold accessAt
  rw [if_pos h, ite_self]

/-- Whatever a node gives says one and the same about the branch. -/
theorem eq_of_mem_accessAt {branch n : Node} {make : String → Finding}
    (h : make ∈ accessAt branch n) : make = unauthorizedFinding branch.line := by
  unfold accessAt at h
  split at h
  · split at h
    · cases h
    · exact List.mem_singleton.mp h
  · cases h

/-- **To look at all nodes would only repeat what the first one gives.** -/
theorem firstAccess_eq_take (branch : Node) (nodes : List Node) :
    firstAccess branch nodes = (nodes.flatMap (accessAt branch)).take 1 := by
  induction nodes with
  | nil => rfl
  | cons n rest ih =>
      rw [firstAccess, List.flatMap_cons]
      split
      · rename_i hreads
        cases hchecks : checksAuthorization branch with
        | true =>
            -- The search ends here with nothing, and would have found nothing later.
            have hnone : rest.flatMap (accessAt branch) = [] :=
              List.flatMap_eq_nil_iff.mpr fun m _ => accessAt_of_checks hchecks m
            rw [accessAt_of_checks hchecks, hnone]
            rfl
        | false =>
            unfold accessAt
            rw [if_pos hreads, hchecks]
            rfl
      · rename_i hreads
        rw [ih]
        unfold accessAt
        rw [if_neg hreads]
        rfl

/-- The search finds something when a node reaches data and no right is checked. -/
theorem firstAccess_eq (branch : Node) (nodes : List Node) :
    firstAccess branch nodes =
      if nodes.any (readsAttribute ["user", "request"]) && !checksAuthorization branch then
        [unauthorizedFinding branch.line] else [] := by
  induction nodes with
  | nil => rfl
  | cons n rest ih =>
      rw [firstAccess, List.any_cons, ih]
      cases readsAttribute ["user", "request"] n <;> cases checksAuthorization branch <;> rfl

/-- **What is searched for:** data that is reached, and no right checked. -/
theorem unauthorized_iff {n : Node} :
    (n.walk.any (readsAttribute ["user", "request"]) && !checksAuthorization n) = true ↔
      Unauthorized n := by
  rw [Bool.and_eq_true, Bool.not_eq_true', List.any_eq_true, ← Bool.not_eq_true,
    checksAuthorization_iff]
  simp only [Node.mem_walk_iff, readsAttribute_iff, not_exists, not_and]
  exact ⟨fun h => ⟨h.1, h.2⟩, fun h => ⟨h.1, h.2⟩⟩

/-! ## §3. The check. -/

/-- A permission that a branch is on is a right that it checks. -/
theorem checks_of_permission {line : Nat} {test : Node} {body otherwise : List Node}
    (h : callsAttribute ["has_permission"] test = true) :
    checksAuthorization (.branch line test body otherwise) = true := by
  obtain ⟨l, place, value, name, arguments, keywords, htest, hname⟩ := callsAttribute_iff.mp h
  have hlisted : name ∈ ["has_permission", "has_role", "is_authenticated"] := by
    rw [List.mem_singleton.mp hname]
    decide
  have hpart : test ∈ (Node.branch line test body otherwise).children := List.mem_cons_self
  exact checksAuthorization_iff.mpr
    ⟨test, .part hpart .root, l, place, value, name, arguments, keywords, htest, hlisted⟩

/-- **A branch on a permission might as well be looked at.** -/
theorem checkAuthorization_eq (lines : SourceLines) (line : Nat) (test : Node)
    (body otherwise : List Node) :
    checkAuthorization lines (.branch line test body otherwise) =
      findings lines line (firstAccess (.branch line test body otherwise)
        (Node.branch line test body otherwise).walk) := by
  unfold checkAuthorization
  simp only
  split
  · rename_i hpermission
    rw [firstAccess_eq, checks_of_permission hpermission, Bool.not_true, Bool.and_false,
      if_neg Bool.false_ne_true]
  · rfl

/-- A branch without authorization is found, and its line is quoted once. -/
theorem checkAuthorization_of_unauthorized (lines : SourceLines) {line : Nat} {test : Node}
    {body otherwise : List Node} (h : Unauthorized (.branch line test body otherwise)) :
    checkAuthorization lines (.branch line test body otherwise) =
      (lines.excerpt line).map fun excerpt => [unauthorizedFinding line excerpt] := by
  rw [checkAuthorization_eq, firstAccess_eq, if_pos (unauthorized_iff.mpr h), findings_one]
  rfl

/-- No other branch is. -/
theorem checkAuthorization_of_not (lines : SourceLines) {line : Nat} {test : Node}
    {body otherwise : List Node} (h : ¬ Unauthorized (.branch line test body otherwise)) :
    checkAuthorization lines (.branch line test body otherwise) = .ok [] := by
  rw [checkAuthorization_eq, firstAccess_eq, if_neg fun hyes => h (unauthorized_iff.mp hyes)]
  rfl

/-- The line of a branch of a file can be quoted. -/
theorem excerpt_branch {bytes : List UInt8} {text : List Char} {tree : Node}
    (htext : fileText bytes = .ok text) (htree : parse text = .ok tree) {line : Nat} {test : Node}
    {body otherwise : List Node} (hn : Node.branch line test body otherwise ∈ tree.walk) :
    ∃ excerpt, (SourceLines.of text).excerpt line = .ok excerpt := by
  rcases onLines_of_parse (clean_of_fileText htext) htree _ hn with hlineless | hline
  · cases hlineless
  · exact excerpt_ok hline

/-- **A branch is reported once if sensitive data is reached in it and no right is
checked in it, and is not reported otherwise.**  The check comes to the same if
a branch on a permission is searched like any other, and the search if it goes
on behind the first node that reaches data: it would make the same finding
again.  In a file that is read there is always a line to quote. -/
theorem branches_reported_exactly :
    (∀ (lines : SourceLines) (line : Nat) (test : Node) (body otherwise : List Node),
      let n := Node.branch line test body otherwise
      (Unauthorized n → checkAuthorization lines n =
        (lines.excerpt line).map fun excerpt => [unauthorizedFinding line excerpt]) ∧
      (¬ Unauthorized n → checkAuthorization lines n = .ok []) ∧
      checkAuthorization lines n = findings lines line (firstAccess n n.walk) ∧
      firstAccess n n.walk = (n.walk.flatMap (accessAt n)).take 1 ∧
      ∀ make ∈ n.walk.flatMap (accessAt n), make = unauthorizedFinding line) ∧
    ∀ (bytes : List UInt8) (text : List Char) (tree : Node),
      fileText bytes = .ok text → parse text = .ok tree →
      ∀ (line : Nat) (test : Node) (body otherwise : List Node),
        let n := Node.branch line test body otherwise
        n ∈ tree.walk → ∃ excerpt, (SourceLines.of text).excerpt line = .ok excerpt ∧
          (Unauthorized n → checkAuthorization (SourceLines.of text) n =
            .ok [unauthorizedFinding line excerpt]) ∧
          (¬ Unauthorized n → checkAuthorization (SourceLines.of text) n = .ok []) := by
  constructor
  · intro lines line test body otherwise n
    refine ⟨checkAuthorization_of_unauthorized lines, checkAuthorization_of_not lines,
      checkAuthorization_eq lines line test body otherwise, firstAccess_eq_take n n.walk, ?_⟩
    intro make hmake
    obtain ⟨m, -, hm⟩ := List.mem_flatMap.mp hmake
    exact eq_of_mem_accessAt hm
  · intro bytes text tree htext htree line test body otherwise n hn
    obtain ⟨excerpt, hexcerpt⟩ := excerpt_branch htext htree hn
    refine ⟨excerpt, hexcerpt, fun h => ?_, checkAuthorization_of_not _⟩
    rw [checkAuthorization_of_unauthorized _ h, hexcerpt]
    rfl

/-- A chain of two branches of which the second reaches data. -/
def visitorChain : String := "if a:\n    pass\nelif request.user:\n    pass\n"

/-- Whether a node is a branch on a line. -/
def branchOn (line : Nat) : Node → Bool
  | .branch l _ _ _ => l == line
  | _ => false

/-- The first branch of the chain is reported for what the second one does. -/
theorem branches_reported_exactly_chain :
    ∃ tree n, fileText visitorChain.toUTF8.toList = .ok visitorChain.toList ∧
      parse visitorChain.toList = .ok tree ∧ n ∈ tree.walk ∧ branchOn 1 n = true ∧
      Unauthorized n ∧
      checkAuthorization (SourceLines.of visitorChain.toList) n
        = .ok [unauthorizedFinding 1 "if a:"] := by
  have htext : fileText visitorChain.toUTF8.toList = .ok visitorChain.toList :=
    eq_ok_of_toOption (by decide +kernel)
  have hsearch : ((parse visitorChain.toList).toOption.bind fun tree =>
      (tree.walk.find? (branchOn 1)).map fun n =>
        n.walk.any (readsAttribute ["user", "request"]) && !checksAuthorization n)
          = some true := by
    decide +kernel
  obtain ⟨tree, htree, hfirst⟩ := Option.bind_eq_some_iff.mp hsearch
  obtain ⟨n, hfind, hopen⟩ := Option.map_eq_some_iff.mp hfirst
  have hparse : parse visitorChain.toList = .ok tree := eq_ok_of_toOption htree
  have hn : n ∈ tree.walk := List.mem_of_find?_eq_some hfind
  have hbranch : branchOn 1 n = true := List.find?_some hfind
  have hunauthorized : Unauthorized n := unauthorized_iff.mp hopen
  refine ⟨tree, n, htext, hparse, hn, hbranch, hunauthorized, ?_⟩
  cases n with
  | branch line test body otherwise =>
      have hline : line = 1 := eq_of_beq hbranch
      subst hline
      obtain ⟨excerpt, hexcerpt, hfound, -⟩ :=
        branches_reported_exactly.2 _ _ _ htext hparse _ _ _ _ hn
      have hquoted : (SourceLines.of visitorChain.toList).excerpt 1 = .ok "if a:" := rfl
      have hsame : excerpt = "if a:" := Except.ok.inj (hexcerpt.symm.trans hquoted)
      rw [hfound hunauthorized, hsame]
  | _ => cases hbranch

end CodeAudit.Audit
