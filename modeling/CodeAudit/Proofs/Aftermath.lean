/-
  CodeAudit.Proofs.Aftermath
  ──────────────────────────
  **WHAT THE AUDIT OF A FILE LEAVES BEHIND.**

  The audit of a file takes one step after the other and ends with the first
  that fails.  There are four ways to end: the text cannot be read, the linter
  breaks down, the lines cannot be counted, or nothing fails.  In each of them
  it is settled which counters have been raised by how much, which classes
  have been met, and what has been found.

    • `Ledger.run_raised` — steps raise the counters by what they contribute
      and leave every other entry of the metrics,
    • `contributionOf_goOn`, `contributionOf_tree` — what steps that go on
      contribute, and what the steps of a tree do,
    • `file_ends_in_one_way` — the four ways to end, exactly one for each file.
-/
import CodeAudit.Proofs.Unraised
import CodeAudit.Proofs.Walks

namespace CodeAudit.Audit

open CodeAudit.Data CodeAudit.Source

/-! ## §1. Raising counters. -/

namespace Metrics

/-- There is a whole number for every counter. -/
def Whole (m : Metrics) : Prop := ∀ c : Counter, ∃ n : Int, Dict.get? m c.key = some (.int n)

/-- Metrics with every counter raised by its amount, and nothing else changed. -/
structure Raised (m : Metrics) (amounts : Totals) (after : Metrics) : Prop where
  counters : ∀ (c : Counter) (n : Int), Dict.get? m c.key = some (.int n) →
    Dict.get? after c.key = some (.int (n + amounts c))
  others : ∀ key, key ∉ Counter.all.map Counter.key → Dict.get? after key = Dict.get? m key
  keys : Dict.keys after = Dict.keys m

theorem Raised.refl (m : Metrics) : m.Raised 0 m := by
  refine ⟨?_, fun _ _ => rfl, rfl⟩
  intro c n h
  rw [h]
  simp

theorem Raised.trans {m between after : Metrics} {a b : Totals} (hfirst : m.Raised a between)
    (hthen : between.Raised b after) : m.Raised (a + b) after := by
  refine ⟨?_, ?_, hthen.keys.trans hfirst.keys⟩
  · intro c n h
    rw [hthen.counters c _ (hfirst.counters c n h), Pi.add_apply, add_assoc]
  · intro key hkey
    rw [hthen.others key hkey, hfirst.others key hkey]

theorem Raised.whole {m after : Metrics} {amounts : Totals} (h : m.Raised amounts after)
    (hm : m.Whole) : after.Whole := by
  intro c
  obtain ⟨n, hn⟩ := hm c
  exact ⟨n + amounts c, h.counters c n hn⟩

/-- A counter that gets nothing keeps its value. -/
theorem Raised.kept {m after : Metrics} {amounts : Totals} (h : m.Raised amounts after)
    (hm : m.Whole) {c : Counter} (hc : amounts c = 0) :
    Dict.get? after c.key = Dict.get? m c.key := by
  obtain ⟨n, hn⟩ := hm c
  rw [h.counters c n hn, hn, hc, add_zero]

/-- Writing at a key that is there keeps the keys. -/
theorem keys_put {d : Dict} {key : String} {old : Value} (h : Dict.get? d key = some old)
    (v : Value) : Dict.keys (Dict.put d key v) = Dict.keys d := by
  induction d with
  | nil => cases h
  | cons entry rest ih =>
      obtain ⟨k, w⟩ := entry
      by_cases hk : k = key
      · subst hk
        simp [Dict.put, Dict.keys]
      · have hb : (k == key) = false := by simpa using hk
        have hb' : (key == k) = false := by simpa using Ne.symm hk
        have hrest : Dict.get? rest key = some old := by
          simpa [Dict.get?, List.lookup_cons, hb'] using h
        have hkeys : List.map (·.1) (Dict.put rest key v) = List.map (·.1) rest := ih hrest
        simp only [Dict.put, hb, Bool.false_eq_true, if_false, Dict.keys, List.map_cons, hkeys]

/-- Adding to a counter raises it, and never fails. -/
theorem count_raised {m : Metrics} (hm : m.Whole) (c : Counter) (n : Int) :
    ∃ after, m.count c n = .ok after ∧ m.Raised (Pi.single c n) after := by
  obtain ⟨old, hold⟩ := hm c
  have hget : m.get c.key = .ok (.int old) := by simp [get, Value.field, hold]
  refine ⟨Dict.put m c.key (.int (old + n)), ?_, ?_, ?_, keys_put hold _⟩
  · unfold count
    rw [hget]
    rfl
  · intro d amount hd
    rw [Dict.get?_put]
    by_cases hdc : d = c
    · subst hdc
      rw [hold] at hd
      cases hd
      simp
    · rw [if_neg fun hkey => hdc (Counter.key_inj.mp hkey), hd, Pi.single_eq_of_ne hdc, add_zero]
  · intro key hkey
    have hne : key ≠ c.key := fun heq => hkey (heq ▸ List.mem_map_of_mem c.mem_all)
    rw [Dict.get?_put, if_neg hne]

end Metrics

/-! ## §2. Running steps. -/

namespace Ledger

/-- A step that does not halt raises what it contributes. -/
theorem step_raised {m : Metrics} (hm : m.Whole) (h : Heritage) (fs : List Finding) {s : Step}
    (hs : s.halts = false) :
    ∃ after, step ⟨m, h, fs⟩ s
        = .ok ⟨after, s.contribution.declared.foldl Heritage.meet h,
            fs ++ s.contribution.findings⟩ ∧
      m.Raised s.contribution.totals after := by
  cases s with
  | count c n =>
      obtain ⟨after, hcount, hraised⟩ := Metrics.count_raised hm c n
      exact ⟨after, by simp [step, hcount, Step.contribution], hraised⟩
  | need c =>
      obtain ⟨n, hn⟩ := hm c
      refine ⟨m, ?_, .refl m⟩
      simp [step, Metrics.get, Value.field, hn, Step.contribution, Contribution.none]
  | meet c => exact ⟨m, by simp [step, Step.contribution], .refl m⟩
  | find f => exact ⟨m, by simp [step, Step.contribution], .refl m⟩
  | halt reason => cases hs

/-- **Steps raise what they contribute up to the first that halts**, and touch
nothing else of the metrics. -/
theorem run_raised {m : Metrics} (hm : m.Whole) (h : Heritage) (fs : List Finding)
    (steps : List Step) :
    ∃ after, run ⟨m, h, fs⟩ steps
        = ⟨after, (contributionOf steps).declared.foldl Heritage.meet h,
            fs ++ (contributionOf steps).findings⟩ ∧
      m.Raised (contributionOf steps).totals after := by
  induction steps generalizing m h fs with
  | nil => exact ⟨m, by simp [run, contributionOf, Contribution.none], .refl m⟩
  | cons s rest ih =>
      cases hs : s.halts with
      | false =>
          obtain ⟨between, hstep, hfirst⟩ := step_raised hm h fs hs
          obtain ⟨after, hrest, hthen⟩ := ih (hfirst.whole hm)
            (s.contribution.declared.foldl Heritage.meet h) (fs ++ s.contribution.findings)
          have hcontribution : contributionOf (s :: rest)
              = s.contribution.followedBy (contributionOf rest) := by
            simp [contributionOf, hs]
          refine ⟨after, ?_, ?_⟩
          · rw [run, hstep, hcontribution]
            simp only
            rw [hrest]
            simp [Contribution.followedBy]
          · rw [hcontribution]
            exact hfirst.trans hthen
      | true =>
          cases s with
          | halt reason =>
              refine ⟨m, ?_, ?_⟩
              · simp [run, step, contributionOf, Step.halts, Step.contribution]
              · simpa [contributionOf, Step.halts, Step.contribution] using Metrics.Raised.refl m
          | _ => cases hs

end Ledger

/-! ## §3. The steps of a tree. -/

/-- What a step adds to a counter. -/
def Step.counted? : Step → Option (Counter × Int)
  | .count c n => some (c, n)
  | _ => none

/-- The class that a step meets. -/
def Step.met? : Step → Option Declared
  | .meet c => some c
  | _ => none

/-- **Steps that go on contribute what each of them does.** -/
theorem contributionOf_goOn {steps : List Step} (h : GoOn steps) :
    contributionOf steps = ⟨Totals.of (steps.filterMap Step.counted?),
      steps.filterMap Step.met?, steps.filterMap Step.made?⟩ := by
  induction steps with
  | nil => rfl
  | cons s rest ih =>
      obtain ⟨hs, hrest⟩ := List.forall_mem_cons.mp h
      unfold contributionOf
      rw [hs, if_neg Bool.false_ne_true, ih hrest]
      cases s with
      | count c n =>
          show Contribution.mk (Pi.single c n + _) _ _ = _
          rw [← Totals.of_cons]
          rfl
      | halt reason => cases hs
      | _ => exact congrArg (fun t => Contribution.mk t _ _) (zero_add _)

/-- Counting steps count, and meet no class. -/
theorem counted_countSteps (counts : List (Counter × Int)) :
    (countSteps counts).filterMap Step.counted? = counts ∧
      (countSteps counts).filterMap Step.met? = [] := by
  induction counts with
  | nil => exact ⟨rfl, rfl⟩
  | cons p rest ih => exact ⟨congrArg (p :: ·) ih.1, ih.2⟩

/-- Counting steps contribute what they count. -/
theorem contributionOf_counts (counts : List (Counter × Int)) :
    contributionOf (countSteps counts) = ⟨Totals.of counts, [], []⟩ := by
  obtain ⟨hcounted, hmet⟩ := counted_countSteps counts
  rw [contributionOf_goOn (countSteps_goOn counts), hcounted, hmet, made_countSteps]

/-- Checks count nothing and meet no class. -/
theorem counted_checkSteps (k : Keywords) (lines : SourceLines) (n : Node) (cs : List Check) :
    (cs.flatMap (checkSteps k lines n)).filterMap Step.counted? = [] ∧
      (cs.flatMap (checkSteps k lines n)).filterMap Step.met? = [] := by
  have hnone : ∀ s ∈ cs.flatMap (checkSteps k lines n), s.counted? = none ∧ s.met? = none := by
    intro s hs
    obtain ⟨c, -, hs⟩ := List.mem_flatMap.mp hs
    unfold checkSteps at hs
    split at hs
    · obtain ⟨f, -, rfl⟩ := List.mem_map.mp hs
      exact ⟨rfl, rfl⟩
    · rw [List.mem_singleton.mp hs]
      exact ⟨rfl, rfl⟩
  exact ⟨List.filterMap_eq_nil_iff.mpr fun s hs => (hnone s hs).1,
    List.filterMap_eq_nil_iff.mpr fun s hs => (hnone s hs).2⟩

/-- A walk counts what its nodes count, and meets no class. -/
theorem counted_nodeSteps (k : Keywords) (lines : SourceLines) (nodes : List Node) :
    (nodes.flatMap (nodeSteps k lines)).filterMap Step.counted? = nodes.flatMap structuralCounts ∧
      (nodes.flatMap (nodeSteps k lines)).filterMap Step.met? = [] := by
  induction nodes with
  | nil => exact ⟨rfl, rfl⟩
  | cons n rest ih =>
      obtain ⟨hcheck, hcheck'⟩ := counted_checkSteps k lines n Check.all
      obtain ⟨hcount, hcount'⟩ := counted_countSteps (structuralCounts n)
      simp only [List.flatMap_cons, List.filterMap_append, nodeSteps, hcheck, hcheck', hcount,
        hcount', ih.1, ih.2, List.nil_append, and_self]

/-- What a tree adds to the counters: its blocks, then its nodes. -/
def treeTotals (tree : Node) : Totals :=
  Totals.of (complexityCounts tree ++ tree.walk.flatMap structuralCounts)

/-- A tree adds to counters of trees only. -/
theorem treeTotals_eq_zero (tree : Node) {c : Counter} (hc : c ∉ treeCounters) :
    treeTotals tree c = 0 := by
  have hraised : ∀ p ∈ complexityCounts tree ++ tree.walk.flatMap structuralCounts,
      p.1 ∈ treeCounters := by
    intro p hp
    rcases List.mem_append.mp hp with hp | hp
    · exact raised_complexity tree p hp
    · obtain ⟨n, -, hp⟩ := List.mem_flatMap.mp hp
      exact raised_structure n p hp
  refine Totals.of_apply_eq_zero fun hmem => hc ?_
  obtain ⟨p, hp, rfl⟩ := List.mem_map.mp hmem
  exact hraised p hp

/-- **The steps of a tree contribute its counts, its classes and the findings of its
walk.** -/
theorem contributionOf_tree {k : Keywords} {text : List Char} {tree : Node} {found : List Finding}
    (hlines : OnLines text tree) (hfound : walkFindings k text tree = .ok found) :
    contributionOf (treeSteps k text tree) = ⟨treeTotals tree, tree.declarations, found⟩ := by
  obtain ⟨hblocks, hblocks'⟩ := counted_countSteps (complexityCounts tree)
  obtain ⟨hnodes, hnodes'⟩ := counted_nodeSteps k (SourceLines.of text) tree.walk
  have hmeets : ∀ cs : List Declared, (cs.map Step.meet).filterMap Step.counted? = [] ∧
      (cs.map Step.meet).filterMap Step.met? = cs := by
    intro cs
    induction cs with
    | nil => exact ⟨rfl, rfl⟩
    | cons c rest ih => exact ⟨ih.1, congrArg (c :: ·) ih.2⟩
  rw [contributionOf_goOn (goOn_of_onLines k hlines), made_treeSteps hfound]
  simp only [treeSteps, List.filterMap_append, hblocks, hblocks', hnodes, hnodes',
    (hmeets _).1, (hmeets _).2, List.append_nil, List.nil_append, treeTotals]

/-! ## §4. Four ways to end. -/

/-- How the audit of a file ends. -/
inductive Ending where
  /-- Its bytes are no text, or its text is no module. -/
  | unread
  /-- The linter breaks down over it. -/
  | unlinted
  /-- Its lines cannot be counted. -/
  | uncounted
  /-- Nothing fails. -/
  | complete
  deriving DecidableEq, Repr

/-- What the audit of a file has left behind, by the way it has ended.  `m` and `h`
are the metrics and the heritage before it. -/
inductive LeavesBehind (k : Keywords) (lint : LintReply) (bytes : List UInt8) (m : Metrics)
    (h : Heritage) (l : Ledger) : Ending → Prop where
  /-- Nothing but a finding that says why. -/
  | undecoded {fault : Text.Utf8.Fault} (htext : fileText bytes = .error fault)
      (hleft : l = ⟨m, h, [.failed fault.message]⟩) : LeavesBehind k lint bytes m h l .unread
  | unparsed {text : List Char} {flaw : Flaw} (htext : fileText bytes = .ok text)
      (htree : parse text = .error flaw) (hleft : l = ⟨m, h, [.failed flaw.clause]⟩) :
      LeavesBehind k lint bytes m h l .unread
  /-- The whole tree, and one finding behind those of the walk. -/
  | unlinted {text : List Char} {tree : Node} {reason : String} {found : List Finding}
      (htext : fileText bytes = .ok text) (htree : parse text = .ok tree)
      (hlint : lint = .fails reason) (hwalk : walkFindings k text tree = .ok found)
      (hmetrics : m.Raised (treeTotals tree) l.metrics)
      (hkept : ∀ c ∈ [Counter.lint, .codeLines, .commentLines],
        Dict.get? l.metrics c.key = Dict.get? m c.key)
      (hheritage : l.heritage = h.visit tree) (hfindings : l.findings = found ++ [.failed reason]) :
      LeavesBehind k lint bytes m h l .unlinted
  /-- The whole tree and the messages of the linter, and one finding behind those of
  the walk. -/
  | uncounted {text : List Char} {tree : Node} {messages : Int} {line : Nat}
      {found : List Finding} (htext : fileText bytes = .ok text) (htree : parse text = .ok tree)
      (hlint : lint = .messages messages) (hlines : Lines.count text = .error line)
      (hwalk : walkFindings k text tree = .ok found)
      (hmetrics : m.Raised (treeTotals tree + Totals.of [(.lint, messages)]) l.metrics)
      (hkept : ∀ c ∈ [Counter.codeLines, .commentLines],
        Dict.get? l.metrics c.key = Dict.get? m c.key)
      (hheritage : l.heritage = h.visit tree)
      (hfindings : l.findings = found ++ [.failed (Lines.unfinished line)]) :
      LeavesBehind k lint bytes m h l .uncounted
  /-- Everything, and the findings of the walk only. -/
  | complete {text : List Char} {tree : Node} {messages : Int} {count : Lines.Count}
      {found : List Finding} (htext : fileText bytes = .ok text) (htree : parse text = .ok tree)
      (hlint : lint = .messages messages) (hlines : Lines.count text = .ok count)
      (hwalk : walkFindings k text tree = .ok found)
      (hmetrics : m.Raised (treeTotals tree + Totals.of ((.lint, messages) :: lineCounts count))
        l.metrics)
      (hheritage : l.heritage = h.visit tree) (hfindings : l.findings = found) :
      LeavesBehind k lint bytes m h l .complete

/-- How a file ends. -/
def ending (lint : LintReply) (bytes : List UInt8) : Ending :=
  match fileText bytes with
  | .error _ => .unread
  | .ok text =>
      match parse text, lint, Lines.count text with
      | .error _, _, _ => .unread
      | .ok _, .fails _, _ => .unlinted
      | .ok _, .messages _, .error _ => .uncounted
      | .ok _, .messages _, .ok _ => .complete

/-- **Text, linter and lines settle the way to end.** -/
theorem LeavesBehind.eq_ending {k : Keywords} {lint : LintReply} {bytes : List UInt8} {m : Metrics}
    {h : Heritage} {l : Ledger} {way : Ending} (hway : LeavesBehind k lint bytes m h l way) :
    way = ending lint bytes := by
  unfold ending
  cases hway with
  | undecoded htext => simp only [htext]
  | unparsed htext htree => simp only [htext, htree]
  | unlinted htext htree hlint => simp only [htext, htree, hlint]
  | uncounted htext htree hlint hlines => simp only [htext, htree, hlint, hlines]
  | complete htext htree hlint hlines => simp only [htext, htree, hlint, hlines]

/-- What is left of a file that is a module: its tree first, then what the linter
and the lines contribute. -/
theorem auditFile_tree {k : Keywords} {lint : LintReply} {bytes : List UInt8} {m : Metrics}
    (hm : m.Whole) (h : Heritage) {text : List Char} {tree : Node} {found : List Finding}
    (htext : fileText bytes = .ok text) (htree : parse text = .ok tree)
    (hlines : OnLines text tree) (hwalk : walkFindings k text tree = .ok found) {c : Contribution}
    (hrest : contributionOf (lintSteps lint ++ lineSteps text) = c) (hmeets : c.declared = []) :
    m.Raised (treeTotals tree + c.totals) (auditFile k lint bytes m h).metrics ∧
      (auditFile k lint bytes m h).heritage = h.visit tree ∧
      (auditFile k lint bytes m h).findings = found ++ c.findings := by
  have hsteps : fileSteps k lint bytes
      = treeSteps k text tree ++ (lintSteps lint ++ lineSteps text) := by
    unfold fileSteps textSteps
    simp only [htext, htree, List.append_assoc]
  have hcontribution : contributionOf (fileSteps k lint bytes)
      = ⟨treeTotals tree + c.totals, tree.declarations, found ++ c.findings⟩ := by
    rw [hsteps, contributionOf_append (goOn_of_onLines k hlines),
      contributionOf_tree hlines hwalk, hrest]
    unfold Contribution.followedBy
    rw [hmeets, List.append_nil]
  obtain ⟨after, hrun, hraised⟩ := Ledger.run_raised hm h [] (fileSteps k lint bytes)
  unfold auditFile
  rw [hrun, hcontribution]
  rw [hcontribution] at hraised
  exact ⟨hraised, rfl, rfl⟩

/-- **The audit of a file ends in one of the four ways.** -/
theorem leavesBehind (k : Keywords) (lint : LintReply) (bytes : List UInt8) {m : Metrics}
    (hm : m.Whole) (h : Heritage) :
    ∃ way, LeavesBehind k lint bytes m h (auditFile k lint bytes m h) way := by
  cases htext : fileText bytes with
  | error fault =>
      refine ⟨_, .undecoded htext ?_⟩
      unfold auditFile fileSteps
      rw [htext]
      rfl
  | ok text =>
    cases htree : parse text with
    | error flaw =>
        refine ⟨_, .unparsed htext htree ?_⟩
        unfold auditFile fileSteps textSteps
        rw [htext]
        simp only [htree]
        rfl
    | ok tree =>
        have hlines : OnLines text tree := onLines_of_parse (clean_of_fileText htext) htree
        obtain ⟨found, hwalk⟩ := walkFindings_ok k hlines
        -- The counters of the linter and of lines are none of a tree's.
        have hlint : treeTotals tree .lint = 0 := treeTotals_eq_zero tree (by decide)
        have hcode : treeTotals tree .codeLines = 0 := treeTotals_eq_zero tree (by decide)
        have hcomment : treeTotals tree .commentLines = 0 := treeTotals_eq_zero tree (by decide)
        cases lint with
        | fails reason =>
            have hrest : contributionOf (lintSteps (.fails reason) ++ lineSteps text)
                = ⟨0, [], [.failed reason]⟩ := rfl
            obtain ⟨hraised, hheritage, hfindings⟩ :=
              auditFile_tree hm h htext htree hlines hwalk hrest rfl
            rw [add_zero] at hraised
            refine ⟨_, .unlinted htext htree rfl hwalk hraised ?_ hheritage hfindings⟩
            intro c hc
            simp only [List.mem_cons, List.not_mem_nil, or_false] at hc
            rcases hc with rfl | rfl | rfl
            · exact hraised.kept hm hlint
            · exact hraised.kept hm hcode
            · exact hraised.kept hm hcomment
        | messages messages =>
            cases hcount : Lines.count text with
            | error line =>
                have hrest : contributionOf (lintSteps (.messages messages) ++ lineSteps text)
                    = ⟨Totals.of [(.lint, messages)], [], [.failed (Lines.unfinished line)]⟩ := by
                  unfold lineSteps
                  rw [hcount]
                  rfl
                obtain ⟨hraised, hheritage, hfindings⟩ :=
                  auditFile_tree hm h htext htree hlines hwalk hrest rfl
                refine ⟨_, .uncounted htext htree rfl hcount hwalk hraised ?_ hheritage hfindings⟩
                intro c hc
                simp only [List.mem_cons, List.not_mem_nil, or_false] at hc
                rcases hc with rfl | rfl
                · exact hraised.kept hm (by simp [hcode])
                · exact hraised.kept hm (by simp [hcomment])
            | ok count =>
                have hrest : contributionOf (lintSteps (.messages messages) ++ lineSteps text)
                    = ⟨Totals.of ((.lint, messages) :: lineCounts count), [], []⟩ := by
                  unfold lineSteps
                  rw [hcount]
                  exact contributionOf_counts ((.lint, messages) :: lineCounts count)
                obtain ⟨hraised, hheritage, hfindings⟩ :=
                  auditFile_tree hm h htext htree hlines hwalk hrest rfl
                rw [List.append_nil] at hfindings
                exact ⟨_, .complete htext htree rfl hcount hwalk hraised hheritage hfindings⟩

/-! ## §5. One failure at most. -/

/-- A finding that says why an audit has ended. -/
def Finding.IsError (f : Finding) : Prop :=
  Dict.get? f.toDict "type" = some (.text "Erreur d'analyse")

theorem Finding.isError_failed (reason : String) : (Finding.failed reason).IsError := rfl

/-- No finding of a walk does. -/
theorem not_isError_of_walk {k : Keywords} {text : List Char} {tree : Node} {found : List Finding}
    (h : walkFindings k text tree = .ok found) : ∀ f ∈ found, ¬ f.IsError := by
  intro f hf herror
  obtain ⟨_, -, -, c, _, -, hreports⟩ := reports_walk h hf
  unfold Finding.IsError at herror
  rw [Finding.get?_type, hreports.made.category] at herror
  have htitle : c.category.title = "Erreur d'analyse" := by simpa using herror
  revert htitle
  cases c <;> decide

/-- **An audit that is not complete has one error among its findings, and it is the
last of them.** -/
theorem LeavesBehind.errors {k : Keywords} {lint : LintReply} {bytes : List UInt8} {m : Metrics}
    {h : Heritage} {l : Ledger} {way : Ending} (hway : LeavesBehind k lint bytes m h l way) :
    (∀ f ∈ l.findings.dropLast, ¬ f.IsError) ∧
      ((∃ f ∈ l.findings, f.IsError) ↔ way ≠ .complete) := by
  have hlast : ∀ (found : List Finding) (reason : String), (∀ f ∈ found, ¬ f.IsError) →
      l.findings = found ++ [.failed reason] → way ≠ .complete →
      (∀ f ∈ l.findings.dropLast, ¬ f.IsError) ∧
        ((∃ f ∈ l.findings, f.IsError) ↔ way ≠ .complete) := by
    intro found reason hfound hfindings hne
    rw [hfindings, List.dropLast_concat]
    refine ⟨hfound, fun _ => hne, fun _ => ⟨.failed reason, ?_, Finding.isError_failed reason⟩⟩
    exact List.mem_append_right _ (List.mem_singleton.mpr rfl)
  cases hway with
  | undecoded _ hleft => exact hlast [] _ (List.forall_mem_nil _) (by rw [hleft]; rfl) (by decide)
  | unparsed _ _ hleft => exact hlast [] _ (List.forall_mem_nil _) (by rw [hleft]; rfl) (by decide)
  | unlinted _ _ _ hwalk _ _ _ hfindings =>
      exact hlast _ _ (not_isError_of_walk hwalk) hfindings (by decide)
  | uncounted _ _ _ _ hwalk _ _ _ hfindings =>
      exact hlast _ _ (not_isError_of_walk hwalk) hfindings (by decide)
  | complete _ _ _ _ hwalk _ _ hfindings =>
      have hnone := not_isError_of_walk hwalk
      rw [hfindings]
      refine ⟨fun f hf => hnone f (List.dropLast_subset _ hf), ?_⟩
      simp only [ne_eq, not_true, iff_false]
      rintro ⟨f, hf, herror⟩
      exact hnone f hf herror

/-- There is a whole number for every counter afterwards. -/
theorem LeavesBehind.whole {k : Keywords} {lint : LintReply} {bytes : List UInt8} {m : Metrics}
    {h : Heritage} {l : Ledger} {way : Ending} (hway : LeavesBehind k lint bytes m h l way)
    (hm : m.Whole) : l.metrics.Whole := by
  cases hway with
  | undecoded _ hleft => rwa [hleft]
  | unparsed _ _ hleft => rwa [hleft]
  | unlinted _ _ _ _ hraised => exact hraised.whole hm
  | uncounted _ _ _ _ _ hraised => exact hraised.whole hm
  | complete _ _ _ _ _ hraised => exact hraised.whole hm

/-- **The audit of a file ends in exactly one of four ways**: unread, unlinted,
uncounted or complete.  There is an error among its findings unless the audit is
complete, and it is the last of them.  The next file finds metrics of the same
kind. -/
theorem file_ends_in_one_way (k : Keywords) (lint : LintReply) (bytes : List UInt8) {m : Metrics}
    (hm : m.Whole) (h : Heritage) :
    ∃ way, LeavesBehind k lint bytes m h (auditFile k lint bytes m h) way ∧
      (∀ other, LeavesBehind k lint bytes m h (auditFile k lint bytes m h) other → other = way) ∧
      (∀ f ∈ (auditFile k lint bytes m h).findings.dropLast, ¬ f.IsError) ∧
      ((∃ f ∈ (auditFile k lint bytes m h).findings, f.IsError) ↔ way ≠ .complete) ∧
      (auditFile k lint bytes m h).metrics.Whole := by
  obtain ⟨way, hway⟩ := leavesBehind k lint bytes hm h
  obtain ⟨hlast, herror⟩ := hway.errors
  refine ⟨way, hway, ?_, hlast, herror, hway.whole hm⟩
  intro other hother
  rw [hother.eq_ending, hway.eq_ending]

/-- The metrics of a new audit are whole, and the linter breaks down over a file. -/
theorem file_ends_in_one_way_unlinted :
    Metrics.zero.Whole ∧ ∃ way, LeavesBehind .standard (.fails "timeout") "x = 1\n".toUTF8.toList
      .zero [] (auditFile .standard (.fails "timeout") "x = 1\n".toUTF8.toList .zero []) way ∧
      way = .unlinted := by
  have hwhole : Metrics.zero.Whole := fun c => ⟨0, Metrics.get?_ofTotals 0 c⟩
  obtain ⟨way, hway, -⟩ :=
    file_ends_in_one_way .standard (.fails "timeout") "x = 1\n".toUTF8.toList hwhole []
  refine ⟨hwhole, way, hway, ?_⟩
  rw [hway.eq_ending]
  decide +kernel

end CodeAudit.Audit
