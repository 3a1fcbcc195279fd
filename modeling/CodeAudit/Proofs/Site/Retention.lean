/-
  CodeAudit.Proofs.Site.Retention
  ───────────────────────────────
  **HOW LONG A FINISHED AUDIT IS KEPT.**

  A project has one report.  The first audit writes it, and no later audit
  does; but a test suite is kept in the same place.  So what a finished
  project holds is read off the calls since it was finished: the report of
  that audit, unless the owner has had a test suite written meanwhile.

    • `World.lastTests`, `World.testsAsked` — whether a run writes a test suite for
      a project, and which call was the last to do so,
    • `finished_run` — the call that has finished a project, and what has
      become of its report,
    • `finished_audit_kept_until_tests` — the audit is kept if and only if no
      test suite was asked for, and that report is what the owner is shown,
    • `tests_replace_finished_audit` — a run in which it is lost.
-/
import CodeAudit.Proofs.Site.Effects

namespace CodeAudit.Site

open CodeAudit.Data CodeAudit.Audit CodeAudit.Site.Html

/-! ## §1. Test suites in a run. -/

namespace World

/-- Whether the owner of a project has a test suite written for it by a call. -/
def asksForTests (w : World) (owner project : Nat) (c : Call) : Bool :=
  c.route? == some (.tests project) && (w.visitor? c).map (·.id) == some owner

/-- The last call of a run by which the owner of a project has a test suite written. -/
def lastTests (w : World) (owner project : Nat) : List Call → Option Call
  | [] => none
  | c :: rest => ((w.step c).lastTests owner project rest).or
      (if w.asksForTests owner project c then some c else none)

/-- Whether a test suite is asked for in a run. -/
def testsAsked (w : World) (owner project : Nat) (calls : List Call) : Bool :=
  (w.lastTests owner project calls).isSome

/-- The last call of a run with one more call. -/
theorem lastTests_concat (w : World) (owner project : Nat) (calls : List Call) (c : Call) :
    w.lastTests owner project (calls ++ [c])
      = if (w.run calls).asksForTests owner project c then some c
        else w.lastTests owner project calls := by
  induction calls generalizing w with
  | nil => rfl
  | cons d rest ih =>
      rw [List.cons_append, lastTests, ih, lastTests]
      show _ = if ((w.step d).run rest).asksForTests owner project c then some c else _
      split
      · rfl
      · rfl

end World

/-- A project that is found was asked for by its owner. -/
theorem asksForTests_of_found {w : World} {c : Call} {visitor : User} {p : Project}
    (hvisitor : (w.seen c).visitor? = some visitor)
    (hp : (w.seen c).project? visitor.id p.id = some p) (hroute : c.route? = some (.tests p.id)) :
    w.asksForTests p.owner p.id c = true := by
  obtain ⟨-, howner, -⟩ := State.project?_some hp
  have hwho : (w.visitor? c).map (·.id) = some p.owner := by
    show (w.seen c).visitor?.map (·.id) = some p.owner
    rw [hvisitor, howner]
    rfl
  unfold World.asksForTests
  rw [hroute, hwho]
  simp

/-- Step: a call that asks for a test suite leaves it as the report. -/
theorem report_of_asksForTests {w : World} (h : Orderly w.site) {c : Call} {p : Project}
    (hp : p ∈ w.site.projects) (hafter : p ∈ (w.step c).site.projects)
    (hasks : w.asksForTests p.owner p.id c = true) : p.report = p.suiteReport c.services := by
  unfold World.asksForTests at hasks
  simp only [Bool.and_eq_true, beq_iff_eq] at hasks
  rw [World.site_of_tests h hp hasks.2 hasks.1] at hafter
  rcases ((World.orderly_seen h c).mem_edit hp).mp hafter with hsame | ⟨-, hne⟩
  · rw [hsame]
    rfl
  · exact absurd rfl hne

/-! ## §2. From the end of an audit on. -/

/-- The report of an audit, or the test suite that a later call has put in its place. -/
def Project.reportSince (q : Project) (services : Surroundings) : Option Call → Value
  | some d => q.suiteReport d.services
  | none => q.auditReport services

/-- How a project was finished, and what has become of it: `q` is the project before
the call `c` that finishes it, `p` the project after the calls `later`. -/
structure FinishedBy (w : World) (c : Call) (later : List Call) (q : Project) (waited : Bool)
    (p : Project) : Prop where
  there : q ∈ w.site.projects
  unfinished : q.completed = false
  /-- The call keeps the report of an audit, and the project is finished then. -/
  stored : q.finish waited (q.auditReport c.services) ∈ (w.step c).site.projects
  /-- Afterwards the report is that one or the last test suite, and nothing else changes. -/
  since : p = q.finish waited
    (q.reportSince c.services ((w.step c).lastTests q.owner q.id later))

/-- **Run: every finished project was finished by a call**, and its report is the one
of that audit, or the test suite if one was written since. -/
theorem finished_run (now : Moment) (calls : List Call) {p : Project}
    (hp : p ∈ ((World.start now).run calls).site.projects) (hdone : p.completed = true) :
    ∃ (before : List Call) (c : Call) (later : List Call) (q : Project) (waited : Bool),
      calls = before ++ c :: later ∧
        FinishedBy ((World.start now).run before) c later q waited p := by
  induction calls using List.reverseRecOn generalizing p with
  | nil => cases hp
  | append_singleton calls d ih =>
      have horderly := World.orderly_run now calls
      -- What is left of a run is run from where its first call has led.
      have hrun : ∀ {before : List Call} {c : Call} {later : List Call},
          calls = before ++ c :: later →
          (((World.start now).run before).step c).run later = (World.start now).run calls := by
        intro before c later hcalls
        rw [hcalls, World.run_append, World.run_cons]
      rw [World.run_append] at hp
      have horigin := World.origin_step horderly d hp
      cases horigin with
      | kept hkept =>
          obtain ⟨before, c, later, q, waited, hcalls, hq⟩ := ih hkept hdone
          refine ⟨before, c, later ++ [d], q, waited, by rw [hcalls]; simp,
            ⟨hq.there, hq.unfinished, hq.stored, ?_⟩⟩
          rw [World.lastTests_concat, hrun hcalls]
          by_cases hasks : ((World.start now).run calls).asksForTests q.owner q.id d = true
          · rw [if_pos hasks]
            have hsame : p.owner = q.owner ∧ p.id = q.id ∧ p.suiteReport = q.suiteReport := by
              rw [hq.since]
              exact ⟨rfl, rfl, rfl⟩
            rw [← hsame.1, ← hsame.2.1] at hasks
            have hsuite := report_of_asksForTests horderly hkept hp hasks
            rw [Project.reportSince, ← hsame.2.2, ← hsuite, hq.since]
            rfl
          · rw [if_neg hasks]
            exact hq.since
      | submitted _ _ => cases hdone
      | @audited visitor q waited hvisitor hfound hopen =>
          exact ⟨calls, d, [], q, waited, rfl, (State.project?_some hfound).1, hopen, hp, rfl⟩
      | @tested visitor x hvisitor hfound hroute =>
          have hmem : x ∈ ((World.start now).run calls).site.projects :=
            (State.project?_some hfound).1
          obtain ⟨before, c, later, q, waited, hcalls, hq⟩ := ih hmem hdone
          refine ⟨before, c, later ++ [d], q, waited, by rw [hcalls]; simp,
            ⟨hq.there, hq.unfinished, hq.stored, ?_⟩⟩
          have hasks : ((World.start now).run calls).asksForTests q.owner q.id d = true := by
            have hx := asksForTests_of_found hvisitor hfound hroute
            rw [hq.since] at hx
            exact hx
          rw [World.lastTests_concat, hrun hcalls, if_pos hasks, hq.since]
          rfl

/-! ## §3. What is kept. -/

/-- The report of an audit is no test suite. -/
theorem Project.auditReport_ne_suiteReport (p q : Project) (services others : Surroundings) :
    p.auditReport services ≠ q.suiteReport others := by
  intro h
  have hname : part? (p.auditReport services) "project_name" = none := by
    rw [h]
    rfl
  cases hname

/-- **A finished audit is kept until a test suite is written.**  Every finished project
was finished by a call that has kept the report of its audit.  That is still its
report if and only if its owner has asked for no test suite since; else it is the
test suite.  The owner is shown, and given to keep, whatever the report is now. -/
theorem finished_audit_kept_until_tests (now : Moment) (calls : List Call) (p : Project)
    (hp : p ∈ ((World.start now).run calls).site.projects) (hdone : p.completed = true) :
    (∃ (before : List Call) (c : Call) (later : List Call) (q : Project) (waited : Bool),
      calls = before ++ c :: later ∧
      FinishedBy ((World.start now).run before) c later q waited p ∧
      (p.report = q.auditReport c.services ↔
        (((World.start now).run before).step c).testsAsked p.owner p.id later = false)) ∧
    ∀ d : Call, (((World.start now).run calls).visitor? d).map (·.id) = some p.owner →
      (d.route? = some (.report p.id) →
        ((World.start now).run calls).answer d = showReport p) ∧
      (d.route? = some (.download p.id) →
        ((World.start now).run calls).answer d = download p) := by
  have horderly := World.orderly_run now calls
  constructor
  · obtain ⟨before, c, later, q, waited, hcalls, hq⟩ := finished_run now calls hp hdone
    refine ⟨before, c, later, q, waited, hcalls, hq, ?_⟩
    rw [hq.since]
    show q.reportSince c.services _ = _ ↔
      ((((World.start now).run before).step c).lastTests q.owner q.id later).isSome = false
    cases (((World.start now).run before).step c).lastTests q.owner q.id later with
    | none => exact iff_of_true rfl rfl
    | some d =>
        refine iff_of_false ?_ (by simp)
        exact fun h => q.auditReport_ne_suiteReport q c.services d.services h.symm
  · intro d howner
    exact ⟨fun hroute => World.answer_owner horderly hp howner hroute rfl,
      fun hroute => World.answer_owner horderly hp howner hroute rfl⟩

/-- A visitor opens an account, hands in a project of one file, and waits for the
audit. -/
def auditedRun : List Call :=
  [.signUp 0 "ann", .handIn 0 [⟨"a.py", [0x31]⟩], .visit 0 "/results/1/"]

/-- The visitor goes on to ask for a test suite. -/
def testedRun : List Call := auditedRun ++ [.visit 0 "/generate_tests/1/"]

/-- The project of such a run: its number, whether it is finished, and which of the
two kinds of entries its report has. -/
def projectKinds (calls : List Call) : List (Nat × Bool × Bool × Bool) :=
  ((World.start openingTime).run calls).site.projects.map fun p =>
    (p.id, p.completed, (part? p.report "files_analyzed").isSome,
      (part? p.report "tests_report").isSome)

theorem projectKinds_audited : projectKinds auditedRun = [(1, true, true, false)] := by
  decide +kernel

theorem projectKinds_tested : projectKinds testedRun = [(1, true, false, true)] := by
  decide +kernel

/-- A project that was finished and then had a test suite written: the call that
finished it is found in the run, and its report is not kept. -/
theorem finished_audit_kept_until_tests_asked :
    ∃ p ∈ ((World.start openingTime).run testedRun).site.projects,
      p.completed = true ∧
      ∃ (before : List Call) (c : Call) (later : List Call) (q : Project) (waited : Bool),
        testedRun = before ++ c :: later ∧
        FinishedBy ((World.start openingTime).run before) c later q waited p ∧
        (p.report = q.auditReport c.services ↔
          (((World.start openingTime).run before).step c).testsAsked p.owner p.id later
            = false) := by
  obtain ⟨p, hp, hkinds⟩ := exists_of_only projectKinds_tested
  injection hkinds with _ hkinds
  injection hkinds with hdone _
  exact ⟨p, hp, hdone, (finished_audit_kept_until_tests _ testedRun p hp hdone).1⟩

/-- **A finished audit is lost when a test suite is written**: the project stays
finished, and its report is another one. -/
theorem tests_replace_finished_audit :
    ∃ p ∈ ((World.start openingTime).run auditedRun).site.projects,
    ∃ q ∈ ((World.start openingTime).run testedRun).site.projects,
      q.id = p.id ∧ p.completed = true ∧ q.completed = true ∧
      (part? p.report "files_analyzed").isSome = true ∧ q.report ≠ p.report := by
  obtain ⟨p, hp, hbefore⟩ := exists_of_only projectKinds_audited
  obtain ⟨q, hq, hafter⟩ := exists_of_only projectKinds_tested
  simp only [Prod.mk.injEq] at hbefore hafter
  refine ⟨p, hp, q, hq, ?_, hbefore.2.1, hafter.2.1, hbefore.2.2.1, ?_⟩
  · rw [hafter.1, hbefore.1]
  · intro hsame
    have hlost := hafter.2.2.1
    rw [hsame, hbefore.2.2.1] at hlost
    cases hlost

end CodeAudit.Site
