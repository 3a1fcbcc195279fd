/-
  CodeAudit.Proofs.Site.Effects
  ─────────────────────────────
  **WHAT A REQUEST CAN DO.**

  A request is answered with a list of changes.  Seen as a whole, there are
  five things that can come of it: a session begins or ends, an account is
  opened, a project is handed in, a project is audited, or a test suite is
  written for one.  The last three need a visitor, and the last two touch a
  project that was looked up among the visitor's own.

    • `Effect` — the five cases, with what must hold for each,
    • `effect_respond` — there is no other,
    • `Orderly`, `orderly_run` — users and projects have numbers of their own
      in every state that calls lead to,
    • `Origin`, `origin_step`, `projects_run` — where a project after a call
      comes from, and what follows for all projects,
    • `stays_run` — every project stays, with its owner and its files.
-/
import CodeAudit.Proofs.Session
import CodeAudit.Proofs.Site.Traffic

namespace CodeAudit.Site

open CodeAudit.Data CodeAudit.Audit

/-! ## §1. Reports that are kept. -/

/-- The audit of a project as a job. -/
def Project.job (p : Project) (services : Surroundings) : Job :=
  ⟨services.toServices, auditDirectory, p.folder services.disk⟩

/-- Where an auditor stands after a project. -/
def Project.standing (p : Project) (services : Surroundings) : Standing :=
  Standing.start.after .full (p.job services)

/-- The report that an audit of a project makes. -/
def Project.auditReport (p : Project) (services : Surroundings) : Value :=
  .dict (p.standing services).report

/-- The report that holds the test suite of a project. -/
def Project.suiteReport (p : Project) (services : Surroundings) : Value :=
  .dict [("tests_report", .ofWording (testSuite (p.entries services.disk)))]

/-- **The audit of a project always succeeds.** -/
theorem Project.audit_eq (p : Project) (services : Surroundings) :
    ∃ trace, p.audit services = (.ok (p.auditReport services), trace) := by
  obtain ⟨trace, haudit⟩ := audit_session .full [] (p.job services)
  refine ⟨trace, ?_⟩
  have hnew : Auditor.new.audit .full services.toServices auditDirectory (p.folder services.disk)
      = (.ok (), ⟨.standard, (p.standing services).report⟩, trace) := haudit
  unfold Project.audit
  rw [hnew]
  rfl

/-- A project that has been audited; one that was waited for is looked at no more. -/
def Project.finish (waited : Bool) (report : Value) (p : Project) : Project :=
  { p with report := report, completed := true, current := if waited then none else p.current }

/-- A project with another report. -/
def Project.keep (report : Value) (p : Project) : Project := { p with report := report }

/-- The project that a submission makes. -/
def State.handedIn (s : State) (owner : Nat) (a : Accepted) : Project :=
  ⟨s.nextProject, owner, a.name, s.now, false, .null, none, storeFiles owner s.nextFile a.files⟩

/-! ## §2. Editing. -/

/-- A function on projects that leaves their numbers. -/
def KeepsNumber (f : Project → Project) : Prop := ∀ p, (f p).id = p.id

theorem State.edit_edit (s : State) (id : Nat) {f g : Project → Project} (hf : KeepsNumber f) :
    (s.edit id f).edit id g = s.edit id (g ∘ f) := by
  have hone : ∀ p : Project,
      (if (if p.id == id then f p else p).id == id then g (if p.id == id then f p else p)
        else if p.id == id then f p else p) = if p.id == id then g (f p) else p := by
    intro p
    by_cases h : p.id = id
    · simp [h, hf p]
    · simp [h]
  unfold State.edit
  simp only [List.map_map, Function.comp_def, hone]

/-- Looking at one file after the other only changes which one is looked at. -/
theorem applyAll_looking (s : State) (id : Nat) (files : List StoredFile) :
    ∃ look : Option String → Option String,
      s.applyAll (files.map fun f => .setCurrent id (some f.name))
        = s.edit id fun p => { p with current := look p.current } := by
  induction files generalizing s with
  | nil =>
      refine ⟨fun current => current, ?_⟩
      have hsame : ∀ p : Project, (if p.id == id then p else p) = p := fun p => ite_self p
      show s = s.edit id fun p => p
      unfold State.edit
      simp only [hsame, List.map_id']
  | cons f rest ih =>
      obtain ⟨look, hlook⟩ := ih (s.edit id fun p => { p with current := some f.name })
      refine ⟨fun _ => look (some f.name), ?_⟩
      show (s.edit id fun p => { p with current := some f.name }).applyAll
        (rest.map fun f => .setCurrent id (some f.name)) = _
      rw [hlook, State.edit_edit]
      · rfl
      · exact fun _ => rfl

/-- The changes of an audit that was waited for, taken together. -/
theorem applyAll_waited (s : State) (id : Nat) (files : List StoredFile) (report : Value) :
    s.applyAll ((files.map fun f => .setCurrent id (some f.name))
        ++ [.setReport id report, .complete id, .setCurrent id none])
      = s.edit id (Project.finish true report) := by
  obtain ⟨look, hlook⟩ := applyAll_looking s id files
  unfold State.applyAll at hlook ⊢
  rw [List.foldl_append, hlook]
  show (((s.edit id _).edit id _).edit id _).edit id _ = _
  rw [State.edit_edit, State.edit_edit, State.edit_edit]
  · rfl
  · exact fun _ => rfl
  · exact fun _ => rfl
  · exact fun _ => rfl

/-- The changes of an audit that was not waited for, taken together. -/
theorem applyAll_audited (s : State) (id : Nat) (report : Value) :
    s.applyAll [.setReport id report, .complete id] = s.edit id (Project.finish false report) := by
  show (s.edit id _).edit id _ = _
  rw [State.edit_edit]
  · rfl
  · exact fun _ => rfl

/-! ## §3. The effects of a request. -/

/-- What can come of a request. -/
inductive Effect (services : Surroundings) (r : Request) (s : State) : State → Prop
  /-- A session begins, ends or goes on. -/
  | session (session : Option Session) : Effect services r s { s with session := session }
  /-- An account is opened. -/
  | account (name password : String) (session : Option Session) :
      Effect services r s { s.apply (.addUser name password) with session := session }
  /-- A visitor hands in a project. -/
  | submission {visitor : User} {a : Accepted} (hvisitor : s.visitor? = some visitor)
      (haccepted : r.submission.check = .ok a) :
      Effect services r s
        { s.add (s.handedIn visitor.id a) with messages := s.messages ++ [thanks] }
  /-- A project of the visitor is audited for the first time. -/
  | audit {visitor : User} {p : Project} (waited : Bool) (hvisitor : s.visitor? = some visitor)
      (hp : s.project? visitor.id p.id = some p) (hopen : p.completed = false) :
      Effect services r s (s.edit p.id (Project.finish waited (p.auditReport services)))
  /-- A test suite is written for a project of the visitor. -/
  | tests {visitor : User} {p : Project} (hvisitor : s.visitor? = some visitor)
      (hp : s.project? visitor.id p.id = some p)
      (hroute : Route.ofPath? r.address.path = some (.tests p.id)) :
      Effect services r s (s.edit p.id (Project.keep (p.suiteReport services)))

section

variable {services : Surroundings} {r : Request} {s : State}

/-- Without changes the state stays. -/
theorem Effect.idle {o : Outcome} (h : o.changes = []) : Effect services r s (s.after o) := by
  unfold State.after
  rw [h]
  exact .session s.session

/-- A project that is found has the number that was asked for. -/
theorem State.project?_some {owner id : Nat} {p : Project} (h : s.project? owner id = some p) :
    p ∈ s.projects ∧ p.owner = owner ∧ p.id = id := by
  have hkeys := List.find?_some h
  simp only [Bool.and_eq_true, beq_iff_eq] at hkeys
  exact ⟨List.mem_of_find?_eq_some h, hkeys⟩

/-- A view of a project of the visitor has an effect if it has one on the project
that is found. -/
theorem Effect.withProject {visitor : User} {id : Nat} {view : Project → Outcome}
    (h : ∀ p, s.project? visitor.id p.id = some p → p.id = id →
      Effect services r s (s.after (view p))) :
    Effect services r s (s.after (withProject s visitor id view)) := by
  unfold CodeAudit.Site.withProject
  split
  · rename_i p hp
    obtain ⟨-, -, hid⟩ := State.project?_some hp
    exact h p (by rw [hid]; exact hp) hid
  · exact .idle rfl

theorem effect_upload {visitor : User} (hvisitor : s.visitor? = some visitor) :
    Effect services r s (s.after (upload s visitor r)) := by
  unfold upload
  split
  · exact .idle rfl
  · split
    · rename_i a ha
      exact .submission hvisitor ha
    · exact .idle rfl

theorem effect_analyze {visitor : User} {p : Project} (hvisitor : s.visitor? = some visitor)
    (hp : s.project? visitor.id p.id = some p) :
    Effect services r s (s.after (analyze services p)) := by
  obtain ⟨trace, haudit⟩ := p.audit_eq services
  unfold analyze
  split
  · exact .idle rfl
  · rename_i hopen
    rw [haudit]
    show Effect services r s
      (s.applyAll [.setReport p.id (p.auditReport services), .complete p.id])
    rw [applyAll_audited]
    exact .audit false hvisitor hp (by simpa using hopen)

theorem effect_wait {visitor : User} {p : Project} (hvisitor : s.visitor? = some visitor)
    (hp : s.project? visitor.id p.id = some p) :
    Effect services r s (s.after (wait services p)) := by
  obtain ⟨trace, haudit⟩ := p.audit_eq services
  unfold wait
  split
  · exact .idle rfl
  · rename_i hopen
    rw [haudit]
    show Effect services r s (s.applyAll ((p.files.map fun f => .setCurrent p.id (some f.name))
      ++ [.setReport p.id (p.auditReport services), .complete p.id, .setCurrent p.id none]))
    rw [applyAll_waited]
    exact .audit true hvisitor hp (by simpa using hopen)

/-- A page that needs a visitor. -/
theorem effect_visit {visitor : User} (hvisitor : s.visitor? = some visitor) {route : Route}
    (hroute : Route.ofPath? r.address.path = some route) :
    Effect services r s (s.after (visit services s visitor r route)) := by
  cases route with
  | upload =>
      show Effect services r s (s.after (upload s visitor r))
      exact effect_upload hvisitor
  | analyze id => exact .withProject fun p hp _ => effect_analyze hvisitor hp
  | results id => exact .withProject fun p hp _ => effect_wait hvisitor hp
  | tests id =>
      refine .withProject fun p hp hid => ?_
      subst hid
      exact .tests hvisitor hp hroute
  | report id => exact .withProject fun p _ _ => .idle rfl
  | status id => exact .withProject fun p _ _ => .idle rfl
  | download id => exact .withProject fun p _ _ => .idle rfl
  | home | register | login | logout => exact .idle rfl

theorem effect_register : Effect services r s (s.after (register s r)) := by
  unfold register
  split
  · exact .idle rfl
  · simp only
    split
    · exact .account _ _ _
    · exact .idle rfl

theorem effect_login : Effect services r s (s.after (login s r)) := by
  unfold login
  split
  · exact .idle rfl
  · split
    · exact .session _
    · exact .idle rfl

theorem effect_logout : Effect services r s (s.after (logout r)) := by
  unfold logout
  split
  · exact .idle rfl
  · exact .session _

/-- **Nothing else comes of a request.** -/
theorem effect_respond (services : Surroundings) (s : State) (r : Request) :
    Effect services r s (s.after (respond services s r)) := by
  unfold respond
  split
  · rename_i route hroute
    unfold respondAt
    split
    · exact effect_register
    · exact effect_login
    · exact effect_logout
    · split
      · rename_i visitor hvisitor
        exact effect_visit hvisitor hroute
      · exact .session none
  · split
    · exact .idle rfl
    · exact .idle rfl

end

/-! ## §4. Numbers of their own. -/

/-- Users are numbered in order, and no two projects have one number. -/
structure Orderly (s : State) : Prop where
  users : s.users.map (·.id) = List.range' 1 s.users.length
  nodup : (s.projects.map (·.id)).Nodup
  below : ∀ p ∈ s.projects, p.id < s.nextProject

namespace Orderly

variable {s : State}

/-- No two users have one number. -/
theorem nodup_users (h : Orderly s) : (s.users.map (·.id)).Nodup := by
  rw [h.users]
  exact List.nodup_range'

/-- A project is known by its number. -/
theorem eq_of_id (h : Orderly s) {p q : Project} (hp : p ∈ s.projects) (hq : q ∈ s.projects)
    (hid : p.id = q.id) : p = q :=
  List.inj_on_of_nodup_map h.nodup hp hq hid

/-- A project that is there is found by its owner and its number. -/
theorem project?_of_mem (h : Orderly s) {p : Project} (hp : p ∈ s.projects) :
    s.project? p.owner p.id = some p := by
  cases hfound : s.project? p.owner p.id with
  | none =>
      have hnone := List.find?_eq_none.mp hfound p hp
      simp at hnone
  | some q =>
      obtain ⟨hq, -, hid⟩ := State.project?_some hfound
      rw [h.eq_of_id hq hp hid]

/-- An edit replaces the one project of that number. -/
theorem mem_edit (h : Orderly s) {p : Project} (hp : p ∈ s.projects) {f : Project → Project}
    {q : Project} :
    q ∈ (s.edit p.id f).projects ↔ q = f p ∨ q ∈ s.projects ∧ q.id ≠ p.id := by
  unfold State.edit
  simp only [List.mem_map]
  constructor
  · rintro ⟨x, hx, rfl⟩
    by_cases hid : x.id = p.id
    · left
      rw [h.eq_of_id hx hp hid]
      simp
    · right
      simpa [hid] using hx
  · rintro (rfl | ⟨hq, hid⟩)
    · exact ⟨p, hp, by simp⟩
    · exact ⟨q, hq, by simp [hid]⟩

/-- Editing keeps numbers that the edit keeps. -/
theorem edit (h : Orderly s) (id : Nat) {f : Project → Project} (hf : KeepsNumber f) :
    Orderly (s.edit id f) := by
  have hids : (s.edit id f).projects.map (·.id) = s.projects.map (·.id) := by
    unfold State.edit
    rw [List.map_map]
    refine List.map_congr_left fun p _ => ?_
    by_cases hid : p.id = id
    · simp [hid, hf p]
    · simp [hid]
  refine ⟨h.users, by rw [hids]; exact h.nodup, ?_⟩
  intro p hp
  have hmem : p.id ∈ s.projects.map (·.id) := by
    rw [← hids]
    exact List.mem_map_of_mem hp
  obtain ⟨q, hq, hid⟩ := List.mem_map.mp hmem
  rw [← hid]
  exact h.below q hq

/-- A project that is added has a number of its own. -/
theorem add (h : Orderly s) (p : Project) : Orderly (s.add p) := by
  refine ⟨h.users, ?_, ?_⟩
  · unfold State.add
    rw [List.map_append, List.nodup_append]
    refine ⟨h.nodup, List.nodup_singleton _, ?_⟩
    intro a ha b hb
    obtain ⟨q, hq, rfl⟩ := List.mem_map.mp ha
    have hnew : b = s.nextProject := by simpa using hb
    have hold := h.below q hq
    omega
  · intro q hq
    show q.id < s.nextProject + 1
    rcases List.mem_append.mp hq with hq | hq
    · exact Nat.lt_succ_of_lt (h.below q hq)
    · rw [List.mem_singleton.mp hq]
      exact Nat.lt_succ_self _

/-- A new user has a number of their own. -/
theorem addUser (h : Orderly s) (name password : String) :
    Orderly (s.apply (.addUser name password)) := by
  refine ⟨?_, h.nodup, h.below⟩
  show (s.users ++ [User.mk (s.users.length + 1) name password]).map (·.id)
    = List.range' 1 (s.users ++ [User.mk (s.users.length + 1) name password]).length
  rw [List.map_append, h.users, List.length_append, List.length_singleton, List.range'_concat,
    Nat.one_mul, Nat.add_comm 1]
  rfl

/-- What an orderly state looks like does not depend on the browser. -/
theorem of_same {t : State} (h : Orderly s) (husers : t.users = s.users)
    (hprojects : t.projects = s.projects) (hnext : t.nextProject = s.nextProject) : Orderly t := by
  refine ⟨?_, ?_, ?_⟩
  · rw [husers]
    exact h.users
  · rw [hprojects]
    exact h.nodup
  · rw [hprojects, hnext]
    exact h.below

end Orderly

/-- Step: whatever comes of a request, the state stays orderly. -/
theorem Effect.orderly {services : Surroundings} {r : Request} {s t : State}
    (he : Effect services r s t) (h : Orderly s) : Orderly t := by
  cases he with
  | session session => exact h.of_same rfl rfl rfl
  | account name password session => exact (h.addUser name password).of_same rfl rfl rfl
  | submission _ _ => exact (h.add _).of_same rfl rfl rfl
  | audit waited _ _ _ => exact h.edit _ fun _ => rfl
  | tests _ _ _ => exact h.edit _ fun _ => rfl

/-! ## §5. Projects before and after. -/

/-- Where a project that is there after a request comes from. -/
inductive Origin (services : Surroundings) (r : Request) (s : State) : Project → Prop
  /-- It was there. -/
  | kept {p : Project} (hp : p ∈ s.projects) : Origin services r s p
  /-- It was handed in. -/
  | submitted {visitor : User} {a : Accepted} (hvisitor : s.visitor? = some visitor)
      (haccepted : r.submission.check = .ok a) : Origin services r s (s.handedIn visitor.id a)
  /-- It was there, and has been audited. -/
  | audited {visitor : User} {p : Project} (waited : Bool) (hvisitor : s.visitor? = some visitor)
      (hp : s.project? visitor.id p.id = some p) (hopen : p.completed = false) :
      Origin services r s (p.finish waited (p.auditReport services))
  /-- It was there, and has a test suite now. -/
  | tested {visitor : User} {p : Project} (hvisitor : s.visitor? = some visitor)
      (hp : s.project? visitor.id p.id = some p)
      (hroute : Route.ofPath? r.address.path = some (.tests p.id)) :
      Origin services r s (p.keep (p.suiteReport services))

/-- The same project later on: its number, its owner and its files are for good, and so
is that it has been audited. -/
structure Project.Continues (p q : Project) : Prop where
  number : q.id = p.id
  owner : q.owner = p.owner
  files : q.files = p.files
  completed : p.completed = true → q.completed = true

theorem Project.Continues.refl (p : Project) : p.Continues p := ⟨rfl, rfl, rfl, fun done => done⟩

theorem Project.Continues.trans {p q x : Project} (hp : p.Continues q) (hq : q.Continues x) :
    p.Continues x :=
  ⟨hq.number.trans hp.number, hq.owner.trans hp.owner, hq.files.trans hp.files,
    fun done => hq.completed (hp.completed done)⟩

section

variable {services : Surroundings} {r : Request} {s t : State}

/-- Every project comes from somewhere. -/
theorem Effect.origin (he : Effect services r s t) (h : Orderly s) {q : Project}
    (hq : q ∈ t.projects) : Origin services r s q := by
  cases he with
  | session session => exact .kept hq
  | account name password session => exact .kept hq
  | submission hvisitor haccepted =>
      rcases List.mem_append.mp hq with hq | hq
      · exact .kept hq
      · rw [List.mem_singleton.mp hq]
        exact .submitted hvisitor haccepted
  | audit waited hvisitor hp hopen =>
      rcases (h.mem_edit (State.project?_some hp).1).mp hq with rfl | ⟨hq, -⟩
      · exact .audited waited hvisitor hp hopen
      · exact .kept hq
  | tests hvisitor hp hroute =>
      rcases (h.mem_edit (State.project?_some hp).1).mp hq with rfl | ⟨hq, -⟩
      · exact .tested hvisitor hp hroute
      · exact .kept hq

/-- Every project stays. -/
theorem Effect.stays (he : Effect services r s t) (h : Orderly s) {p : Project}
    (hp : p ∈ s.projects) : ∃ q ∈ t.projects, p.Continues q := by
  have hedit : ∀ {x : Project} {f : Project → Project}, x ∈ s.projects → x.Continues (f x) →
      ∃ q ∈ (s.edit x.id f).projects, p.Continues q := by
    intro x f hx hf
    by_cases hid : p.id = x.id
    · rw [h.eq_of_id hp hx hid]
      exact ⟨f x, (h.mem_edit hx).mpr (.inl rfl), hf⟩
    · exact ⟨p, (h.mem_edit hx).mpr (.inr ⟨hp, hid⟩), .refl p⟩
  cases he with
  | session session => exact ⟨p, hp, .refl p⟩
  | account name password session => exact ⟨p, hp, .refl p⟩
  | submission _ _ => exact ⟨p, List.mem_append_left _ hp, .refl p⟩
  | audit waited _ hx _ => exact hedit (State.project?_some hx).1 ⟨rfl, rfl, rfl, fun _ => rfl⟩
  | tests _ hx _ => exact hedit (State.project?_some hx).1 ⟨rfl, rfl, rfl, fun done => done⟩

end

namespace World

/-- What comes of a call. -/
theorem effect_step (w : World) (c : Call) :
    Effect c.services c.request (w.seen c) (w.step c).site :=
  effect_respond c.services (w.seen c) c.request

theorem orderly_seen {w : World} (h : Orderly w.site) (c : Call) : Orderly (w.seen c) :=
  h.of_same rfl rfl rfl

theorem orderly_start (now : Moment) : Orderly (start now).site :=
  ⟨rfl, List.nodup_nil, fun _ hp => nomatch hp⟩

/-- Step: a call leaves an orderly site orderly. -/
theorem orderly_step {w : World} (h : Orderly w.site) (c : Call) : Orderly (w.step c).site :=
  (w.effect_step c).orderly (orderly_seen h c)

/-- **Run: every site that calls lead to is orderly.** -/
theorem orderly_run (now : Moment) (calls : List Call) : Orderly ((start now).run calls).site :=
  run_keeps (P := fun w => Orderly w.site) (Q := fun _ => True)
    (fun _ c _ h => orderly_step h c) (orderly_start now) (fun _ _ => trivial)

/-- Where a project that is there after a call comes from. -/
theorem origin_step {w : World} (h : Orderly w.site) (c : Call) {q : Project}
    (hq : q ∈ (w.step c).site.projects) : Origin c.services c.request (w.seen c) q :=
  (w.effect_step c).origin (orderly_seen h c) hq

/-- **Run: what is true of every project that a call leaves is true of all**, where `Q`
is what is known of the calls. -/
theorem projects_run {R : Project → Prop} {Q : Call → Prop} (now : Moment)
    (hstep : ∀ {w : World} {c : Call} {p : Project}, Q c → (∀ q ∈ w.site.projects, R q) →
      Origin c.services c.request (w.seen c) p → R p) {calls : List Call}
    (hcalls : ∀ c ∈ calls, Q c) : ∀ p ∈ ((start now).run calls).site.projects, R p := by
  have hrun := run_keeps (P := fun w => Orderly w.site ∧ ∀ p ∈ w.site.projects, R p)
    (fun _ c hc h => ⟨orderly_step h.1 c, fun _ hp => hstep hc h.2 (origin_step h.1 c hp)⟩)
    ⟨orderly_start now, fun _ hp => nomatch hp⟩ hcalls
  exact hrun.2

/-- The owner of a project is shown what the page makes of it. -/
theorem answer_owner {w : World} (h : Orderly w.site) {c : Call} {route : Route} {p : Project}
    (hp : p ∈ w.site.projects) (howner : (w.visitor? c).map (·.id) = some p.owner)
    (hroute : c.route? = some route) (hproject : route.project? = some p.id) :
    w.answer c = route.view c.services p := by
  obtain ⟨visitor, hvisitor, hid⟩ := Option.map_eq_some_iff.mp howner
  have hfound : (w.seen c).project? visitor.id p.id = some p := by
    rw [hid]
    exact (orderly_seen h c).project?_of_mem hp
  unfold answer
  rw [respond_project c.services _ c.request hroute hproject hvisitor]
  unfold withProject
  rw [hfound]

/-- Step: the owner has a test suite written. -/
theorem site_of_tests {w : World} (h : Orderly w.site) {c : Call} {p : Project}
    (hp : p ∈ w.site.projects) (howner : (w.visitor? c).map (·.id) = some p.owner)
    (hroute : c.route? = some (.tests p.id)) :
    (w.step c).site = (w.seen c).edit p.id (Project.keep (p.suiteReport c.services)) := by
  have hanswer : w.answer c = writeTests c.services p := answer_owner h hp howner hroute rfl
  show (w.seen c).after (w.answer c) = _
  rw [hanswer]
  rfl

/-- Step: the owner has a project audited, behind a waiting page or not. -/
theorem site_of_audit {w : World} (h : Orderly w.site) {c : Call} {p : Project} {waited : Bool}
    (hp : p ∈ w.site.projects) (howner : (w.visitor? c).map (·.id) = some p.owner)
    (hroute : c.route? = some (if waited then .results p.id else .analyze p.id))
    (hopen : p.completed = false) :
    (w.step c).site
      = (w.seen c).edit p.id (Project.finish waited (p.auditReport c.services)) := by
  obtain ⟨trace, haudit⟩ := p.audit_eq c.services
  show (w.seen c).after (w.answer c) = _
  cases waited with
  | false =>
      have hanswer : w.answer c = analyze c.services p := answer_owner h hp howner hroute rfl
      rw [hanswer, analyze, hopen, haudit, ← applyAll_audited]
      rfl
  | true =>
      have hanswer : w.answer c = wait c.services p := answer_owner h hp howner hroute rfl
      rw [hanswer, wait, hopen, haudit, ← applyAll_waited _ _ p.files]
      rfl

/-- **Run: every project stays.** -/
theorem stays_run {w : World} (h : Orderly w.site) {p : Project} (hp : p ∈ w.site.projects)
    (calls : List Call) : ∃ q ∈ (w.run calls).site.projects, p.Continues q := by
  induction calls generalizing w p with
  | nil => exact ⟨p, hp, .refl p⟩
  | cons c rest ih =>
      obtain ⟨x, hx, hcontinues⟩ := (w.effect_step c).stays (orderly_seen h c) hp
      obtain ⟨q, hq, hlater⟩ := ih (orderly_step h c) hx
      rw [run_cons]
      exact ⟨q, hq, hcontinues.trans hlater⟩

end World

end CodeAudit.Site
