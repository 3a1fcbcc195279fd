/-
  CodeAudit.Proofs.Site.Uploads
  ─────────────────────────────
  **WHICH OF THE FILES HANDED IN ARE LOOKED AT.**

  Files are stored under keys of their own, so all that are accepted are
  kept.  To be looked at they are put into one directory under the names that
  their sender gave them, one after the other: a file replaces an earlier one
  of its name.  An audit and a test suite go by what is in the directory then,
  in the order in which the disk lists it.

    • `mem_unreplaced` — the files that no later one replaces,
    • `modulesOf_perm`, `topModules_perm` — these are what is looked at,
    • `flat_run` — every stored file lies directly in the directory, as a module,
    • `files_audited_once_per_name` — an audit counts the distinct names, so
      it counts all files if and only if no two have one name,
    • `namesakes_replaced` — a run in which a file is not looked at.
-/
import CodeAudit.Proofs.Conservation
import CodeAudit.Proofs.Site.Acceptance
import CodeAudit.Proofs.Site.Effects
import Mathlib.Data.List.Dedup

namespace CodeAudit.Audit

open CodeAudit.Data CodeAudit.Source

/-! ## §1. Files of one path. -/

/-- Their paths are the given ones, each once. -/
theorem paths_unreplaced (files : List SourceFile) :
    (unreplaced files).map (·.path) = (files.map (·.path)).dedup := by
  induction files with
  | nil => rfl
  | cons f rest ih =>
      rw [unreplaced, List.map_cons]
      split
      · rename_i hlater
        rw [List.dedup_cons_of_mem hlater, ih]
      · rename_i hlast
        rw [List.dedup_cons_of_notMem hlast, List.map_cons, ih]

/-- A file is not replaced when it is the last of its path. -/
theorem mem_unreplaced {files : List SourceFile} {f : SourceFile} :
    f ∈ unreplaced files ↔
      ∃ before later, files = before ++ f :: later ∧ f.path ∉ later.map (·.path) := by
  induction files with
  | nil => simp [unreplaced]
  | cons g rest ih =>
      have hrest : f ∈ unreplaced rest ↔ ∃ before later,
          g :: rest = (g :: before) ++ f :: later ∧ f.path ∉ later.map (·.path) := by
        simpa using ih
      rw [unreplaced]
      constructor
      · intro hf
        have hcases : f ∈ unreplaced rest ∨ f = g ∧ g.path ∉ rest.map (·.path) := by
          split at hf
          · exact .inl hf
          · rename_i hlast
            rcases List.mem_cons.mp hf with rfl | hf
            · exact .inr ⟨rfl, hlast⟩
            · exact .inl hf
        rcases hcases with hf | ⟨rfl, hlast⟩
        · obtain ⟨before, later, hsplit⟩ := hrest.mp hf
          exact ⟨g :: before, later, hsplit⟩
        · exact ⟨[], rest, rfl, hlast⟩
      · rintro ⟨before, later, hsplit, hlast⟩
        cases before with
        | nil =>
            injection hsplit with hg hlater
            subst hg hlater
            rw [if_neg hlast]
            exact List.mem_cons_self
        | cons b before =>
            injection hsplit with hg hsplit
            have hf : f ∈ unreplaced rest := ih.mpr ⟨before, later, hsplit, hlast⟩
            split
            · exact hf
            · exact List.mem_cons_of_mem g hf

/-- No file is replaced if and only if no two have one path. -/
theorem unreplaced_eq_self_iff (files : List SourceFile) :
    unreplaced files = files ↔ (files.map (·.path)).Nodup := by
  constructor
  · intro hall
    rw [← hall, paths_unreplaced]
    exact List.nodup_dedup _
  · intro hnodup
    induction files with
    | nil => rfl
    | cons f rest ih =>
        obtain ⟨hlast, hrest⟩ := List.nodup_cons.mp hnodup
        rw [unreplaced, if_neg hlast, ih hrest]

/-! ## §2. Modules in one directory. -/

/-- A file lies directly in the directory of a project, as a module. -/
def SourceFile.Flat (f : SourceFile) : Prop := isModuleName f.path = true ∧ '/' ∉ f.path.toList

section

variable {files : List SourceFile} (hflat : ∀ f ∈ files, f.Flat) (disk : Disk)

include hflat

theorem flat_written {f : SourceFile} (hf : f ∈ (Folder.written disk files).files) : f.Flat := by
  obtain ⟨before, later, hsplit, -⟩ := mem_unreplaced.mp ((disk.perm _).mem_iff.mp hf)
  refine hflat f ?_
  rw [hsplit]
  simp

/-- An audit goes through the files that are not replaced. -/
theorem modulesOf_perm (directory : String) :
    (modulesOf directory (.written disk files)).Perm
      ((unreplaced files).map fun f => (joinPath directory f.path, f.content)) := by
  have hall : (Folder.written disk files).files.filter (fun f => isModuleName f.path)
      = (Folder.written disk files).files :=
    List.filter_eq_self.mpr fun _ hf => (flat_written hflat disk hf).1
  rw [modulesOf, hall]
  exact (disk.perm _).map _

/-- A test suite is written for the files that are not replaced and can be read. -/
theorem topModules_perm :
    (topModules ((Folder.written disk files).files.map SourceFile.entry)).Perm
      ((unreplaced files).filterMap fun f => (readable? f.content).map fun tree => (f.path, tree)) := by
  have hall : topModules ((Folder.written disk files).files.map SourceFile.entry)
      = (Folder.written disk files).files.filterMap
        fun f => (readable? f.content).map fun tree => (f.path, tree) := by
    unfold topModules
    rw [List.filterMap_map]
    refine List.filterMap_congr fun f hf => ?_
    show (if isModuleName f.path then _ else none) = _
    rw [if_pos (flat_written hflat disk hf).1]
  rw [hall]
  exact (disk.perm _).filterMap _

end

end CodeAudit.Audit

namespace CodeAudit.Site

open CodeAudit.Data CodeAudit.Audit CodeAudit.Site.Html

/-! ## §3. Names that are accepted. -/

/-- Cutting a name brings no character into it but a point. -/
theorem mem_of_mem_shortened {c : Char} {name : List Char} (h : c ∈ shortened name) :
    c ∈ name ∨ c = '.' := by
  have hending : ∀ {d : Char}, d ∈ endingOf name → d ∈ name ∨ d = '.' := by
    intro d hd
    unfold endingOf at hd
    simp only at hd
    split at hd
    · cases hd
    · rcases List.mem_cons.mp hd with rfl | hd
      · exact .inr rfl
      · exact .inl (Text.mem_of_mem_afterLast hd)
  unfold shortened at h
  split at h
  · exact .inl h
  · rcases List.mem_append.mp h with h | h
    · exact .inl (List.mem_of_mem_take (List.mem_of_mem_take h))
    · exact hending (List.mem_of_mem_take h)

/-- A file that came over the wire has no directory in its name. -/
theorem slash_not_mem_received {f g : SentFile} (h : f.received? = some g) :
    '/' ∉ g.name.toList := by
  unfold SentFile.received? at h
  simp only at h
  split at h
  · cases h
  · rw [← Option.some.inj h, String.toList_ofList]
    intro hmem
    rcases mem_of_mem_shortened hmem with hname | hpoint
    · have hpart := Text.mem_of_mem_afterLast (List.mem_filter.mp hname).1
      exact Text.not_mem_afterLast '/' _ hpart
    · exact absurd hpoint (by decide)

/-- The site and the audit agree on what the name of a module is. -/
theorem isModuleName_eq (f : SentFile) : isModuleName f.name = f.isModule := by
  -- The audit reads the name from behind.
  have hending : ".py".toList.reverse = "yp.".toList := by decide
  unfold isModuleName SentFile.isModule Text.startsWith List.isSuffixOf
  rw [hending]

/-- What is accepted are the files of the request, all of them modules. -/
theorem files_of_check {r : Request} {a : Accepted} (h : r.submission.check = .ok a) :
    a.files = r.files.filterMap SentFile.received? ∧ ∀ f ∈ a.files, f.isModule = true := by
  obtain ⟨-, hfiles, -⟩ := check_ok_iff.mp h
  obtain ⟨hsame, hsound⟩ := checkFiles_ok_iff.mp hfiles
  refine ⟨hsame, fun f hf => ?_⟩
  rw [hsame] at hf
  exact isModule_iff.mpr (hsound f hf).named

/-! ## §4. Stored files. -/

/-- Every file is stored, with its name and what is in it. -/
theorem sources_handedIn (s : State) (owner : Nat) (a : Accepted) :
    (s.handedIn owner a).sources = a.files.map fun f => ⟨f.name, f.content⟩ := by
  have hstored : ∀ (files : List SentFile) (first : Nat),
      (storeFiles owner first files).map (fun f => SourceFile.mk f.name f.content)
        = files.map fun f => ⟨f.name, f.content⟩ := by
    intro files
    induction files with
    | nil => exact fun _ => rfl
    | cons f rest ih =>
        intro first
        rw [storeFiles, List.map_cons, List.map_cons, ih]
  exact hstored a.files s.nextFile

/-- What is accepted lies directly in the directory. -/
theorem flat_handedIn {r : Request} {a : Accepted} (h : r.submission.check = .ok a) (s : State)
    (owner : Nat) : ∀ f ∈ (s.handedIn owner a).sources, f.Flat := by
  obtain ⟨hfiles, hmodules⟩ := files_of_check h
  rw [sources_handedIn]
  intro f hf
  obtain ⟨g, hg, rfl⟩ := List.mem_map.mp hf
  refine ⟨by rw [isModuleName_eq]; exact hmodules g hg, ?_⟩
  rw [hfiles] at hg
  obtain ⟨sent, -, hsent⟩ := List.mem_filterMap.mp hg
  exact slash_not_mem_received hsent

namespace World

/-- Step: the stored files still lie directly in the directory. -/
theorem flat_step {w : World} {c : Call} {p : Project}
    (hflat : ∀ q ∈ w.site.projects, ∀ f ∈ q.sources, f.Flat)
    (horigin : Origin c.services c.request (w.seen c) p) : ∀ f ∈ p.sources, f.Flat := by
  cases horigin with
  | kept hkept => exact hflat p hkept
  | submitted _ haccepted => exact flat_handedIn haccepted _ _
  | @audited _ q _ _ hfound _ => exact hflat q (State.project?_some hfound).1
  | @tested _ q _ hfound _ => exact hflat q (State.project?_some hfound).1

/-- **Run: every stored file lies directly in the directory, as a module.** -/
theorem flat_run (now : Moment) (calls : List Call) :
    ∀ p ∈ ((start now).run calls).site.projects, ∀ f ∈ p.sources, f.Flat :=
  projects_run (Q := fun _ => True) now (fun _ hflat horigin => flat_step hflat horigin)
    (fun _ _ => trivial)

/-- Step: a submission that is accepted becomes a project. -/
theorem site_of_upload {w : World} {c : Call} {visitor : User} {a : Accepted}
    (hvisitor : w.visitor? c = some visitor) (hroute : c.route? = some .upload)
    (hpost : c.request.method = .post) (haccepted : c.request.submission.check = .ok a) :
    (w.step c).site.projects = w.site.projects ++ [(w.seen c).handedIn visitor.id a] := by
  have hanswer : w.answer c = visit c.services (w.seen c) visitor c.request .upload :=
    respond_visit c.services (w.seen c) c.request hroute rfl hvisitor
  show ((w.seen c).after (w.answer c)).projects = _
  rw [hanswer, visit, upload, hpost, haccepted]
  rfl

end World

/-! ## §5. What is looked at. -/

/-- The number of files that a report says were audited. -/
def filesCounted (report : Value) : Option Int :=
  match part? report "files_analyzed" with
  | some (.int n) => some n
  | _ => none

/-- The test suite for modules that could be read. -/
def suiteFor (modules : List (String × Source.Node)) : Text.Wording :=
  .whole (suiteHeader ++ String.join (modules.map functionTests))
    ++ routeTest ((modules.filter (·.1 == "urls.py")).flatMap fun f => routes f.2)

/-- The names of the files of a project. -/
def Project.fileNames (p : Project) : List String := p.files.map (·.name)

theorem Project.paths_sources (p : Project) : p.sources.map (·.path) = p.fileNames := by
  unfold Project.sources Project.fileNames
  rw [List.map_map]
  rfl

/-- An audit counts the distinct names. -/
theorem Project.filesCounted_auditReport {p : Project} (hflat : ∀ f ∈ p.sources, f.Flat)
    (services : Surroundings) :
    filesCounted (p.auditReport services) = some (p.fileNames.dedup.length : Int) := by
  have hmodules : (p.job services).modules.length = p.fileNames.dedup.length := by
    show (modulesOf auditDirectory (.written services.disk p.sources)).length = _
    rw [(modulesOf_perm hflat services.disk auditDirectory).length_eq, List.length_map, ← p.paths_sources,
      ← paths_unreplaced, List.length_map]
  have hfiles : (p.standing services).files = p.fileNames.dedup.length := by
    show (Standing.start.after .full (p.job services)).files = _
    rw [files_after, hmodules]
    exact Nat.zero_add _
  show some ((p.standing services).files : Int) = _
  rw [hfiles]

/-- What becomes of the files of a project: all are stored, and those that are not
replaced are looked at. -/
structure Coverage (w : World) : Prop where
  /-- A submission that is accepted becomes a project with all its files. -/
  stored : ∀ (c : Call) (visitor : User) (a : Accepted), w.visitor? c = some visitor →
    c.route? = some .upload → c.request.method = .post → c.request.submission.check = .ok a →
    ∃ p ∈ (w.step c).site.projects, p.owner = visitor.id ∧ p.completed = false ∧
      p.sources = (c.request.files.filterMap SentFile.received?).map fun f => ⟨f.name, f.content⟩
  /-- An audit goes through the files that no later one replaces. -/
  modules : ∀ p ∈ w.site.projects, ∀ services : Surroundings,
    (p.job services).modules.Perm
      ((unreplaced p.sources).map fun f => (joinPath auditDirectory f.path, f.content))
  /-- Both pages that have a project audited keep a report that counts the distinct
  names. -/
  counted : ∀ p ∈ w.site.projects, ∀ (c : Call) (waited : Bool),
    (w.visitor? c).map (·.id) = some p.owner →
    c.route? = some (if waited then .results p.id else .analyze p.id) → p.completed = false →
    ∃ q ∈ (w.step c).site.projects, p.Continues q ∧ q.completed = true ∧
      q.report = p.auditReport c.services ∧
      filesCounted q.report = some (p.fileNames.dedup.length : Int)
  /-- A test suite is written for the files that no later one replaces and that can be
  read. -/
  tested : ∀ p ∈ w.site.projects, ∀ c : Call, (w.visitor? c).map (·.id) = some p.owner →
    c.route? = some (.tests p.id) →
    ∃ q ∈ (w.step c).site.projects, p.Continues q ∧
      ∃ modules, part? q.report "tests_report" = some (.ofWording (suiteFor modules)) ∧
        modules.Perm ((unreplaced p.sources).filterMap fun f =>
          (readable? f.content).map fun tree => (f.path, tree))
  /-- That is every file, and so many are counted, if and only if no two have one name. -/
  all_iff : ∀ p ∈ w.site.projects, (unreplaced p.sources = p.sources ↔ p.fileNames.Nodup) ∧
    (p.fileNames.dedup.length = p.files.length ↔ p.fileNames.Nodup)

/-- **Of files with one name the last is looked at, and no other.**  All files of a
submission are stored.  Whichever page has the project audited, the audit goes
through one file of each name and counts those; so its count is the number of stored
files if and only if all names differ.  A test suite is written for the same files. -/
theorem files_audited_once_per_name (now : Moment) (calls : List Call) :
    Coverage ((World.start now).run calls) := by
  have horderly := World.orderly_run now calls
  refine ⟨?_, ?_, ?_, ?_, ?_⟩
  · intro c visitor a hvisitor hroute hpost haccepted
    refine ⟨((World.start now).run calls |>.seen c).handedIn visitor.id a, ?_, rfl, rfl, ?_⟩
    · rw [World.site_of_upload hvisitor hroute hpost haccepted]
      exact List.mem_append_right _ (List.mem_singleton_self _)
    · rw [sources_handedIn, (files_of_check haccepted).1]
  · intro p hp services
    exact modulesOf_perm (World.flat_run now calls p hp) services.disk auditDirectory
  · intro p hp c waited howner hroute hopen
    refine ⟨p.finish waited (p.auditReport c.services), ?_, ⟨rfl, rfl, rfl, fun _ => rfl⟩, rfl, rfl,
      p.filesCounted_auditReport (World.flat_run now calls p hp) c.services⟩
    rw [World.site_of_audit horderly hp howner hroute hopen]
    exact ((World.orderly_seen horderly c).mem_edit hp).mpr (.inl rfl)
  · intro p hp c howner hroute
    refine ⟨p.keep (p.suiteReport c.services), ?_, ⟨rfl, rfl, rfl, fun done => done⟩,
      topModules (p.entries c.services.disk), rfl,
      topModules_perm (World.flat_run now calls p hp) c.services.disk⟩
    rw [World.site_of_tests horderly hp howner hroute]
    exact ((World.orderly_seen horderly c).mem_edit hp).mpr (.inl rfl)
  · intro p _
    have hlength : p.files.length = p.fileNames.length := (List.length_map _).symm
    refine ⟨by rw [unreplaced_eq_self_iff, p.paths_sources], ?_⟩
    rw [hlength, ← List.dedup_eq_self]
    exact ⟨(List.dedup_sublist _).eq_of_length, congrArg List.length⟩

/-- A visitor opens an account, hands in two files of one name, and waits for the
audit. -/
def namesakesRun : List Call :=
  [.signUp 0 "ann",
   .handIn 0 [⟨"a.py", Text.Utf8.encode "def f(): pass\n"⟩,
     ⟨"a.py", Text.Utf8.encode "def g(): pass\n"⟩],
   .visit 0 "/results/1/"]

/-- **A file is replaced by a later one of its name**: both are stored, one is
counted, and the test suite is that of the second alone, although the first has
something to be tested. -/
theorem namesakes_replaced :
    ∃ p ∈ ((World.start openingTime).run namesakesRun).site.projects,
      p.completed = true ∧ p.files.length = 2 ∧ filesCounted p.report = some 1 ∧
      testSuite (p.entries .asWritten) = testSuite ((p.sources.drop 1).map SourceFile.entry) ∧
      testSuite ((p.sources.take 1).map SourceFile.entry) ≠ testSuite [] := by
  decide +kernel

end CodeAudit.Site
