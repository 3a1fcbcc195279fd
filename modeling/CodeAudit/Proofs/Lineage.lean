/-
  CodeAudit.Proofs.Lineage
  ────────────────────────
  **RECORDED DEPTHS AND TRUE DEPTHS.**

  The depth of a class is written down when the class is met, from what has
  been written down so far: a base that comes later counts as one deep.  The
  true depth of a class does not know of an order.  It is one more than that
  of its deepest base, and such depths exist if and only if no class inherits
  from itself.

    • `exists_trueDepths`, `TrueDepths.acyclic` — when there are true depths,
    • `recorded_run` — what one meeting keeps, all meetings keep,
    • `recorded_le`, `recorded_eq` — no class is recorded deeper than it is,
      and with bases met first every class is recorded as deep as it is,
    • `heritage_survey` — an audit meets the classes of all files that can be
      read, and no others.
-/
import CodeAudit.Proofs.Aftermath
import Mathlib.Data.Fintype.EquivFin
import Mathlib.Data.Fintype.Sets

namespace CodeAudit.Source

/-! ## §1. True depths. -/

/-- One more than the greatest of some depths; one if there are none. -/
def oneAbove (depths : List Nat) : Nat := depths.max?.getD 0 + 1

/-- A class has a base of some name. -/
def Inherits (cs : List Declared) (base derived : String) : Prop :=
  ∃ c ∈ cs, c.name = derived ∧ base ∈ c.bases

/-- No class inherits from itself, by however many steps. -/
def Acyclic (cs : List Declared) : Prop := ∀ name, ¬ Relation.TransGen (Inherits cs) name name

/-- Depths that do not depend on an order: a class is one deeper than its deepest
base, and one deep without bases; a name that is no class's is one deep. -/
structure TrueDepths (cs : List Declared) (depth : String → Nat) : Prop where
  declared : ∀ c ∈ cs, depth c.name = oneAbove (c.bases.map depth)
  foreign : ∀ name, name ∉ cs.map (·.name) → depth name = 1

/-- A base is less deep than what is one above it and others. -/
theorem lt_oneAbove {depths : List Nat} {d : Nat} (h : d ∈ depths) : d < oneAbove depths :=
  Nat.lt_succ_of_le (List.le_max?_getD_of_mem h)

theorem oneAbove_le {bases : List String} {f g : String → Nat} (h : ∀ b ∈ bases, f b ≤ g b) :
    oneAbove (bases.map f) ≤ oneAbove (bases.map g) := by
  cases hmax : (bases.map f).max? with
  | none =>
      unfold oneAbove
      rw [hmax]
      show 0 + 1 ≤ _
      omega
  | some d =>
      -- The greatest depth is that of one base, which the other depths are above.
      obtain ⟨hmem, -⟩ := List.max?_eq_some_iff.mp hmax
      obtain ⟨b, hb, rfl⟩ := List.mem_map.mp hmem
      have hlt : g b < oneAbove (bases.map g) := lt_oneAbove (List.mem_map_of_mem hb)
      have hle := h b hb
      unfold oneAbove at hlt ⊢
      rw [hmax]
      show f b + 1 ≤ _
      omega

section

variable {cs : List Declared}

/-- Every name is at least one deep. -/
theorem TrueDepths.one_le {depth : String → Nat} (h : TrueDepths cs depth) (name : String) :
    1 ≤ depth name := by
  by_cases hmem : name ∈ cs.map (·.name)
  · obtain ⟨c, hc, rfl⟩ := List.mem_map.mp hmem
    rw [h.declared c hc]
    unfold oneAbove
    omega
  · rw [h.foreign name hmem]

/-- A base is less deep than a class that inherits from it. -/
theorem TrueDepths.lt {depth : String → Nat} (h : TrueDepths cs depth) {base derived : String}
    (hbase : Inherits cs base derived) : depth base < depth derived := by
  obtain ⟨c, hc, rfl, hmem⟩ := hbase
  rw [h.declared c hc]
  exact lt_oneAbove (List.mem_map_of_mem hmem)

/-- **Where there are true depths, no class inherits from itself.** -/
theorem TrueDepths.acyclic {depth : String → Nat} (h : TrueDepths cs depth) : Acyclic cs := by
  have hless : ∀ {a b : String}, Relation.TransGen (Inherits cs) a b → depth a < depth b := by
    intro a b hab
    induction hab with
    | single hstep => exact h.lt hstep
    | tail _ hstep ih => exact Nat.lt_trans ih (h.lt hstep)
  intro name hcircle
  exact Nat.lt_irrefl _ (hless hcircle)

/-- Inheritance ends, for the names of classes are finitely many. -/
theorem wellFounded_inherits (h : Acyclic cs) : WellFounded (Inherits cs) := by
  -- A name that is no class's has nothing above it.
  have hforeign : ∀ name, name ∉ cs.map (·.name) → Acc (Inherits cs) name := by
    intro name hname
    refine ⟨_, fun base hbase => ?_⟩
    obtain ⟨c, hc, rfl, -⟩ := hbase
    exact absurd (List.mem_map_of_mem hc) hname
  have hnames : ∀ a : { name // name ∈ cs.map (·.name) }, Acc (Inherits cs) a.1 := by
    have htrans : IsTrans { name // name ∈ cs.map (·.name) }
        (InvImage (Relation.TransGen (Inherits cs)) Subtype.val) :=
      ⟨fun _ _ _ => Relation.TransGen.trans⟩
    have hirrefl : @Std.Irrefl { name // name ∈ cs.map (·.name) }
        (InvImage (Relation.TransGen (Inherits cs)) Subtype.val) := ⟨fun a => h a.1⟩
    have hwf : @WellFounded { name // name ∈ cs.map (·.name) }
        (InvImage (Relation.TransGen (Inherits cs)) Subtype.val) :=
      Finite.wellFounded_of_trans_of_irrefl _
    intro a
    induction a using hwf.induction with
    | h a ih =>
        refine ⟨_, fun base hbase => ?_⟩
        by_cases hmem : base ∈ cs.map (·.name)
        · exact ih ⟨base, hmem⟩ (Relation.TransGen.single hbase)
        · exact hforeign base hmem
  refine ⟨fun name => ?_⟩
  by_cases hmem : name ∈ cs.map (·.name)
  · exact hnames ⟨name, hmem⟩
  · exact hforeign name hmem

/-- The depth of a name, from the depths of the names above it. -/
def climb (cs : List Declared) (name : String) (above : (base : String) → Inherits cs base name → Nat) :
    Nat :=
  match hfind : cs.find? (·.name == name) with
  | none => 1
  | some c => oneAbove (c.bases.attach.map fun b =>
      above b.1 ⟨c, List.mem_of_find?_eq_some hfind, by simpa using List.find?_some hfind, b.2⟩)

/-- The first class of a name is the only one when names are distinct. -/
theorem find?_name (hnames : (cs.map (·.name)).Nodup) {c : Declared} (hc : c ∈ cs) :
    cs.find? (·.name == c.name) = some c := by
  rw [← List.head?_filter, Data.filter_key_eq hnames hc, List.head?_cons]

/-- **Classes of distinct names that inherit in no circle have true depths.** -/
theorem exists_trueDepths (hnames : (cs.map (·.name)).Nodup) (h : Acyclic cs) :
    ∃ depth, TrueDepths cs depth := by
  have hwf := wellFounded_inherits h
  refine ⟨hwf.fix (climb cs), ?_, ?_⟩
  · intro c hc
    rw [hwf.fix_eq, climb]
    split
    · rename_i hnone
      rw [find?_name hnames hc] at hnone
      cases hnone
    · rename_i d hsome
      have hd : some c = some d := (find?_name hnames hc).symm.trans hsome
      cases hd
      exact congrArg oneAbove List.attach_map_val
  · intro name hname
    rw [hwf.fix_eq, climb]
    split
    · rfl
    · rename_i d hsome
      have hd : d.name = name := by simpa using List.find?_some hsome
      have hmem : d.name ∈ cs.map (·.name) :=
        List.mem_map_of_mem (List.mem_of_find?_eq_some hsome)
      exact absurd (hd ▸ hmem) hname

/-- **True depths are unique.** -/
theorem TrueDepths.unique {depth other : String → Nat} (h : TrueDepths cs depth)
    (hother : TrueDepths cs other) : other = depth := by
  funext name
  induction name using (wellFounded_inherits h.acyclic).induction with
  | h name ih =>
      by_cases hmem : name ∈ cs.map (·.name)
      · obtain ⟨c, hc, rfl⟩ := List.mem_map.mp hmem
        have hbases : c.bases.map other = c.bases.map depth :=
          List.map_congr_left fun b hb => ih b ⟨c, hc, rfl, hb⟩
        rw [hother.declared c hc, h.declared c hc, hbases]
      · rw [hother.foreign name hmem, h.foreign name hmem]

end

/-! ## §2. Classes met in order. -/

/-- Every class comes after those of its bases that are classes themselves. -/
def BasesFirst (cs : List Declared) : Prop :=
  ∀ before c after, cs = before ++ c :: after →
    ∀ base ∈ c.bases, base ∈ cs.map (·.name) → base ∈ before.map (·.name)

namespace Heritage

/-- The classes met are written down one after the other, each with a depth that
stands in a relation to it. -/
def Recorded (R : Declared → Nat → Prop) (cs : List Declared) (h : Heritage) : Prop :=
  List.Forall₂ (fun c p => p.1 = c.name ∧ R c p.2) cs h

/-- A class is recorded one above what is recorded of its bases. -/
theorem depthOf_eq (h : Heritage) (bases : List String) :
    h.depthOf bases = oneAbove (bases.map h.baseDepth) := by
  cases bases with
  | nil => rfl
  | cons b rest =>
      unfold oneAbove
      rw [List.map_cons, List.max?_cons']
      rfl

/-- A name that was not met yet is written to the end. -/
theorem record_of_not_mem {h : Heritage} {name : String} (hnew : name ∉ h.map (·.1)) (depth : Nat) :
    h.record name depth = h ++ [(name, depth)] := by
  induction h with
  | nil => rfl
  | cons p rest ih =>
      obtain ⟨n, d⟩ := p
      have hb : (n == name) = false := by
        rw [beq_eq_false_iff_ne]
        rintro rfl
        exact hnew List.mem_cons_self
      rw [record, hb]
      show (n, d) :: record rest name depth = _
      rw [ih fun hmem => hnew (List.mem_cons_of_mem _ hmem)]
      rfl

section

variable {R : Declared → Nat → Prop} {cs : List Declared} {h : Heritage}

theorem Recorded.names (hrec : Recorded R cs h) : h.map (·.1) = cs.map (·.name) := by
  induction hrec with
  | nil => rfl
  | cons hp _ ih => rw [List.map_cons, List.map_cons, hp.1, ih]

/-- What is found for a base is recorded of a class of that name. -/
theorem Recorded.of_lookup (hrec : Recorded R cs h) {base : String} {d : Nat}
    (hbase : h.lookup base = some d) : ∃ c ∈ cs, c.name = base ∧ R c d := by
  induction hrec with
  | nil => cases hbase
  | @cons c p rest more hp _ ih =>
      obtain ⟨n, k⟩ := p
      rw [List.lookup_cons] at hbase
      split at hbase
      · rename_i hn
        cases hbase
        exact ⟨c, List.mem_cons_self, hp.1.symm.trans (eq_of_beq hn).symm, hp.2⟩
      · obtain ⟨e, he, hname, hR⟩ := ih hbase
        exact ⟨e, List.mem_cons_of_mem _ he, hname, hR⟩

/-- Nothing is found for a base that was not met. -/
theorem Recorded.baseDepth_of_not_mem (hrec : Recorded R cs h) {base : String}
    (hbase : base ∉ cs.map (·.name)) : h.baseDepth base = 1 := by
  unfold baseDepth
  cases hl : h.lookup base with
  | none => rfl
  | some d =>
      obtain ⟨c, hc, rfl, -⟩ := hrec.of_lookup hl
      exact absurd (List.mem_map_of_mem hc) hbase

/-- Something is found for a base that was met. -/
theorem Recorded.baseDepth_of_mem (hrec : Recorded R cs h) {base : String}
    (hbase : base ∈ cs.map (·.name)) : ∃ c ∈ cs, c.name = base ∧ R c (h.baseDepth base) := by
  unfold baseDepth
  cases hl : h.lookup base with
  | none =>
      rw [← hrec.names] at hbase
      obtain ⟨p, hp, rfl⟩ := List.mem_map.mp hbase
      have hne := List.lookup_eq_none_iff.mp hl p hp
      simp at hne
  | some d => exact hrec.of_lookup hl

/-- Step: a class of a new name is recorded with the depth that it has then. -/
theorem Recorded.meet (hrec : Recorded R cs h) {c : Declared} (hnew : c.name ∉ cs.map (·.name))
    (hR : R c (h.depthOf c.bases)) : Recorded R (cs ++ [c]) (h.meet c) := by
  unfold Heritage.meet
  rw [record_of_not_mem (by rwa [hrec.names])]
  exact List.rel_append hrec (.cons ⟨rfl, hR⟩ .nil)

end

/-- **Run: what holds of a class when it is met holds of all classes in the end**,
if their names are distinct. -/
theorem recorded_run {R : Declared → Nat → Prop} {cs : List Declared}
    (hnames : (cs.map (·.name)).Nodup)
    (hstep : ∀ before c after (h : Heritage), cs = before ++ c :: after → Recorded R before h →
      R c (h.depthOf c.bases)) :
    Recorded R cs (cs.foldl meet []) := by
  -- The induction is on the classes still to be met.
  have hrun : ∀ (after before : List Declared) (h : Heritage), cs = before ++ after →
      Recorded R before h → Recorded R cs (after.foldl meet h) := by
    intro after
    induction after with
    | nil =>
        intro before h hcs hrec
        rw [hcs, List.append_nil]
        exact hrec
    | cons c rest ih =>
        intro before h hcs hrec
        have hnew : c.name ∉ before.map (·.name) := by
          rw [hcs, List.map_append, List.map_cons] at hnames
          intro hmem
          exact (List.nodup_append.mp hnames).2.2 _ hmem _ List.mem_cons_self rfl
        exact ih (before ++ [c]) (h.meet c) (by rw [hcs, List.append_assoc]; rfl)
          (hrec.meet hnew (hstep before c rest h hcs hrec))
  exact hrun cs [] [] rfl .nil

section

variable {cs : List Declared} {depth : String → Nat}

/-- **No class is recorded deeper than it is.** -/
theorem recorded_le (hnames : (cs.map (·.name)).Nodup) (hdepth : TrueDepths cs depth) :
    Recorded (fun c d => d ≤ depth c.name) cs (cs.foldl meet []) := by
  refine recorded_run hnames ?_
  intro before c after h hcs hrec
  have hc : c ∈ cs := by simp [hcs]
  rw [depthOf_eq, hdepth.declared c hc]
  refine oneAbove_le fun b _ => ?_
  by_cases hmet : b ∈ before.map (·.name)
  · obtain ⟨d, -, rfl, hle⟩ := hrec.baseDepth_of_mem hmet
    exact hle
  · rw [hrec.baseDepth_of_not_mem hmet]
    exact hdepth.one_le b

/-- **With bases first, every class is recorded as deep as it is.** -/
theorem recorded_eq (hnames : (cs.map (·.name)).Nodup) (hdepth : TrueDepths cs depth)
    (hfirst : BasesFirst cs) :
    Recorded (fun c d => d = depth c.name) cs (cs.foldl meet []) := by
  refine recorded_run hnames ?_
  intro before c after h hcs hrec
  have hc : c ∈ cs := by simp [hcs]
  have hbases : c.bases.map h.baseDepth = c.bases.map depth := by
    refine List.map_congr_left fun b hb => ?_
    by_cases hmet : b ∈ before.map (·.name)
    · obtain ⟨d, -, rfl, heq⟩ := hrec.baseDepth_of_mem hmet
      exact heq
    · -- A base that was not met by now is no class at all.
      have hforeign : b ∉ cs.map (·.name) := fun hmem => hmet (hfirst before c after hcs b hb hmem)
      rw [hrec.baseDepth_of_not_mem hmet, hdepth.foreign b hforeign]
  rw [depthOf_eq, hdepth.declared c hc, hbases]

/-- If bases come first, the table of depths is known name by name. -/
theorem foldl_meet_eq (hnames : (cs.map (·.name)).Nodup) (hdepth : TrueDepths cs depth)
    (hfirst : BasesFirst cs) :
    cs.foldl meet [] = cs.map fun c => (c.name, depth c.name) := by
  have hrec := recorded_eq hnames hdepth hfirst
  generalize cs.foldl meet [] = h at hrec
  clear hnames hdepth hfirst
  induction hrec with
  | nil => rfl
  | @cons c p rest more hp _ ih =>
      obtain ⟨n, d⟩ := p
      obtain ⟨rfl, rfl⟩ := hp
      rw [ih, List.map_cons]

end

/-- The greatest depth of a heritage, zero if there is none. -/
theorem deepest_eq (h : Heritage) : h.deepest = (h.map (·.2)).max?.getD 0 := by
  unfold deepest
  cases h with
  | nil => rfl
  | cons p rest =>
      rw [List.map_cons, List.max?_cons', List.foldl_cons, Nat.zero_max]
      rfl

/-- A chain met from its end: the base of the first class counts as one deep. -/
example : [Declared.mk "C" ["B"], ⟨"B", ["A"]⟩, ⟨"A", []⟩].foldl meet []
    = [("C", 2), ("B", 2), ("A", 1)] := by decide

end Heritage

end CodeAudit.Source

namespace CodeAudit.Audit

open CodeAudit.Data CodeAudit.Source

/-! ## §3. The classes of a project. -/

/-- The classes of a file in the order in which they are met; none when it cannot
be read. -/
def classesIn (bytes : List UInt8) : List Declared :=
  (readable? bytes).toList.flatMap Node.declarations

/-- The classes of a project in the order in which they are met. -/
def Job.classes (j : Job) : List Declared := j.modules.flatMap fun f => classesIn f.2

/-- A file that can be read is met with its classes. -/
theorem classesIn_of_ok {bytes : List UInt8} {text : List Char} {tree : Node}
    (htext : fileText bytes = .ok text) (htree : parse text = .ok tree) :
    classesIn bytes = tree.declarations := by
  unfold classesIn
  rw [readable?_eq_some_iff.mpr ⟨text, htext, htree⟩]
  exact List.flatMap_singleton _ _

/-- **The classes of a file are met whatever its audit runs into.** -/
theorem LeavesBehind.heritage {k : Keywords} {lint : LintReply} {bytes : List UInt8} {m : Metrics}
    {h : Heritage} {l : Ledger} {way : Ending} (hway : LeavesBehind k lint bytes m h l way) :
    l.heritage = (classesIn bytes).foldl Heritage.meet h := by
  cases hway with
  | undecoded htext hleft =>
      unfold classesIn readable?
      rw [hleft, htext]
      rfl
  | @unparsed text flaw htext htree hleft =>
      unfold classesIn readable?
      rw [hleft, htext]
      show h = ((parse text).toOption.toList.flatMap _).foldl Heritage.meet h
      rw [htree]
      rfl
  | unlinted htext htree _ _ _ _ hheritage => rw [hheritage, classesIn_of_ok htext htree]; rfl
  | uncounted htext htree _ _ _ _ _ hheritage => rw [hheritage, classesIn_of_ok htext htree]; rfl
  | complete htext htree _ _ _ _ hheritage => rw [hheritage, classesIn_of_ok htext htree]; rfl

/-- **A survey meets the classes of all its files.** -/
theorem heritage_survey (k : Keywords) (lint : String → LintReply)
    (files : List (String × List UInt8)) :
    (survey k lint files).heritage = (files.flatMap fun f => classesIn f.2).foldl Heritage.meet [] := by
  have hrun : ∀ (files : List (String × List UInt8)) (s : Survey), s.metrics.Whole →
      (files.foldl (Survey.add k lint) s).heritage
        = (files.flatMap fun f => classesIn f.2).foldl Heritage.meet s.heritage := by
    intro files
    induction files with
    | nil => exact fun s _ => rfl
    | cons f rest ih =>
        intro s hs
        obtain ⟨way, hway⟩ := leavesBehind k (lint f.1) f.2 hs s.heritage
        rw [List.foldl_cons, ih _ (hway.whole hs), List.flatMap_cons, List.foldl_append]
        show (rest.flatMap _).foldl Heritage.meet (auditFile k (lint f.1) f.2 s.metrics
          s.heritage).heritage = _
        rw [hway.heritage]
  exact hrun files _ fun c => ⟨0, Metrics.get?_ofTotals 0 c⟩

/-- **Recorded depths against true depths.**  Let the classes of a project have
distinct names and inherit in no circle.  Then they have true depths, and just
one family of them.  The audit succeeds and records each class, in the order in
which the classes are met, no deeper than it is; and if each is met after its
bases it records all of them as deep as they are, and shows the greatest of
these depths. -/
theorem recorded_against_true_depths (e : Edition) (jobs : List Job) (j : Job)
    (hnames : (j.classes.map (·.name)).Nodup) (hacyclic : Acyclic j.classes) :
    ∃ depth : String → Nat, TrueDepths j.classes depth ∧
      (∀ other, TrueDepths j.classes other → other = depth) ∧
      let outcome := (session e jobs).audit e j.services j.directory j.files
      let heritage := (survey .standard j.services.lint j.modules).heritage
      outcome.1 = .ok () ∧
        List.Forall₂ (fun c p => p.1 = c.name ∧ p.2 ≤ depth c.name) j.classes heritage ∧
        metric? outcome.2.1.report depthKey = some (.int heritage.deepest) ∧
        (BasesFirst j.classes →
          List.Forall₂ (fun c p => p.1 = c.name ∧ p.2 = depth c.name) j.classes heritage ∧
          metric? outcome.2.1.report depthKey
            = some (.int ((j.classes.map fun c => depth c.name).max?.getD 0 : Nat))) := by
  obtain ⟨depth, hdepth⟩ := exists_trueDepths hnames hacyclic
  obtain ⟨trace, -, haudit⟩ := audit_report (standing e jobs) e .standard j.services j.directory
    j.files
  have hheritage : (survey .standard j.services.lint j.modules).heritage
      = j.classes.foldl Heritage.meet [] := heritage_survey _ _ _
  have hmetric : metric? ((session e jobs).audit e j.services j.directory j.files).2.1.report depthKey
      = some (.int (survey .standard j.services.lint j.modules).heritage.deepest) := by
    rw [session_report, haudit, survey_eq]
    show Dict.get? (summaryOf e j.services.model _ _) depthKey = _
    rw [get?_summaryOf e j.services.model _ _ (by decide) (by decide), get?_depth]
    rfl
  refine ⟨depth, hdepth, fun other hother => hdepth.unique hother, ?_, ?_, hmetric, ?_⟩
  · rw [session_report, haudit]
  · rw [hheritage]
    exact Heritage.recorded_le hnames hdepth
  · intro hfirst
    have htable := Heritage.foldl_meet_eq hnames hdepth hfirst
    refine ⟨by rw [hheritage]; exact Heritage.recorded_eq hnames hdepth hfirst, ?_⟩
    rw [hmetric, hheritage, Heritage.deepest_eq, htable, List.map_map]
    rfl

/-- A file with a class inside another, each class after its bases. -/
def heirs : Job :=
  ⟨⟨fun _ => .fails "timeout", .absent, .predicts (.int 0), .fails "offline"⟩, "p",
    .single ⟨"a.py", "class A(Base): pass\nclass B(A, m.C):\n    class D(B): pass\n".toUTF8.toList⟩⟩

/-- Its classes are two, three and four deep. -/
theorem recorded_against_true_depths_heirs :
    heirs.classes = [⟨"A", ["Base"]⟩, ⟨"B", ["A"]⟩, ⟨"D", ["B"]⟩] ∧
      (heirs.classes.map (·.name)).Nodup ∧ Acyclic heirs.classes ∧ BasesFirst heirs.classes ∧
      metric? ((session .full []).audit .full heirs.services heirs.directory
        heirs.files).2.1.report depthKey = some (.int 4) := by
  have hclasses : heirs.classes = [⟨"A", ["Base"]⟩, ⟨"B", ["A"]⟩, ⟨"D", ["B"]⟩] := by
    decide +kernel
  have hdepth : TrueDepths heirs.classes fun name =>
      if name = "A" then 2 else if name = "B" then 3 else if name = "D" then 4 else 1 := by
    rw [hclasses]
    refine ⟨by decide, fun name hname => ?_⟩
    simp only [List.map_cons, List.map_nil, List.mem_cons, List.not_mem_nil, or_false, not_or]
      at hname
    rw [if_neg hname.1, if_neg hname.2.1, if_neg hname.2.2]
  have hnames : (heirs.classes.map (·.name)).Nodup := by
    rw [hclasses]
    decide
  have hfirst : BasesFirst heirs.classes := by
    rw [hclasses]
    intro before c after hsplit
    rcases before with _ | ⟨a, _ | ⟨b, _ | ⟨d, before⟩⟩⟩
    · cases hsplit
      decide
    · cases hsplit
      decide
    · cases hsplit
      decide
    · simp at hsplit
  obtain ⟨depth, -, hunique, -, -, -, hordered⟩ :=
    recorded_against_true_depths .full [] heirs hnames hdepth.acyclic
  refine ⟨hclasses, hnames, hdepth.acyclic, hfirst, ?_⟩
  rw [(hordered hfirst).2, ← hunique _ hdepth, hclasses]
  rfl

end CodeAudit.Audit
