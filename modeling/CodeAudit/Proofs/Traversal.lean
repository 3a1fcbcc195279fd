/-
  CodeAudit.Proofs.Traversal
  ──────────────────────────
  **BOTH TRAVERSALS VISIT EVERY NODE ONCE.**

  Checks and counters follow `Node.walk`, level by level; classes are met in
  the order of `Node.preorder`, parent first.  The two visit the same nodes,
  each as often (`walk_perm`), so a tree has as many classes to count
  as it has to meet (`classes_walk`); and what they visit is what lies in the
  tree (`mem_walk_iff`).

  A list of classes met then bounds the heritage that it builds: no more
  names than classes, and no depth beyond one more than their number.
-/
import CodeAudit.Proofs.Totals
import CodeAudit.Source.Heritage
import Mathlib.Data.List.Nodup

namespace CodeAudit.Source.Node

/-! ## §1. The two traversals. -/

/-- A tree is its root, then its parts. -/
theorem preorder_eq (n : Node) : n.preorder = n :: n.children.flatMap preorder := by
  rw [preorder, List.flatMap_subtype (g := preorder) (fun c h => rfl), List.unattach_attach]

/-- Each item first and then its own parts, or all items first: only the order
differs. -/
theorem append_flatMap_perm (nodes : List Node) (parts : Node → List Node) :
    (nodes ++ nodes.flatMap parts).Perm (nodes.flatMap fun n => n :: parts n) := by
  induction nodes with
  | nil => exact List.Perm.nil
  | cons n rest ih =>
      have hswap : (rest ++ (parts n ++ rest.flatMap parts)).Perm
          (parts n ++ (rest ++ rest.flatMap parts)) := by
        rw [← List.append_assoc, ← List.append_assoc]
        exact List.perm_append_comm.append_right _
      rw [List.flatMap_cons, List.flatMap_cons, List.cons_append, List.cons_append]
      exact (hswap.trans (ih.append_left _)).cons n

/-- Levels hold the nodes of all trees below. -/
theorem levels_perm (nodes : List Node) : (levels nodes).Perm (nodes.flatMap preorder) := by
  -- The recursion is on the levels themselves: the next one is made of all parts.
  induction nodes using levels.induct with
  | case1 =>
      rw [levels]
      exact List.Perm.nil
  | case2 n rest ih =>
      have hparts : ((n :: rest).flatMap children).flatMap preorder
          = (n :: rest).flatMap fun m => m.children.flatMap preorder := List.flatMap_assoc
      have hroots : (n :: rest).flatMap preorder
          = (n :: rest).flatMap fun m => m :: m.children.flatMap preorder :=
        congrArg ((n :: rest).flatMap ·) (funext preorder_eq)
      rw [levels, hroots]
      rw [hparts] at ih
      exact (ih.append_left _).trans (append_flatMap_perm (n :: rest) _)

/-- **Level by level and parent first, the same nodes are visited as often.** -/
theorem walk_perm (n : Node) : n.walk.Perm n.preorder := by
  have h := levels_perm [n]
  rw [List.flatMap_cons, List.flatMap_nil, List.append_nil] at h
  exact h

theorem mem_walk_self (n : Node) : n ∈ n.walk := by
  rw [n.walk_perm.mem_iff, preorder_eq]
  exact List.mem_cons_self

theorem mem_walk_of_mem_children {n part : Node} (h : part ∈ n.children) : part ∈ n.walk := by
  rw [n.walk_perm.mem_iff, preorder_eq]
  have hself : part ∈ part.preorder := part.walk_perm.mem_iff.mp part.mem_walk_self
  exact List.mem_cons_of_mem n (List.mem_flatMap.mpr ⟨part, h, hself⟩)

/-- **The walk of a node holds the walks of all nodes in it.** -/
theorem mem_walk_trans {n inner node : Node} (hinner : inner ∈ n.walk) (hnode : node ∈ inner.walk) :
    node ∈ n.walk := by
  rw [Node.walk_perm _ |>.mem_iff] at *
  -- The inner node is the root itself, or it lies in one of its parts.
  induction n using preorder.induct with
  | case1 n ih =>
      rw [preorder_eq] at hinner ⊢
      rcases List.mem_cons.mp hinner with rfl | hpart
      · rwa [← preorder_eq]
      · obtain ⟨part, hpart, hinner⟩ := List.mem_flatMap.mp hpart
        exact List.mem_cons_of_mem n (List.mem_flatMap.mpr ⟨part, hpart, ih part hpart hinner⟩)

/-- A node lies in a tree: it is the root, or it lies in a part of the root. -/
inductive LiesIn (m : Node) : Node → Prop
  | root : LiesIn m m
  | part {n c : Node} (hc : c ∈ n.children) (h : LiesIn m c) : LiesIn m n

/-- **A walk visits what lies in the tree, and nothing else.** -/
theorem mem_walk_iff {m n : Node} : m ∈ n.walk ↔ m.LiesIn n := by
  constructor
  · intro h
    rw [n.walk_perm.mem_iff] at h
    induction n using preorder.induct with
    | case1 n ih =>
        rw [preorder_eq] at h
        rcases List.mem_cons.mp h with rfl | hpart
        · exact .root
        · obtain ⟨c, hc, hm⟩ := List.mem_flatMap.mp hpart
          exact .part hc (ih c hc hm)
  · intro h
    induction h with
    | root => exact mem_walk_self m
    | part hc _ ih => exact mem_walk_trans (mem_walk_of_mem_children hc) ih

end CodeAudit.Source.Node

namespace CodeAudit.Audit

open CodeAudit.Source

/-! ## §2. Classes counted and classes met. -/

/-- A node counts as a class when it declares one. -/
theorem classes_node (n : Node) :
    Totals.of (structuralCounts n) .classes = (n.declared?.toList.length : Int) := by
  cases n with
  | classDef line name bases keywords body decorators => rfl
  | function line endLine isAsync name parameters body decorators returns =>
      refine Totals.of_apply_eq_zero ?_
      cases isAsync with
      | true => exact List.not_mem_nil
      | false => cases returns <;> simp [structuralCounts]
  | _ => rfl

/-- Nodes count as the classes that they declare. -/
theorem classes_nodes (nodes : List Node) :
    Totals.of (nodes.flatMap structuralCounts) .classes
      = ((nodes.filterMap Node.declared?).length : Int) := by
  induction nodes with
  | nil => rfl
  | cons n rest ih =>
      rw [List.flatMap_cons, Totals.of_append, Pi.add_apply, ih, classes_node, List.filterMap_cons]
      cases n.declared? with
      | none => simp
      | some c =>
          simp only [Option.toList_some, List.length_cons, List.length_nil]
          omega

/-- **A walk counts as many classes as are met parent first.** -/
theorem classes_walk (n : Node) :
    Totals.of (n.walk.flatMap structuralCounts) .classes = (n.declarations.length : Int) := by
  rw [classes_nodes, Node.declarations, (n.walk_perm.filterMap _).length_eq]

/-- The blocks of a tree are no classes. -/
theorem classes_complexityCounts (n : Node) : Totals.of (complexityCounts n) .classes = 0 := by
  refine Totals.of_apply_eq_zero ?_
  intro hmem
  obtain ⟨p, hp, hclasses⟩ := List.mem_map.mp hmem
  obtain ⟨c, -, hp⟩ := List.mem_flatMap.mp hp
  simp only [List.mem_cons, List.not_mem_nil, or_false] at hp
  rcases hp with rfl | rfl <;> cases hclasses

end CodeAudit.Audit

namespace CodeAudit.Source.Heritage

/-! ## §3. The heritage of classes. -/

/-- Writing a depth writes a name that is new to the end. -/
theorem names_record (h : Heritage) (name : String) (depth : Nat) :
    (h.record name depth).map (·.1)
      = if name ∈ h.map (·.1) then h.map (·.1) else h.map (·.1) ++ [name] := by
  induction h with
  | nil => rfl
  | cons p rest ih =>
      obtain ⟨n, d⟩ := p
      by_cases hn : n = name
      · subst hn
        simp [record]
      · have hb : (n == name) = false := by simpa using hn
        simp only [record, hb, Bool.false_eq_true, if_false, List.map_cons, ih, List.mem_cons,
          Ne.symm hn, false_or]
        split <;> rfl

/-- A depth that is written down is the new one or an old one. -/
theorem mem_record {h : Heritage} {name : String} {depth : Nat} {p : String × Nat}
    (hp : p ∈ h.record name depth) : p.2 = depth ∨ p ∈ h := by
  induction h with
  | nil =>
      rw [record, List.mem_singleton] at hp
      subst hp
      exact .inl rfl
  | cons q rest ih =>
      rw [record] at hp
      split at hp
      · -- A name met before: its depth is replaced.
        rcases List.mem_cons.mp hp with rfl | hp
        · exact .inl rfl
        · exact .inr (List.mem_cons_of_mem _ hp)
      · rcases List.mem_cons.mp hp with rfl | hp
        · exact .inr List.mem_cons_self
        · rcases ih hp with hdepth | hp
          · exact .inl hdepth
          · exact .inr (List.mem_cons_of_mem _ hp)

/-- What is found for a base is written down for it. -/
theorem baseDepth_le {h : Heritage} {bound : Nat} (hbound : ∀ p ∈ h, p.2 ≤ bound) (hone : 1 ≤ bound)
    (base : String) : h.baseDepth base ≤ bound := by
  unfold baseDepth
  cases hl : h.lookup base with
  | none => exact hone
  | some d =>
      obtain ⟨l₁, l₂, hsplit, -⟩ := List.lookup_eq_some_iff.mp hl
      exact hbound (base, d) (by rw [hsplit]; simp)

/-- The greatest of some numbers and one more is bounded as they are. -/
theorem foldl_max_le {bound : Nat} (ns : List Nat) (hns : ∀ n ∈ ns, n ≤ bound) {m : Nat}
    (hm : m ≤ bound) : ns.foldl max m ≤ bound := by
  induction ns generalizing m with
  | nil => exact hm
  | cons n rest ih =>
      have hn : n ≤ bound := hns n List.mem_cons_self
      exact ih (fun k hk => hns k (List.mem_cons_of_mem _ hk)) (Nat.max_le.mpr ⟨hm, hn⟩)

/-- A class is at most one deeper than all that is written down. -/
theorem depthOf_le {h : Heritage} {bound : Nat} (hbound : ∀ p ∈ h, p.2 ≤ bound) (hone : 1 ≤ bound)
    (bases : List String) : h.depthOf bases ≤ bound + 1 := by
  cases bases with
  | nil => exact Nat.le_succ_of_le hone
  | cons b rest =>
      refine Nat.succ_le_succ (foldl_max_le _ ?_ (baseDepth_le hbound hone b))
      intro n hn
      obtain ⟨c, -, rfl⟩ := List.mem_map.mp hn
      exact baseDepth_le hbound hone c

/-- A class has a depth. -/
theorem one_le_depthOf (h : Heritage) (bases : List String) : 1 ≤ h.depthOf bases := by
  cases bases with
  | nil => exact Nat.le_refl 1
  | cons b rest => exact Nat.succ_le_succ (Nat.zero_le _)

/-- What is known of a heritage once so many classes have been met. -/
structure Bounded (h : Heritage) (met : Nat) : Prop where
  nodup : (h.map (·.1)).Nodup
  names_le : h.length ≤ met
  one_le : ∀ p ∈ h, 1 ≤ p.2
  depth_le : ∀ p ∈ h, p.2 ≤ met + 1
  nil_iff : h = [] ↔ met = 0

/-- No class met. -/
theorem bounded_nil : Bounded [] 0 := by
  refine ⟨List.nodup_nil, Nat.le_refl 0, ?_, ?_, Iff.rfl.trans ⟨fun _ => rfl, fun _ => rfl⟩⟩
  · intro p hp
    cases hp
  · intro p hp
    cases hp

/-- Step: one more class, met before or not. -/
theorem bounded_meet {h : Heritage} {met : Nat} (hb : Bounded h met) (c : Declared) :
    Bounded (h.meet c) (met + 1) := by
  have hnames := names_record h c.name (h.depthOf c.bases)
  refine ⟨?_, ?_, ?_, ?_, ?_⟩
  · rw [meet, hnames]
    split
    · exact hb.nodup
    · rename_i hnew
      refine List.nodup_append.mpr ⟨hb.nodup, List.nodup_singleton _, ?_⟩
      intro a ha b hb' heq
      rw [List.mem_singleton] at hb'
      exact hnew (hb' ▸ heq ▸ ha)
  · have hlength := congrArg List.length hnames
    rw [List.length_map] at hlength
    rw [meet, hlength]
    have := hb.names_le
    split
    · rw [List.length_map]
      omega
    · rw [List.length_append, List.length_map, List.length_singleton]
      omega
  · intro p hp
    rcases mem_record hp with hdepth | hp
    · rw [hdepth]
      exact one_le_depthOf h c.bases
    · exact hb.one_le p hp
  · intro p hp
    rcases mem_record hp with hdepth | hp
    · rw [hdepth]
      exact depthOf_le hb.depth_le (Nat.le_add_left 1 met) c.bases
    · exact Nat.le_succ_of_le (hb.depth_le p hp)
  · refine ⟨fun hnil => ?_, fun hzero => absurd hzero (Nat.succ_ne_zero met)⟩
    -- The class just met is among the names.
    have hempty : (h.record c.name (h.depthOf c.bases)).map (·.1) = [] := by
      rw [show h.record c.name (h.depthOf c.bases) = [] from hnil]
      rfl
    rw [hnames] at hempty
    split at hempty
    · rename_i hold
      rw [hempty] at hold
      cases hold
    · exact absurd hempty (by simp)

/-- **Run: classes met one after the other bound the heritage.** -/
theorem bounded_foldl {h : Heritage} {met : Nat} (hb : Bounded h met) (cs : List Declared) :
    Bounded (cs.foldl meet h) (met + cs.length) := by
  induction cs generalizing h met with
  | nil => exact hb
  | cons c rest ih =>
      have hrest := ih (bounded_meet hb c)
      rw [List.length_cons, List.foldl_cons]
      rw [Nat.add_right_comm] at hrest
      exact hrest

/-- The greatest depth is bounded as all depths are. -/
theorem deepest_le {h : Heritage} {met : Nat} (hb : Bounded h met) : h.deepest ≤ met + 1 := by
  refine foldl_max_le _ ?_ (Nat.zero_le _)
  intro d hd
  obtain ⟨p, hp, rfl⟩ := List.mem_map.mp hd
  exact hb.depth_le p hp

/-- A running maximum is at least what it starts with. -/
theorem le_foldl_max (ns : List Nat) (m : Nat) : m ≤ ns.foldl max m := by
  induction ns generalizing m with
  | nil => exact Nat.le_refl m
  | cons n rest ih => exact Nat.le_trans (Nat.le_max_left m n) (ih (max m n))

/-- The greatest depth is zero when no class was met, and only then. -/
theorem deepest_eq_zero_iff {h : Heritage} {met : Nat} (hb : Bounded h met) :
    h.deepest = 0 ↔ met = 0 := by
  rw [← hb.nil_iff]
  constructor
  · intro hzero
    cases h with
    | nil => rfl
    | cons p rest =>
        have hp : 1 ≤ p.2 := hb.one_le p List.mem_cons_self
        have hle : max 0 p.2 ≤ deepest (p :: rest) :=
          le_foldl_max (rest.map fun q : String × Nat => q.2) (max 0 p.2)
        omega
  · rintro rfl
    rfl

end CodeAudit.Source.Heritage
