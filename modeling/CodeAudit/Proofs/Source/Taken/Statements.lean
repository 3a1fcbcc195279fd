/-
  CodeAudit.Proofs.Source.Taken.Statements
  ────────────────────────────────────────
  **STATEMENTS THAT ARE TAKEN.**

  Imports, assignments of a call to a name, assertions, and functions with
  blocks of such statements.  An assignment is the hardest of them: what is
  assigned begins like one more target, and is found not to be one only
  behind its last call.

    • `settles_import`, `settles_from`, `settles_assert`, `settles_assign` —
      simple statements,
    • `Statement.simple`, `Statement.function` — statements in their places,
    • `Statements` — one statement after the other: a block (`settles_block`)
      or a whole file (`takes_file`).
-/
import CodeAudit.Proofs.Source.Taken.Expressions

namespace CodeAudit.Source.Grammar

open Reader

variable {ts : Tokens} {K : Memory → Prop} {i j k N : Nat} {x : Kind × String}

/-! ## §1. Targets. -/

/-- A name before a token that hangs on nothing is not the front of a target. -/
theorem settles_targetPrimary_none {text : String} (h : Shows ts i (.name, text))
    {y : Kind × String} (hy : Shows ts (i + 1) y)
    (hnone : ∀ text ∈ ["(", "[", "."], y ≠ (.fixed, text)) :
    Settles ts 1 .targetPrimary i none := by
  refine .intro fun w n hn => ?_
  exact h.takes_here.bind_misses fun _ _ => (Atom.name (N := 0) h w n (by omega)).bind_misses
    fun _ _ => (hy.misses_oneOf hnone).ahead.bind _

/-- What hangs on a name up to its last call, as the front of a target. -/
def TargetTrails (ts : Tokens) (N i j : Nat) : Prop :=
  ∀ (w : World ts) (n : Nat), N ≤ n → ∀ line : Nat,
    Chain ts w.keeps (targetTrailer (w.rules n) line) i j

namespace TargetTrails

theorem mono {M : Nat} (h : TargetTrails ts N i j) (hM : N ≤ M) : TargetTrails ts M i j :=
  fun w n hn => h w n (Nat.le_trans hM hn)

/-- The last call is not followed by anything, so it is not part of the front. -/
theorem last (h : Call ts N i k) {z : Kind × String} (hz : Shows ts (k + 1) z)
    (hends : ends z = true) : TargetTrails ts N i i := by
  intro w n hn line
  have hdot : Misses ts w.keeps (word ".") i := h.opened.misses_word (by decide)
  have hitem : Misses ts w.keeps (word "[") i := h.opened.misses_word (by decide)
  have htrailer : Misses ts w.keeps trailerAhead (k + 1) := by
    refine Misses.ahead (hz.misses_oneOf fun text hmem => ne_of_test hends ?_)
    revert text
    decide
  refine .done ((hdot.bind _).orElse_misses ((hitem.bind _).orElse_misses
    ((Misses.bind (h.generator w n hn) _).orElse_misses ?_)))
  exact h.opened.takes_word.bind_misses fun _ _ => (h.arguments w n hn).bind_misses fun _ _ =>
    h.closed.takes_word.bind_misses fun _ _ => htrailer.bind _

/-- An attribute that is called. -/
theorem attr {text : String} (h : Shows ts i (.fixed, ".")) (hname : Shows ts (i + 1) (.name, text))
    (hcall : Shows ts (i + 2) (.fixed, "(")) (rest : TargetTrails ts N (i + 2) j) :
    TargetTrails ts N i j := by
  intro w n hn line
  have htrailer : Takes ts w.keeps trailerAhead (i + 2) (i + 2) :=
    (hcall.takes_oneOf (by decide)).ahead
  refine .more (j := i + 2) (Gives.orElse ?_ _) (by omega) (rest w n hn line)
  exact .bind h.takes_word fun _ _ => .bind hname.takes_nameText fun _ _ =>
    .bind htrailer fun _ _ => .pure trivial

end TargetTrails

/-- A name with a call hanging on it is no attribute and no item. -/
theorem misses_attributeOrItem_call {text : String} (h : Shows ts i (.name, text))
    (hnext : ∀ K : Memory → Prop, Takes ts K trailerAhead (i + 1) (i + 1))
    (htrails : TargetTrails ts N (i + 1) j) (hcall : Shows ts j (.fixed, "(")) (w : World ts)
    {n : Nat} (hn : N + 1 ≤ n) : Misses ts w.keeps (attributeOrItem (w.rules n)) i := by
  have hfront : Settles ts (N + 1) .targetPrimary i (some j) := by
    refine .intro fun w n hn => ?_
    exact .bind h.takes_here fun line _ => .bind (Atom.name (N := 0) h w n (by omega)) fun _ _ =>
      .bind (hnext _) fun _ _ =>
        .bind ((htrails w n hn line).many (Nat.le_of_lt hcall.lt_size)) fun _ _ => .pure trivial
  have htakes := hfront w n hn
  have hdot : Misses ts w.keeps (word ".") j := hcall.misses_word (by decide)
  have hitem : Misses ts w.keeps (word "[") j := hcall.misses_word (by decide)
  exact Misses.orElse_misses
    (h.takes_here.bind_misses fun _ _ => Gives.bind_misses htakes fun _ _ => hdot.bind _)
    (h.takes_here.bind_misses fun _ _ => Gives.bind_misses htakes fun _ _ => hitem.bind _)

/-- A name that is no attribute and no item is a target alone. -/
theorem settles_starTargets {text : String} (h : Shows ts i (.name, text)) {y : Kind × String}
    (hy : Shows ts (i + 1) y) (hcomma : y ≠ (.fixed, ","))
    (hother : ∀ (w : World ts) (n : Nat), N ≤ n →
      Misses ts w.keeps (attributeOrItem (w.rules n)) i) :
    Settles ts (N + 3) .starTargets i (some (i + 1)) := by
  have hatom : Settles ts (N + 1) .starTargetAtom i (some (i + 1)) := .intro fun w n hn =>
    (hother w n hn).orElse (h.takes_ident.orElse _)
  have htarget : Settles ts (N + 2) .starTarget i (some (i + 1)) := by
    refine .intro fun w n hn => ?_
    exact (h.takes_here.bind_misses fun _ _ => (h.misses_word nofun).bind _).orElse
      (hatom w n hn)
  refine .intro fun w n hn => Gives.orElse ?_ _
  exact .bind (htarget w n hn) fun _ _ => .bind (hy.misses_word hcomma).notAhead fun _ _ =>
    .pure trivial

/-! ## §2. Simple statements. -/

/-- No assignment begins where nothing begins. -/
theorem Barren.misses_assignment (h : Barren ts i) (w : World ts) (n : Nat) :
    Misses ts w.keeps (assignment (w.rules n)) i := by
  have hother := h.misses_attributeOrItem (h.misses w n (r := .targetPrimary) (by decide))
  have htargets := (h.misses w n (r := .starTargets) (by decide)).bind (β := Node) fun target =>
    word "=" >>= fun _ => pure target
  have hbracket : Misses ts w.keeps (word "(") i := h.misses_word (by decide)
  refine h.takes_here.bind_misses fun line _ => ?_
  exact (h.misses_ident.bind _).orElse_misses
    ((((hbracket.bind _).orElse_misses hother).bind _).orElse_misses
      ((htargets.many1.bind _).orElse_misses
        (.commit ((h.misses w n (r := .singleTarget) (by decide)).bind _) (.diagnosed _))))

/-- A reserved word, or the end of a block, is no expression statement either. -/
theorem Barren.misses_expressionStatement (h : Barren ts i) (w : World ts) (n : Nat) {r : Rule}
    (hr : r ∈ silentRules) (f : Nat → r.Result → Reads Node) :
    Misses ts w.keeps (do let line ← here; let e ← w.rules n r; f line e) i :=
  h.misses_hereThen (h.misses w n hr) f

/-- An imported name is not renamed. -/
theorem takes_renamed_none (h : Shows ts i x) (hx : x ≠ (.fixed, "as")) :
    Takes ts K renamed i i :=
  ((h.misses_word hx).bind _).perhaps

/-- A dotted name, up to a token that does not go on with it. -/
inductive Dotted (ts : Tokens) : Nat → Nat → Prop where
  | one {i : Nat} {text : String} (h : Shows ts i (.name, text)) : Dotted ts i (i + 1)
  | more {i j : Nat} {text : String} (h : Shows ts i (.name, text))
      (hdot : Shows ts (i + 1) (.fixed, ".")) (rest : Dotted ts (i + 2) j) : Dotted ts i j

theorem Dotted.lt (h : Dotted ts i j) : i < j := by
  induction h with
  | one h => exact Nat.lt_succ_self _
  | more h hdot rest ih => omega

/-- The names of a dotted name are taken one by one. -/
theorem Dotted.takes (h : Dotted ts i j) {y : Kind × String} (hy : Shows ts j y)
    (hdot : y ≠ (.fixed, ".")) : Takes ts K importedModule i j := by
  have hchain : ∃ m, i < m ∧ Takes ts K (kind .name) i m ∧
      Chain ts K (do let _ ← word "."; kind .name) m j := by
    induction h with
    | one h =>
        exact ⟨_, Nat.lt_succ_self _, h.gives_kind.takes, .done ((hy.misses_word hdot).bind _)⟩
    | @more i j text h hpoint rest ih =>
        obtain ⟨m, hlt, htakes, hrest⟩ := ih hy
        exact ⟨i + 1, Nat.lt_succ_self i, h.gives_kind.takes,
          .more (.bind hpoint.takes_word fun _ _ => htakes) (by omega) hrest⟩
  obtain ⟨m, -, htakes, hrest⟩ := hchain
  exact .bind (htakes.separated hrest (Nat.le_of_lt hy.lt_size)) fun _ _ => .pure trivial

/-- **`import` and a name.** -/
theorem settles_import {text : String} (h : Shows ts i (.fixed, "import"))
    (hname : Shows ts (i + 1) (.name, text)) (hend : Shows ts (i + 2) (.newline, "")) :
    Settles ts 1 .simpleStatement i (some (i + 2)) := by
  refine .intro fun w n _ => ?_
  have hbarren : Barren ts i := ⟨_, h, by decide⟩
  have hmodule : Takes ts w.keeps (do importedModule; renamed) (i + 1) (i + 2) :=
    .bind ((Dotted.one hname).takes hend (by decide)) fun _ _ => takes_renamed_none hend (by decide)
  have himport : Takes ts w.keeps importing i (i + 2) := by
    refine .bind h.takes_here fun _ _ => Gives.orElse ?_ _
    exact .bind h.takes_word fun _ _ =>
      .bind (hmodule.separated_once (hend.misses_word (by decide))) fun _ _ => .pure trivial
  exact (hbarren.misses_assignment w n).orElse
    ((hbarren.misses_expressionStatement w n (by decide) _).orElse
      (((h.misses_word (by decide)).bind _).orElse (himport.orElse _)))

/-- **`from`, a dotted name, `import` and a name.** -/
theorem settles_from {text : String} (h : Shows ts i (.fixed, "from")) (hsource : Dotted ts (i + 1) j)
    (himport : Shows ts j (.fixed, "import")) (hname : Shows ts (j + 1) (.name, text))
    (hend : Shows ts (j + 2) (.newline, "")) :
    Settles ts 1 .simpleStatement i (some (j + 2)) := by
  refine .intro fun w n _ => ?_
  have hbarren : Barren ts i := ⟨_, h, by decide⟩
  have hfirst : ∃ source, Shows ts (i + 1) (.name, source) := by
    cases hsource with
    | one h => exact ⟨_, h⟩
    | more h => exact ⟨_, h⟩
  obtain ⟨source, hfirst⟩ := hfirst
  have hpoints : Misses ts w.keeps (oneOf [".", "..."]) (i + 1) :=
    hfirst.misses_oneOf nofun
  have hnames : Takes ts w.keeps importedNames (j + 1) (j + 2) := by
    have hone : Takes ts w.keeps importedName (j + 1) (j + 2) :=
      .bind hname.gives_kind fun _ _ => .bind (takes_renamed_none hend (by decide)) fun _ _ =>
        .pure trivial
    have hcomma : Misses ts w.keeps (word ",") (j + 2) := hend.misses_word (by decide)
    refine ((hname.misses_word nofun).bind _).orElse (Gives.orElse ?_ _)
    exact .bind (hone.separated_once hcomma) fun _ _ => hcomma.notAhead
  have hstatement : Takes ts w.keeps importing i (j + 2) := by
    refine .bind h.takes_here fun _ _ => ((h.misses_word (by decide)).bind _).orElse (Gives.orElse ?_ _)
    exact .bind h.takes_word fun _ _ => .bind hpoints.many fun _ _ =>
      .bind (hsource.takes himport (by decide)) fun _ _ => .bind himport.takes_word fun _ _ =>
        .bind hnames fun _ _ => .pure trivial
  exact (hbarren.misses_assignment w n).orElse
    ((hbarren.misses_expressionStatement w n (by decide) _).orElse
      (((h.misses_word (by decide)).bind _).orElse (hstatement.orElse _)))

/-- Statements that begin with other words. -/
theorem misses_importing (h : Shows ts i x) (himport : x ≠ (.fixed, "import"))
    (hfrom : x ≠ (.fixed, "from")) : Misses ts K importing i :=
  h.takes_here.bind_misses fun _ _ => ((h.misses_word himport).bind _).orElse_misses
    (((h.misses_word hfrom).bind _).orElse_misses ((h.misses_word hfrom).bind _))

/-- **`assert` and an expression.** -/
theorem settles_assert (h : Shows ts i (.fixed, "assert")) (htest : Expression ts N (i + 1) j)
    (hend : Shows ts j (.newline, "")) :
    Settles ts (N + 1) .simpleStatement i (some j) := by
  refine .intro fun w n hn => ?_
  have hbarren : Barren ts i := ⟨_, h, by decide⟩
  have hmiss : ∀ {text : String}, text ≠ "assert" → Misses ts w.keeps (word text) i :=
    fun htext => h.misses_word fun heq => htext (Prod.mk.inj heq).2.symm
  have hassert : Takes ts w.keeps (assertion (w.rules n)) i j :=
    .bind h.takes_word fun _ _ => .bind (htest.settles w n hn) fun _ _ =>
      .bind ((hend.misses_word (by decide)).bind _).perhaps fun _ _ => .pure trivial
  exact (hbarren.misses_assignment w n).orElse
    ((hbarren.misses_expressionStatement w n (by decide) _).orElse
      (((hmiss (by decide)).bind _).orElse
        ((misses_importing h (by decide) (by decide)).orElse
          ((((hmiss (by decide)).bind _).orElse_misses ((hmiss (by decide)).bind _)).orElse
            (((hmiss (by decide)).bind _).orElse
              ((((hmiss (by decide)).bind _).orElse_misses (.diagnosed _)).orElse
                ((hbarren.misses_expressionStatement w n (by decide) _).orElse
                  (hassert.orElse _))))))))

/-- No statement stands at the end of a block or of a text. -/
theorem misses_simpleStatement (h : Shows ts i x) (hx : x.1 = .dedent ∨ x.1 = .finish) :
    Settles ts 1 .simpleStatement i none := by
  refine .intro fun w n _ => ?_
  have hkind : x.1 ≠ .fixed := by
    rcases hx with hx | hx <;> rw [hx] <;> decide
  have hbarren : Barren ts i := by
    refine ⟨x, h, ?_⟩
    rcases hx with hx | hx <;> simp [barren, hx]
  have hne : ∀ {text : String}, x ≠ (.fixed, text) := fun heq => hkind (by rw [heq])
  have hmiss : ∀ {text : String}, Misses ts w.keeps (word text) i := h.misses_word hne
  exact (hbarren.misses_assignment w n).orElse_misses
    ((hbarren.misses_expressionStatement w n (by decide) _).orElse_misses
      ((hmiss.bind _).orElse_misses
        ((misses_importing h hne hne).orElse_misses
          (((hmiss.bind _).orElse_misses (hmiss.bind _)).orElse_misses
            ((hmiss.bind _).orElse_misses
              (((hmiss.bind _).orElse_misses (.diagnosed _)).orElse_misses
                ((hbarren.misses_expressionStatement w n (by decide) _).orElse_misses
                  ((hmiss.bind _).orElse_misses
                    (((h.misses_oneOf fun _ _ => hne).bind _).orElse_misses
                      ((hmiss.bind _).orElse_misses (hmiss.bind _)))))))))))

/-- **A call is assigned to a name.**  What is assigned begins with a name and ends with
the call; it is not one more target. -/
theorem settles_assign {target value : String} (h : Shows ts i (.name, target))
    (hequals : Shows ts (i + 1) (.fixed, "=")) (hvalue : Shows ts (i + 2) (.name, value))
    (hnext : ∀ K : Memory → Prop, Takes ts K trailerAhead (i + 3) (i + 3))
    {y : Kind × String} (hy : Shows ts (i + 3) y) (hnone : y.2 ≠ "," ∧ y.2 ≠ "=")
    (htrails : TargetTrails ts N (i + 3) j) (hcall : Shows ts j (.fixed, "("))
    (he : Expression ts N (i + 2) k) (hend : Shows ts k (.newline, "")) :
    Settles ts (N + 5) .simpleStatement i (some k) := by
  -- The target, and what is assigned as a target.
  have hother : ∀ (w : World ts) (n : Nat), N + 1 ≤ n →
      Misses ts w.keeps (attributeOrItem (w.rules n)) i := by
    intro w n hn
    have hfront := settles_targetPrimary_none h hequals (by decide) w n (by omega)
    exact Misses.orElse_misses (h.takes_here.bind_misses fun _ _ => Misses.bind hfront _)
      (h.takes_here.bind_misses fun _ _ => Misses.bind hfront _)
  have htarget := settles_starTargets h hequals (by decide) hother
  have hassigned := settles_starTargets hvalue hy (fun heq => hnone.1 (by rw [heq]))
    fun w n hn => misses_attributeOrItem_call hvalue hnext htrails hcall w hn
  have hyield : Settles ts 1 .yielding (i + 2) none := .intro fun w n _ =>
    hvalue.takes_here.bind_misses fun _ _ => (hvalue.misses_word nofun).bind _
  have hstar := he.settles_starExpressions fun K => hend.misses_word (by decide)
  refine .intro fun w n hn => Gives.orElse ?_ _
  refine .bind h.takes_here fun line _ => ?_
  have hhint : Misses ts w.keeps (hintAndValue (w.rules n)) (i + 1) :=
    (hequals.misses_word (by decide)).bind _
  have hbracket : Misses ts w.keeps (word "(") i := h.misses_word nofun
  have hfirst : Takes ts w.keeps (targetEquals (w.rules n)) i (i + 2) :=
    .bind (htarget w n (by omega)) fun _ _ => .bind hequals.takes_word fun _ _ => .pure trivial
  have hsecond : Misses ts w.keeps (targetEquals (w.rules n)) (i + 2) :=
    Gives.bind_misses (hassigned w n (by omega)) fun _ _ =>
      (hy.misses_word fun heq => hnone.2 (by rw [heq])).bind _
  refine (h.takes_ident.bind_misses fun _ _ => hhint.bind _).orElse ?_
  refine (((hbracket.bind _).orElse_misses (hother w n (by omega))).bind _).orElse (Gives.orElse ?_ _)
  refine .bind (hfirst.many1 (.done hsecond) ?_) fun _ _ => ?_
  · exact Nat.le_of_lt hvalue.lt_size
  · refine .bind (Misses.orElse (hyield w n (by omega)) (hstar w n (by omega))) fun _ _ => ?_
    exact .bind (hend.misses_word (by decide)).notAhead fun _ _ => .pure trivial

/-! ## §3. Statements in their places. -/

/-- A statement, compound or simple, with the end of its line. -/
def Statement (ts : Tokens) (N i j : Nat) : Prop :=
  ∀ (w : World ts) (n : Nat), N ≤ n →
    Takes ts w.keeps ((do return [← compoundStatement (w.rules n)])
      <|> simpleStatements (w.rules n)) i j

theorem Statement.mono {M : Nat} (h : Statement ts N i j) (hM : N ≤ M) : Statement ts M i j :=
  fun w n hn => h w n (Nat.le_trans hM hn)

/-- A compound statement may begin with the token. -/
def startsCompound (x : Kind × String) : Bool :=
  x.1 == .fixed && ["def", "@", "async", "if", "class", "with", "for", "try", "while"].contains x.2
    || x.1 == .name && x.2 == "match"

/-- Without its word no compound statement begins. -/
theorem misses_compoundStatement (h : Shows ts i x) (hx : startsCompound x = false) (g : Rules) :
    Misses ts K (compoundStatement g) i := by
  have hmatch : Misses ts K (matching g) i :=
    ((h.misses_soft (ne_of_test (f := fun x => !startsCompound x) (by rw [hx]; rfl)
      (by decide))).bind _).orElse_misses (.diagnosed _)
  obtain ⟨t, ht, hkind, htext⟩ := h
  obtain ⟨kind, text⟩ := x
  subst hkind htext
  refine (gives_look ht).bind_misses fun a ha => ?_
  subst ha
  have hguarded : ∀ (texts : List String) (p : Reads Node),
      texts ⊆ ["def", "@", "async", "if", "class", "with", "for", "try", "while"] →
      Misses ts K (if (a.kind == .fixed && texts.contains a.text) = true then p else Reader.miss)
        i := by
    intro texts p hsubset
    rw [if_neg]
    · exact .miss
    · intro hboth
      rw [Bool.and_eq_true, List.contains_iff_mem] at hboth
      have hmem := List.contains_iff_mem.mpr (hsubset hboth.2)
      unfold startsCompound at hx
      rw [hboth.1, hmem] at hx
      cases hx
  exact (hguarded _ _ (by decide)).orElse_misses ((hguarded _ _ (by decide)).orElse_misses
    ((hguarded _ _ (by decide)).orElse_misses ((hguarded _ _ (by decide)).orElse_misses
      ((hguarded _ _ (by decide)).orElse_misses ((hguarded _ _ (by decide)).orElse_misses
        ((hguarded _ _ (by decide)).orElse_misses hmatch))))))

/-- **A simple statement on a line of its own.** -/
theorem Statement.simple (h : Shows ts i x) (hx : startsCompound x = false)
    (hstatement : Settles ts N .simpleStatement i (some j)) (hend : Shows ts j (.newline, "")) :
    Statement ts N i (j + 1) := by
  intro w n hn
  refine Misses.orElse ((misses_compoundStatement h hx _).bind _) (Gives.orElse ?_ _)
  exact .bind (hstatement w n hn) fun _ _ => .bind (hend.misses_word (by decide)).notAhead
    fun _ _ => .bind hend.gives_kind fun _ _ => .pure trivial

/-- One statement after the other, up to the end of a block or of a text. -/
inductive Statements (ts : Tokens) (N : Nat) : Nat → Nat → Prop where
  | nil {i : Nat} {x : Kind × String} (h : Shows ts i x)
      (hx : x.1 = .dedent ∨ x.1 = .finish) : Statements ts N i i
  | cons {i j k : Nat} (h : Statement ts N i j) (hlt : i < j) (rest : Statements ts N j k) :
      Statements ts N i k

/-- Statements are taken one by one. -/
theorem Statements.chain (h : Statements ts N i k) (w : World ts) {n : Nat} (hn : N + 1 ≤ n) :
    Chain ts w.keeps ((do return [← compoundStatement (w.rules n)])
      <|> simpleStatements (w.rules n)) i k := by
  induction h with
  | @nil i x h hx =>
      have hcompound : startsCompound x = false := by
        rcases hx with hx | hx <;> simp [startsCompound, hx]
      have hsimple := misses_simpleStatement h hx w n (by omega)
      exact .done (((misses_compoundStatement h hcompound _).bind _).orElse_misses
        ((Misses.bind hsimple _).orElse_misses (Misses.separated hsimple |>.bind _)))
  | cons h hlt rest ih => exact .more (h w n (by omega)) hlt ih

/-- **Statements, the first of which is there.** -/
theorem Statements.takes (h : Statement ts N i j) (rest : Statements ts N j k)
    (hk : k ≤ ts.all.size) (w : World ts) {n : Nat} (hn : N + 1 ≤ n) :
    Takes ts w.keeps (statements (w.rules n)) i k :=
  .bind ((h w n (by omega)).many1 (rest.chain w hn) hk) fun _ _ => .pure trivial

/-! ## §4. Functions. -/

/-- **An indented block.** -/
theorem settles_block (hline : Shows ts i (.newline, "")) (hindent : Shows ts (i + 1) (.indent, ""))
    (hfirst : Statement ts N (i + 2) j) (hrest : Statements ts N j k)
    (hdedent : Shows ts k (.dedent, "")) : Settles ts (N + 2) .block i (some (k + 1)) := by
  refine .intro fun w n hn => Gives.orElse ?_ _
  exact .bind hline.gives_kind fun _ _ => .bind hindent.gives_kind fun _ _ =>
    .bind (Statements.takes hfirst hrest (Nat.le_of_lt hdedent.lt_size) w hn) fun _ _ =>
      .bind hdedent.gives_kind fun _ _ => .pure trivial

section

variable {g : Rules}

/-- No parameter begins with a token that is no name. -/
theorem misses_bareParameter (h : Shows ts i x) (hx : x.1 ≠ .name) (form : Form) :
    Misses ts K (bareParameter g form) i :=
  (h.misses_kind hx).bind _

/-- No parameters behind a star begin where the parameters end. -/
theorem misses_starred (h : Shows ts i (.fixed, ")")) : Misses ts K (starred g .definition) i := by
  have hstar : Misses ts K (word "*") i := h.misses_word (by decide)
  have hkeywords : Misses ts K (keywordsParameter g .definition) i :=
    (Misses.diagnosed _).orElse_misses ((h.misses_word (by decide)).bind _)
  exact (Misses.diagnosed _).orElse_misses ((hstar.bind _).orElse_misses
    ((hstar.bind _).orElse_misses ((hstar.bind _).orElse_misses (hkeywords.bind _))))

/-- **No parameters.** -/
theorem takes_noParameters (h : Shows ts i (.fixed, ")")) :
    Takes ts K (parametersOrNone g .definition) i i := by
  have hbare : ∀ form, Misses ts K (bareParameter g form) i :=
    misses_bareParameter h (by decide)
  have hplain : Misses ts K (parameterPlain g .definition) i := (hbare _).bind _
  have hdefault : Misses ts K (parameterDefault g .definition) i := (hbare _).bind _
  have hslash : Misses ts K (slashDefault g .definition) i :=
    hplain.many.bind_misses fun _ _ => hdefault.many1.bind _
  have hnone : Misses ts K (parameters g .definition) i :=
    (Misses.diagnosed _).orElse_misses (((hplain.many1.bind _).bind _).orElse_misses
      ((hslash.bind _).orElse_misses ((hplain.many1.bind _).orElse_misses
        ((hdefault.many1.bind _).orElse_misses ((misses_starred h).bind _)))))
  exact .bind hnone.perhaps fun _ _ => .pure trivial

/-- **One parameter, without a hint or a default value.** -/
theorem takes_oneParameter {text : String} (hname : Shows ts i (.name, text))
    (h : Shows ts (i + 1) (.fixed, ")")) :
    Takes ts K (parametersOrNone g .definition) i (i + 1) := by
  have hclose : Takes ts K (parameterEnd .definition) (i + 1) (i + 1) :=
    ((h.misses_word (by decide)).bind _).orElse h.takes_word.ahead
  have hbare : Takes ts K (bareParameter g .definition) i (i + 1) :=
    .bind hname.gives_kind fun _ _ => .bind ((h.misses_word (by decide)).bind _).perhaps
      fun _ _ => .pure trivial
  have hplain : Takes ts K (parameterPlain g .definition) i (i + 1) :=
    .bind hbare fun _ _ => .bind hclose fun _ _ => .pure trivial
  -- Behind the parameter stands no other one.
  have hnoBare : Misses ts K (bareParameter g .definition) (i + 1) :=
    misses_bareParameter h (by decide) _
  have hnoPlain : Misses ts K (parameterPlain g .definition) (i + 1) := hnoBare.bind _
  have hnoDefault : Misses ts K (parameterDefault g .definition) (i + 1) := hnoBare.bind _
  have hnoSlash : Misses ts K (slash .definition) (i + 1) := (h.misses_word (by decide)).bind _
  have hchain : Chain ts K (parameterPlain g .definition) i (i + 1) :=
    .more hplain (Nat.lt_succ_self i) (.done hnoPlain)
  have hsize : i + 1 ≤ ts.all.size := Nat.le_of_lt h.lt_size
  have hslashPlain : Misses ts K (slashPlain g .definition) i :=
    (hplain.many1 (.done hnoPlain) hsize).bind_misses fun _ _ => hnoSlash.bind _
  have hslashDefault : Misses ts K (slashDefault g .definition) i :=
    (hchain.many hsize).bind_misses fun _ _ => hnoDefault.many1.bind _
  have hparameters : Takes ts K (parameters g .definition) i (i + 1) := by
    refine (Misses.diagnosed _).orElse ((hslashPlain.bind _).orElse ((hslashDefault.bind _).orElse
      (Gives.orElse ?_ _)))
    exact .bind (hplain.many1 (.done hnoPlain) hsize) fun _ _ => .bind hnoDefault.many fun _ _ =>
      .bind (misses_starred h).perhaps fun _ _ => .pure trivial
  exact .bind hparameters.perhaps fun _ _ => .pure trivial

end

/-- The head of a function, up to its block. -/
structure Head (ts : Tokens) (i j : Nat) : Prop where
  word : Shows ts i (.fixed, "def")
  name : ∃ text, Shows ts (i + 1) (.name, text)
  opened : Shows ts (i + 2) (.fixed, "(")
  parameters : ∀ (K : Memory → Prop) (g : Rules),
    Takes ts K (parametersOrNone g .definition) (i + 3) j
  closed : Shows ts j (.fixed, ")")
  colon : Shows ts (j + 1) (.fixed, ":")

/-- A function without its decorators. -/
theorem Head.takes_functionCore (h : Head ts i j) (hblock : Settles ts N .block (j + 2) (some k))
    (w : World ts) {n : Nat} (hn : N ≤ n) (decorators : List Node) :
    Takes ts w.keeps (functionCore (w.rules n) decorators) i k := by
  obtain ⟨text, hname⟩ := h.name
  refine (Misses.diagnosed _).orElse (Gives.orElse ?_ _)
  refine .bind h.word.takes_here fun line _ => .bind h.word.takes_word fun _ _ => ?_
  refine .bind hname.takes_nameText fun _ _ => .bind h.opened.takes_required fun _ _ => ?_
  refine .bind (h.parameters _ _) fun _ _ => .bind h.closed.takes_word fun _ _ => ?_
  refine .bind ((h.colon.misses_word (by decide)).bind _).perhaps fun _ _ => ?_
  refine .bind h.colon.takes_required fun _ _ => .bind (hblock w n hn) fun _ _ => ?_
  exact .bind takes_endLine fun _ _ => .pure trivial

/-- A compound statement that begins with the word or the sign of a function. -/
theorem Statement.of_decorated {text : String} (h : Shows ts i (.fixed, text))
    (htext : ["def", "@", "async"].contains text = true)
    (htakes : ∀ (w : World ts) (n : Nat), N ≤ n →
      Takes ts w.keeps (decorated (w.rules n) (functionCore (w.rules n))) i j) :
    Statement ts N i j := by
  intro w n hn
  obtain ⟨t, ht, hkind, heq⟩ := h
  have hcompound : Takes ts w.keeps (compoundStatement (w.rules n)) i j := by
    refine .bind (gives_look ht) fun a ha => Gives.orElse ?_ _
    have hguard : (a.kind == .fixed && ["def", "@", "async"].contains a.text) = true := by
      rw [ha, hkind, heq, htext]
      rfl
    show Takes ts w.keeps (if _ then _ else _) i j
    rw [if_pos hguard]
    exact htakes w n hn
  exact Gives.orElse (.bind hcompound fun _ _ => .pure trivial) _

/-- **A function.** -/
theorem Statement.function (h : Head ts i j) (hblock : Settles ts N .block (j + 2) (some k)) :
    Statement ts N i k := by
  refine .of_decorated h.word (by decide) fun w n hn => ?_
  have hdecorators : Misses ts w.keeps (decorators (w.rules n)) i :=
    Misses.many1 ((h.word.misses_word (by decide)).bind _)
  exact (hdecorators.bind _).orElse (h.takes_functionCore hblock w hn [])

/-- **A function with one decorator.** -/
theorem Statement.decorated {m : Nat} (hsign : Shows ts i (.fixed, "@"))
    (he : Expression ts N (i + 1) m) (hline : Shows ts m (.newline, "")) (h : Head ts (m + 1) j)
    (hblock : Settles ts (N + 1) .block (j + 2) (some k)) : Statement ts (N + 1) i k := by
  refine .of_decorated hsign (by decide) fun w n hn => Gives.orElse ?_ _
  have hone : Takes ts w.keeps (do
      let _ ← word "@"
      let e ← w.rules n .namedExpression
      let _ ← kind .newline
      return e) i (m + 1) :=
    .bind hsign.takes_word fun _ _ => .bind (he.settles_namedExpression w n hn) fun _ _ =>
      .bind hline.gives_kind fun _ _ => .pure trivial
  have hdecorators : Takes ts w.keeps (decorators (w.rules n)) i (m + 1) :=
    hone.many1 (.done ((h.word.misses_word (by decide)).bind _)) (Nat.le_of_lt h.word.lt_size)
  exact .bind hdecorators fun d _ => h.takes_functionCore hblock w hn d

/-! ## §5. Files. -/

/-- **A file is taken whose statements are.** -/
theorem takes_file (h : Statement ts N 0 j) (rest : Statements ts N j k)
    (hfinish : Shows ts k (.finish, "")) {n : Nat} (hn : N + 1 ≤ n) :
    Takes ts (Sound ts) (file (rules n)) 0 (k + 1) := by
  have hstatements : Takes ts (Sound ts) (statements (rules n)) 0 k :=
    Statements.takes h rest (Nat.le_of_lt hfinish.lt_size) (World.remembered ts) hn
  exact .bind hstatements.perhaps fun _ _ => .bind hfinish.gives_kind fun _ _ => .pure trivial

end CodeAudit.Source.Grammar
