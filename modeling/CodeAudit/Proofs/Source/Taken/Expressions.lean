/-
  CodeAudit.Proofs.Source.Taken.Expressions
  ─────────────────────────────────────────
  **EXPRESSIONS THAT ARE TAKEN.**

  Names, numbers, plain literals and lists, with attributes and calls hanging
  on them, alone or compared with each other.  Each construct is followed
  through all the levels of the grammar between an atom and an expression:
  at each of them what might go on has to be found missing.

    • `Operand`, `Expression` — a stretch of tokens that is an operand of
      comparisons, or a whole expression,
    • `Trails` — what hangs on an atom,
    • `Operand.of_primary`, `Operand.alone`, `Operand.compared` — from an atom
      to an expression,
    • `Listed` — expressions divided by commas: the arguments of a call
      (`Trails.call`) and the items of a list (`settles_listDisplay`).
-/
import CodeAudit.Proofs.Source.Taken.Barren

namespace CodeAudit.Source.Grammar

open Reader

variable {ts : Tokens} {K : Memory → Prop} {i j k N : Nat} {x : Kind × String}

/-! ## §1. Where expressions begin and end. -/

/-- An atom begins with the token, and nothing that stands before atoms. -/
def begins (x : Kind × String) : Bool :=
  match x.1 with
  | .name | .number | .literal => true
  | .fixed => x.2 == "[" || x.2 == "None"
  | .newline | .indent | .dedent | .finish => false

/-- An expression ends before the token. -/
def ends (x : Kind × String) : Bool :=
  x.1 == .newline || x.1 == .fixed && (x.2 == ")" || x.2 == "]" || x.2 == ",")

/-- An operand of a comparison ends before the token. -/
def endsOperand (x : Kind × String) : Bool :=
  ends x || x.1 == .fixed && (x.2 == "is" || x.2 == "in")

theorem endsOperand_of_ends (h : ends x = true) : endsOperand x = true := by
  unfold endsOperand
  rw [h, Bool.true_or]

/-- Tokens that make up something which is taken by a rule: how they begin, and what
stands behind them. -/
structure Stretch (ts : Tokens) (rule : Rule) (last : Kind × String → Bool) (N i j : Nat) :
    Prop where
  first : ∃ x, Shows ts i x ∧ begins x = true
  /-- No name is bound. -/
  second : ∃ y, Shows ts (i + 1) y ∧ y ≠ (.fixed, ":=")
  last : ∃ z, Shows ts j z ∧ last z = true
  lt : i < j
  settles : Settles ts N rule i (some j)

/-- An operand of a comparison. -/
abbrev Operand (ts : Tokens) (N i j : Nat) : Prop := Stretch ts .bitOr endsOperand N i j

/-- An expression. -/
abbrev Expression (ts : Tokens) (N i j : Nat) : Prop := Stretch ts .expression ends N i j

namespace Stretch

variable {rule : Rule} {last : Kind × String → Bool}

theorem mono {M : Nat} (h : Stretch ts rule last N i j) (hM : N ≤ M) :
    Stretch ts rule last M i j :=
  ⟨h.first, h.second, h.last, h.lt, h.settles.mono hM⟩

theorem takes_here (h : Stretch ts rule last N i j) : Takes ts K here i i := by
  obtain ⟨x, hx, -⟩ := h.first
  exact hx.takes_here

/-- Words with which nothing here begins. -/
theorem misses_word (h : Stretch ts rule last N i j) {text : String}
    (htext : begins (.fixed, text) = false) : Misses ts K (word text) i := by
  obtain ⟨x, hx, hbegins⟩ := h.first
  exact hx.misses_word (ne_of_test hbegins htext)

/-- Words that do not stand behind it. -/
theorem misses_after (h : Stretch ts rule last N i j) {text : String}
    (htext : last (.fixed, text) = false) : Misses ts K (word text) j := by
  obtain ⟨z, hz, hlast⟩ := h.last
  exact hz.misses_word (ne_of_test hlast htext)

/-- The first name is not bound. -/
theorem misses_assignmentExpression (h : Stretch ts rule last N i j) {g : Rules} :
    Misses ts K (assignmentExpression g) i := by
  obtain ⟨⟨kind, text⟩, hx, -⟩ := h.first
  obtain ⟨y, hy, hbound⟩ := h.second
  refine hx.takes_here.bind_misses fun _ _ => ?_
  by_cases hname : kind = .name
  · subst hname
    exact hx.takes_ident.bind_misses fun _ _ => (hy.misses_word hbound).bind _
  · exact (hx.misses_ident hname).bind _

end Stretch

/-! ## §2. From primaries to operands. -/

/-- Operands that no operator joins. -/
theorem takes_leftAssociative {operand : Reads Node} {operators : List String} (hx : Shows ts i x)
    (hp : Takes ts K operand i j) {z : Kind × String} (hz : Shows ts j z)
    (hoperators : ∀ text ∈ operators, z ≠ (.fixed, text)) :
    Takes ts K (leftAssociative operand operators) i j :=
  .bind hx.takes_here fun _ _ => .bind hp fun _ _ =>
    .bind ((hz.misses_oneOf hoperators).bind _).many fun _ _ => .pure trivial

theorem takes_logical {operand : Reads Node} {operator : String} (hx : Shows ts i x)
    (hp : Takes ts K operand i j) (hoperator : Misses ts K (word operator) j) :
    Takes ts K (logical operand operator) i j := by
  refine .bind hx.takes_here fun _ _ => .bind hp fun _ _ => ?_
  refine .bind (hoperator.bind _).many fun rest hrest => ?_
  subst hrest
  exact .pure trivial

/-- **A primary before the end of an operand is an operand.** -/
theorem Operand.of_primary (hx : Shows ts i x) (hbegins : begins x = true) {y z : Kind × String}
    (hy : Shows ts (i + 1) y) (hbound : y ≠ (.fixed, ":=")) (hz : Shows ts j z)
    (hends : endsOperand z = true) (hlt : i < j) (h : Settles ts N .primary i (some j)) :
    Operand ts (N + 8) i j := by
  -- No operator of any level stands behind it.
  have hjoin : ∀ {operators : List String},
      (∀ text ∈ operators, endsOperand (.fixed, text) = false) →
      ∀ text ∈ operators, z ≠ (.fixed, text) :=
    fun hoperators text hmem => ne_of_test hends (hoperators text hmem)
  have hawait : Settles ts (N + 1) .awaitPrimary i (some j) := by
    refine .intro fun w n hn => ?_
    have hmiss : Misses ts w.keeps (word "await") i :=
      hx.misses_word (ne_of_test hbegins (by decide))
    exact (hx.takes_here.bind_misses fun _ _ => hmiss.bind _).orElse (h w n hn)
  have hfactor : Settles ts (N + 2) .factor i (some j) := by
    refine .intro fun w n hn => ?_
    have hsign : Misses ts w.keeps (oneOf ["+", "-", "~"]) i := by
      refine hx.misses_oneOf fun text hmem => ne_of_test hbegins ?_
      revert text
      decide
    have hpower : Misses ts w.keeps (word "**") j := hz.misses_word (ne_of_test hends (by decide))
    refine (hx.takes_here.bind_misses fun _ _ => hsign.bind _).orElse ?_
    refine .bind hx.takes_here fun _ _ => .bind (hawait w n hn) fun _ _ => ?_
    refine .bind (hpower.bind _).perhaps fun power _ => ?_
    cases power with
    | none => exact .pure trivial
    | some p => exact .pure trivial
  have hterm : Settles ts (N + 3) .term i (some j) := .intro fun w n hn =>
    takes_leftAssociative hx (hfactor w n hn) hz (hjoin (by decide))
  have hsum : Settles ts (N + 4) .sum i (some j) := .intro fun w n hn =>
    takes_leftAssociative hx (hterm w n hn) hz (hjoin (by decide))
  have hshift : Settles ts (N + 5) .shift i (some j) := .intro fun w n hn =>
    takes_leftAssociative hx (hsum w n hn) hz (hjoin (by decide))
  have hand : Settles ts (N + 6) .bitAnd i (some j) := .intro fun w n hn =>
    takes_leftAssociative hx (hshift w n hn) hz (hjoin (by decide))
  have hxor : Settles ts (N + 7) .bitXor i (some j) := .intro fun w n hn =>
    takes_leftAssociative hx (hand w n hn) hz (hjoin (by decide))
  have hor : Settles ts (N + 8) .bitOr i (some j) := .intro fun w n hn =>
    takes_leftAssociative hx (hxor w n hn) hz (hjoin (by decide))
  exact ⟨⟨x, hx, hbegins⟩, ⟨y, hy, hbound⟩, ⟨z, hz, hends⟩, hlt, hor⟩

/-! ## §3. From operands to expressions. -/

/-- A comparison, or an operand alone, is an expression where it ends. -/
theorem Expression.of_inversion {rule : Rule} {last : Kind × String → Bool} {M : Nat}
    (h : Stretch ts rule last M i j) {z : Kind × String} (hz : Shows ts k z)
    (hends : ends z = true) (hlt : i < k) (hinversion : Settles ts N .inversion i (some k)) :
    Expression ts (N + 3) i k := by
  obtain ⟨x, hx, hbegins⟩ := h.first
  have hmiss : ∀ {K : Memory → Prop} {text : String}, ends (.fixed, text) = false →
      Misses ts K (word text) k := fun htext => hz.misses_word (ne_of_test hends htext)
  have hconjunction : Settles ts (N + 1) .conjunction i (some k) := .intro fun w n hn =>
    takes_logical hx (hinversion w n hn) (hmiss (by decide))
  have hdisjunction : Settles ts (N + 2) .disjunction i (some k) := .intro fun w n hn =>
    takes_logical hx (hconjunction w n hn) (hmiss (by decide))
  refine ⟨h.first, h.second, ⟨z, hz, hends⟩, hlt, .intro fun w n hn => ?_⟩
  -- No condition follows, so the first alternative is given up behind its body.
  have htakes := hdisjunction w n hn
  have hconditional : Misses ts w.keeps (do
      let line ← here
      let body ← w.rules n .disjunction
      let _ ← word "if"
      let test ← w.rules n .disjunction
      let _ ← word "else"
      let otherwise ← w.rules n .expression
      return Node.conditional line test body otherwise) i :=
    hx.takes_here.bind_misses fun _ _ => htakes.bind_misses fun _ _ => (hmiss (by decide)).bind _
  exact (Misses.diagnosed _).orElse ((Misses.diagnosed _).orElse
    (hconditional.orElse (htakes.orElse _)))

/-- What stands before operands of comparisons. -/
theorem Stretch.misses_not {rule : Rule} {last : Kind × String → Bool} {g : Rules}
    (h : Stretch ts rule last N i j) : Misses ts K (do
      let line ← here
      let _ ← word "not"
      let operand ← g .inversion
      return Node.unary line operand) i :=
  h.takes_here.bind_misses fun _ _ => (h.misses_word (by decide)).bind _

/-- No operator of comparison stands where an expression ends. -/
theorem misses_comparisonOperator {z : Kind × String} (hz : Shows ts i z) (hends : ends z = true) :
    Misses ts K comparisonOperator i := by
  have hmiss : ∀ {text : String}, ends (.fixed, text) = false → Misses ts K (word text) i :=
    fun htext => hz.misses_word (ne_of_test hends htext)
  have hsymbol : Misses ts K (oneOf ["==", "!=", "<=", "<", ">=", ">"]) i := by
    refine hz.misses_oneOf fun text hmem => ne_of_test hends ?_
    revert text
    decide
  exact (hsymbol.bind _).orElse_misses (((hmiss (by decide)).bind _).orElse_misses
    (((hmiss (by decide)).bind _).orElse_misses (((hmiss (by decide)).bind _).orElse_misses
      ((hmiss (by decide)).bind _))))

/-- **An operand alone is an expression.** -/
theorem Operand.alone (h : Operand ts N i j) {z : Kind × String} (hz : Shows ts j z)
    (hends : ends z = true) : Expression ts (N + 4) i j := by
  refine .of_inversion h hz hends h.lt (.intro fun w n hn => ?_)
  refine h.misses_not.orElse ?_
  refine .bind h.takes_here fun _ _ => .bind (h.settles w n hn) fun _ _ => ?_
  refine .bind ((misses_comparisonOperator hz hends).bind _).many fun rest hrest => ?_
  subst hrest
  exact .pure trivial

/-- **Two operands with an operator between them are an expression.** -/
theorem Operand.compared {l : Nat} (h : Operand ts N i j)
    (hoperator : ∀ K : Memory → Prop, Takes ts K comparisonOperator j k) (hjk : j < k)
    (hright : Operand ts N k l) {z : Kind × String} (hz : Shows ts l z) (hends : ends z = true) :
    Expression ts (N + 4) i l := by
  have hlt : i < l := by
    have := h.lt
    have := hright.lt
    omega
  refine .of_inversion h hz hends hlt (.intro fun w n hn => ?_)
  refine h.misses_not.orElse ?_
  refine .bind h.takes_here fun _ _ => .bind (h.settles w n hn) fun _ _ => ?_
  have hrest : Chain ts w.keeps (do
      let membership ← comparisonOperator
      let right ← w.rules n .bitOr
      return (membership, right)) j l := by
    refine .more (j := l) ?_ (by have := hright.lt; omega) (.done ?_)
    · exact .bind (hoperator _) fun _ _ => .bind (hright.settles w n hn) fun _ _ => .pure trivial
    · exact (misses_comparisonOperator hz hends).bind _
  refine .bind (hrest.many (Nat.le_of_lt hz.lt_size)) fun rest _ => ?_
  cases rest with
  | nil => exact .pure trivial
  | cons first more => exact .pure trivial

theorem takes_isNot (h : Shows ts i (.fixed, "is")) (h' : Shows ts (i + 1) (.fixed, "not")) :
    Takes ts K comparisonOperator i (i + 2) := by
  have hsymbol : Misses ts K (oneOf ["==", "!=", "<=", "<", ">=", ">"]) i :=
    h.misses_oneOf (by decide)
  exact (hsymbol.bind _).orElse (((h.misses_word (by decide)).bind _).orElse
    (((h.misses_word (by decide)).bind _).orElse (Gives.orElse
      (.bind h.takes_word fun _ _ => .bind h'.takes_word fun _ _ => .pure trivial) _)))

theorem takes_in (h : Shows ts i (.fixed, "in")) : Takes ts K comparisonOperator i (i + 1) := by
  have hsymbol : Misses ts K (oneOf ["==", "!=", "<=", "<", ">=", ">"]) i :=
    h.misses_oneOf (by decide)
  exact (hsymbol.bind _).orElse (((h.misses_word (by decide)).bind _).orElse
    (Gives.orElse (.bind h.takes_word fun _ _ => .pure trivial) _))

/-! ## §4. Expressions in their places. -/

namespace Stretch

/-- Expressions without a comma. -/
theorem settles_starExpressions (h : Expression ts N i j)
    (hcomma : ∀ K : Memory → Prop, Misses ts K (word ",") j) :
    Settles ts (N + 2) .starExpressions i (some j) := by
  have hstar : Settles ts (N + 1) .starExpression i (some j) := by
    refine .intro fun w n hn => ?_
    exact (h.takes_here.bind_misses fun _ _ => (h.misses_word (by decide)).bind _).orElse
      (h.settles w n hn)
  refine .intro fun w n hn => ?_
  refine .bind h.takes_here fun _ _ => .bind (hstar w n hn) fun _ _ => ?_
  refine .bind ((hcomma _).bind _).many fun rest _ => .bind (hcomma _).perhaps fun trailing _ => ?_
  split
  · exact .pure trivial
  · exact .pure trivial

theorem settles_namedExpression (h : Expression ts N i j) :
    Settles ts (N + 1) .namedExpression i (some j) := by
  refine .intro fun w n hn => ?_
  refine h.misses_assignmentExpression.orElse ((Misses.diagnosed _).orElse ?_)
  exact .bind (h.settles w n hn) fun _ _ =>
    .bind (h.misses_after (by decide)).notAhead fun _ _ => .pure trivial

theorem settles_starNamedExpression (h : Expression ts N i j) :
    Settles ts (N + 2) .starNamedExpression i (some j) := by
  refine .intro fun w n hn => ?_
  exact (h.takes_here.bind_misses fun _ _ => (h.misses_word (by decide)).bind _).orElse
    (h.settles_namedExpression w n hn)

theorem takes_element (h : Expression ts N i j) (w : World ts) {n : Nat} (hn : N ≤ n) :
    Takes ts w.keeps (element (w.rules n)) i j := by
  refine h.misses_assignmentExpression.orElse ?_
  exact .bind (h.settles w n hn) fun _ _ =>
    .bind (h.misses_after (by decide)).notAhead fun _ _ => .pure trivial

theorem takes_positionalArgument (h : Expression ts N i j) (w : World ts) {n : Nat} (hn : N ≤ n) :
    Takes ts w.keeps (positionalArgument (w.rules n)) i j := by
  have hstarred : Misses ts w.keeps (starredArgument (w.rules n)) i :=
    h.takes_here.bind_misses fun _ _ => (h.misses_word (by decide)).bind _
  refine hstarred.orElse ?_
  exact .bind (h.takes_element w hn) fun _ _ =>
    .bind (h.misses_after (by decide)).notAhead fun _ _ => .pure trivial

end Stretch

/-- Expressions divided by commas. -/
inductive Listed (ts : Tokens) (N : Nat) : Nat → Nat → Prop where
  | one {i j : Nat} (h : Expression ts N i j) (hlast : ∀ K : Memory → Prop,
      Misses ts K (word ",") j) : Listed ts N i j
  | more {i j k : Nat} (h : Expression ts N i j) (hcomma : Shows ts j (.fixed, ","))
      (rest : Listed ts N (j + 1) k) : Listed ts N i k

namespace Listed

/-- A list of expressions begins with an expression. -/
theorem first (h : Listed ts N i k) : ∃ j, Expression ts N i j := by
  cases h with
  | one h => exact ⟨_, h⟩
  | more h => exact ⟨_, h⟩

/-- No comma stands behind it. -/
theorem misses_comma (h : Listed ts N i k) : Misses ts K (word ",") k := by
  induction h with
  | one h hlast => exact hlast K
  | more h hcomma rest ih => exact ih

theorem lt (h : Listed ts N i k) : i < k := by
  induction h with
  | one h hlast => exact h.lt
  | more h hcomma rest ih =>
      have := h.lt
      omega

theorem le_size (h : Listed ts N i k) : k ≤ ts.all.size := by
  induction h with
  | one h hlast =>
      obtain ⟨z, hz, -⟩ := h.last
      exact Nat.le_of_lt hz.lt_size
  | more h hcomma rest ih => exact ih

/-- **A reader of expressions takes them one by one.** -/
theorem takes_separated (h : Listed ts N i k) {p : Reads Node}
    (hp : ∀ {i j : Nat}, Expression ts N i j → Takes ts K p i j) :
    Takes ts K (separated p (word ",")) i k := by
  -- What follows the first expression is a chain of commas and expressions.
  have hchain : ∃ j, i < j ∧ Takes ts K p i j ∧ Chain ts K (do let _ ← word ","; p) j k := by
    induction h with
    | one h hlast => exact ⟨_, h.lt, hp h, .done ((hlast K).bind _)⟩
    | @more i j k h hcomma rest ih =>
        obtain ⟨m, hlt, htakes, hrest⟩ := ih
        exact ⟨j, h.lt, hp h,
          .more (.bind hcomma.takes_word fun _ _ => htakes) (by omega) hrest⟩
  obtain ⟨j, -, htakes, hrest⟩ := hchain
  exact htakes.separated hrest h.le_size

end Listed

/-! ## §5. Atoms. -/

/-- An atom in all worlds. -/
def Atom (ts : Tokens) (N i j : Nat) : Prop :=
  ∀ (w : World ts) (n : Nat), N ≤ n →
    Takes ts w.keeps (atom (w.rules n) (atomMistakes (w.rules n))) i j

namespace Atom

theorem name {text : String} (h : Shows ts i (.name, text)) : Atom ts N i (i + 1) := by
  intro w n _
  have hident : Takes ts w.keeps ident i (i + 1) := h.takes_ident
  obtain ⟨t, ht, hkind, -⟩ := h
  refine .bind (gives_look ht) fun a ha => ?_
  rw [ha, hkind]
  exact hident

theorem number {text : String} (h : Shows ts i (.number, text)) (hshort : tooLong text = false) :
    Atom ts N i (i + 1) := by
  intro w n _
  have hnumber : Takes ts w.keeps Grammar.number i (i + 1) := by
    refine .bind h.gives_kind fun t ht => ?_
    rw [ht.2, hshort]
    exact .pure trivial
  obtain ⟨t, ht, hkind, -⟩ := h
  refine .bind (gives_look ht) fun a ha => ?_
  rw [ha, hkind]
  exact hnumber

theorem none (h : Shows ts i (.fixed, "None")) : Atom ts N i (i + 1) := by
  intro w n _
  have hword : Takes ts w.keeps (word "None") i (i + 1) := h.takes_word
  obtain ⟨t, ht, hkind, htext⟩ := h
  refine .bind (gives_look ht) fun a ha => ?_
  rw [ha, hkind, htext]
  exact .bind hword fun _ _ => .pure trivial

theorem literal {text : String} (h : Shows ts i (.literal, text))
    (hliterals : Settles ts N .literals i (some j)) : Atom ts N i j := by
  intro w n hn
  obtain ⟨t, ht, hkind, -⟩ := h
  refine .bind (gives_look ht) fun a ha => ?_
  rw [ha, hkind]
  exact hliterals w n hn

theorem list (h : Shows ts i (.fixed, "[")) (hlist : Settles ts N .listDisplay i (some j)) :
    Atom ts N i j := by
  intro w n hn
  obtain ⟨t, ht, hkind, htext⟩ := h
  refine .bind (gives_look ht) fun a ha => ?_
  rw [ha, hkind, htext]
  exact (hlist w n hn).orElse _

end Atom

/-- A literal whose text stands for something, and which is the only one. -/
theorem settles_literals {text : String} (h : Shows ts i (.literal, text)) {y : Kind × String}
    (hy : Shows ts (i + 1) y) (hlast : y.1 ≠ .literal)
    (hnode : ∀ (compile : Nat → List Char → Except Nat Node) (here first : Nat) (t : Token),
      t.text = text → ∃ n, Literal.node compile here first [t] = .ok n) :
    Settles ts 1 .literals i (some (i + 1)) := by
  refine .intro fun w n _ => ?_
  refine .bind (h.gives_kind.many1_once (hy.misses_kind hlast)) fun run hrun => ?_
  refine .bind takes_furthest fun here _ => ?_
  obtain ⟨t, rfl, -, htext⟩ := hrun
  simp only
  split
  · exact .pure trivial
  · rename_i line herror
    obtain ⟨node, hok⟩ := hnode _ here _ t htext
    rw [hok] at herror
    cases herror

/-- **A list of expressions.** -/
theorem settles_listDisplay (h : Shows ts i (.fixed, "[")) (hitems : Listed ts N (i + 1) j)
    (hclose : Shows ts j (.fixed, "]")) : Settles ts (N + 3) .listDisplay i (some (j + 1)) := by
  refine .intro fun w n hn => ?_
  have hlist : Takes ts w.keeps (starNamedExpressions (w.rules n)) (i + 1) j := by
    refine .bind (hitems.takes_separated fun h => h.settles_starNamedExpression w n hn) fun _ _ => ?_
    exact .bind hitems.misses_comma.perhaps fun _ _ => .pure trivial
  exact .bind h.takes_here fun _ _ => .bind h.takes_word fun _ _ => .bind hlist.perhaps fun _ _ =>
    .bind hclose.takes_word fun _ _ => .pure trivial

/-! ## §6. What hangs on an atom. -/

/-- Behind an atom hang attributes and calls. -/
def Trails (ts : Tokens) (N i j : Nat) : Prop :=
  ∀ (w : World ts) (n : Nat), N ≤ n → ∀ line : Nat,
    Chain ts w.keeps (trailer (w.rules n) line) i j

/-- A generator begins with a bracket. -/
theorem settles_generator_none (h : Shows ts i x) (hx : x ≠ (.fixed, "(")) :
    Settles ts 1 .generator i none :=
  .intro fun _ _ _ => (h.takes_here.bind_misses fun _ _ => (h.misses_word hx).bind _).orElse_misses
    (.diagnosed _)

/-- The clauses of a generator begin with `for` or `async`. -/
theorem settles_clauses_none (h : Shows ts i x) (hends : ends x = true) :
    Settles ts 1 .clauses i none := by
  refine .intro fun w n _ => Misses.many1 ?_
  have hmiss : ∀ {text : String}, ends (.fixed, text) = false → Misses ts w.keeps (word text) i :=
    fun htext => h.misses_word (ne_of_test hends htext)
  exact .commit (((hmiss (by decide)).bind _).bind _)
    (.commit (Takes.pure.bind_misses fun _ _ => (hmiss (by decide)).bind _) (.diagnosed _))

/-- The arguments of a call between their brackets: they are no generator, and are taken
up to the closing bracket. -/
structure Call (ts : Tokens) (N i j : Nat) : Prop where
  opened : Shows ts i (.fixed, "(")
  closed : Shows ts j (.fixed, ")")
  lt : i < j
  generator : Settles ts N .generator i none
  arguments : ∀ (w : World ts) (n : Nat), N ≤ n →
    Takes ts w.keeps (perhaps (w.rules n .arguments)) (i + 1) j

theorem Call.mono {M : Nat} (h : Call ts N i j) (hM : N ≤ M) : Call ts M i j :=
  ⟨h.opened, h.closed, h.lt, h.generator.mono hM,
    fun w n hn => h.arguments w n (Nat.le_trans hM hn)⟩

/-- A call without arguments. -/
theorem Call.empty (h : Shows ts i (.fixed, "(")) (hclose : Shows ts (i + 1) (.fixed, ")")) :
    Call ts 1 i (i + 1) := by
  have hbarren : Barren ts (i + 1) := ⟨_, hclose, by decide⟩
  refine ⟨h, hclose, Nat.lt_succ_self i, .intro fun w n _ => ?_, fun w n _ => ?_⟩
  · have helement : Misses ts w.keeps (element (w.rules n)) (i + 1) :=
      hbarren.misses_assignmentExpression.orElse_misses ((hbarren.misses w n (by decide)).bind _)
    exact Misses.orElse_misses (h.takes_here.bind_misses fun _ _ =>
      h.takes_word.bind_misses fun _ _ => helement.bind _) (.diagnosed _)
  · exact (hbarren.misses w n (by decide)).perhaps

/-- **A call with arguments.** -/
theorem Call.of_listed (h : Shows ts i (.fixed, "(")) (hitems : Listed ts N (i + 1) j)
    (hclose : Shows ts j (.fixed, ")")) : Call ts (N + 3) i j := by
  have hlt : i + 1 < j := hitems.lt
  have hlist : Settles ts (N + 1) .argumentList (i + 1) (some j) := by
    refine .intro fun w n hn => ?_
    obtain ⟨m, hfirst⟩ := hitems.first
    refine .bind hfirst.takes_here fun _ _ => Gives.orElse ?_ _
    refine .bind (hitems.takes_separated fun h => h.takes_positionalArgument w hn) fun _ _ => ?_
    exact .bind (hitems.misses_comma.bind _).perhaps fun _ _ => .pure trivial
  have harguments : Settles ts (N + 2) .arguments (i + 1) (some j) := by
    refine .intro fun w n hn => Gives.orElse ?_ _
    exact .bind (hlist w n hn) fun _ _ => .bind hitems.misses_comma.perhaps fun _ _ =>
      .bind hclose.takes_word.ahead fun _ _ => .pure trivial
  refine ⟨h, hclose, by omega, .mono (N := N + 2) (.intro fun w n hn => ?_) (by omega),
    fun w n hn => ?_⟩
  · -- The first argument might be the element of a generator, but no clause follows.
    obtain ⟨m, hfirst⟩ := hitems.first
    obtain ⟨z, hz, hends⟩ := hfirst.last
    have hclauses := settles_clauses_none hz hends w n (by omega)
    exact Misses.orElse_misses (h.takes_here.bind_misses fun _ _ => h.takes_word.bind_misses
      fun _ _ => (hfirst.takes_element w (by omega)).bind_misses fun _ _ => hclauses.bind _)
      (.diagnosed _)
  · exact Gives.perhaps (harguments w n (by omega))

namespace Trails

theorem mono {M : Nat} (h : Trails ts N i j) (hM : N ≤ M) : Trails ts M i j :=
  fun w n hn => h w n (Nat.le_trans hM hn)

/-- Nothing hangs before the end of an operand. -/
theorem done (h : Shows ts i x) (hends : endsOperand x = true) : Trails ts 1 i i := by
  intro w n hn line
  have hmiss : ∀ {text : String}, endsOperand (.fixed, text) = false →
      Misses ts w.keeps (word text) i := fun htext => h.misses_word (ne_of_test hends htext)
  have hgenerator := settles_generator_none h (ne_of_test hends (by decide)) w n hn
  exact .done (((hmiss (by decide)).bind _).orElse_misses ((Misses.bind hgenerator _).orElse_misses
    (((hmiss (by decide)).bind _).orElse_misses ((hmiss (by decide)).bind _))))

/-- An attribute. -/
theorem attr {text : String} (h : Shows ts i (.fixed, "."))
    (hname : Shows ts (i + 1) (.name, text)) (rest : Trails ts N (i + 2) j) : Trails ts N i j := by
  intro w n hn line
  refine .more (j := i + 2) (Gives.orElse ?_ _) (by omega) (rest w n hn line)
  exact .bind h.takes_word fun _ _ => .bind hname.takes_nameText fun _ _ => .pure trivial

/-- A call. -/
theorem call (h : Call ts N i k) (rest : Trails ts N (k + 1) j) : Trails ts N i j := by
  intro w n hn line
  have hattribute : Misses ts w.keeps (word ".") i := h.opened.misses_word (by decide)
  have htakes : Takes ts w.keeps (trailer (w.rules n) line) i (k + 1) := by
    refine (hattribute.bind _).orElse ((Misses.bind (h.generator w n hn) _).orElse ?_)
    exact Gives.orElse (.bind h.opened.takes_word fun _ _ => .bind (h.arguments w n hn) fun _ _ =>
      .bind h.closed.takes_word fun _ _ => .pure trivial) _
  exact .more htakes (by have := h.lt; omega) (rest w n hn line)

end Trails

/-- **An atom and what hangs on it.** -/
theorem settles_primary (hx : Shows ts i x) (hatom : Atom ts N i j) (htrails : Trails ts N j k)
    (hk : k ≤ ts.all.size) : Settles ts (N + 1) .primary i (some k) := by
  refine .intro fun w n hn => ?_
  exact .bind hx.takes_here fun line _ => .bind (hatom w n hn) fun _ _ =>
    .bind ((htrails w n hn line).many hk) fun _ _ => .pure trivial

/-- **An atom and what hangs on it, before the end of an operand.** -/
theorem Operand.of_atom (hx : Shows ts i x) (hbegins : begins x = true) {y z : Kind × String}
    (hy : Shows ts (i + 1) y) (hbound : y ≠ (.fixed, ":=")) (hatom : Atom ts N i j)
    (htrails : Trails ts N j k) (hz : Shows ts k z) (hends : endsOperand z = true) (hlt : i < k) :
    Operand ts (N + 9) i k :=
  .of_primary hx hbegins hy hbound hz hends hlt
    (settles_primary hx hatom htrails (Nat.le_of_lt hz.lt_size))

end CodeAudit.Source.Grammar
