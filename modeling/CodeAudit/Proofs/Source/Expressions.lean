/-
  CodeAudit.Proofs.Source.Expressions
  ───────────────────────────────────
  **EXPRESSIONS ON ALLOWED LINES.**

  One theorem for each rule of expressions, arguments and targets: once all
  rules find trees on allowed lines (`AllFind`), so does the rule.  The
  theorem carries the name of the rule and follows its steps.  Alternatives
  that only look for mistakes are passed over by `Finds.diagnosed`, so the
  known mistakes need no theorem of their own.  Only the two that are rules
  themselves have one, and they never find anything but a display.
-/
import CodeAudit.Proofs.Source.Literals
import CodeAudit.Source.Grammar.Arguments
import CodeAudit.Source.Grammar.Mistakes

namespace CodeAudit.Source.Grammar.Finds

open Reader

variable {L : Nat → Prop} {g : Rules}

/-! ## §1. Lists of expressions. -/

theorem tupleOf {item : Reads Node} (hitem : Finds L (Node.LinesIn L) item) :
    Finds L (Node.LinesIn L) (Grammar.tupleOf item) := by
  refine .bind .here fun line hline => ?_
  refine .bind hitem fun first hfirst => ?_
  refine .bind (.many (.bind (.word _) fun _ _ => hitem)) fun rest hrest => ?_
  refine .bind (.perhaps (.word _)) fun trailing _ => ?_
  exact .ite (.pure hfirst) (.pure (.on hline (.cons hfirst hrest)))

theorem starredOperand (hg : AllFind L g) :
    Finds L (Node.LinesIn L) (Grammar.starredOperand g) := by
  refine .bind .here fun line hline => ?_
  refine .bind (.word _) fun _ _ => ?_
  refine .bind (hg .bitOr) fun value hvalue => ?_
  exact .pure (.on hline (.one hvalue))

theorem starExpression (hg : AllFind L g) :
    Finds L (Node.LinesIn L) (Grammar.starExpression g) :=
  .orElse (starredOperand hg) (hg .expression)

theorem starNamedExpression (hg : AllFind L g) :
    Finds L (Node.LinesIn L) (Grammar.starNamedExpression g) :=
  .orElse (starredOperand hg) (hg .namedExpression)

/-- Items divided by commas, with or without a last one. -/
theorem listed {item : Reads Node} (hitem : Finds L (Node.LinesIn L) item) :
    Finds L (AllIn L) (do
      let items ← Reader.separated item (Reader.word ",")
      let _ ← Reader.perhaps (Reader.word ",")
      return items : Reads (List Node)) := by
  refine .bind (.separated hitem (.word _)) fun items hitems => ?_
  refine .bind (.perhaps (.word _)) fun _ _ => ?_
  exact .pure hitems

theorem starNamedExpressions (hg : AllFind L g) :
    Finds L (AllIn L) (Grammar.starNamedExpressions g) :=
  listed (hg .starNamedExpression)

theorem assignmentExpression (hg : AllFind L g) :
    Finds L (Node.LinesIn L) (Grammar.assignmentExpression g) := by
  refine .bind .here fun line hline => ?_
  refine .bind .ident fun target htarget => ?_
  refine .bind (.word _) fun _ _ => ?_
  refine .bind (hg .expression) fun value hvalue => ?_
  exact .pure (.on hline (.cons htarget (.one hvalue)))

/-- The element of a generator, and an expression that is not the start of an
assignment expression. -/
theorem element (hg : AllFind L g) : Finds L (Node.LinesIn L) (Grammar.element g) := by
  refine .orElse (assignmentExpression hg) ?_
  refine .bind (hg .expression) fun e he => ?_
  refine .bind (.notAhead (.word _)) fun _ _ => ?_
  exact .pure he

theorem namedExpression (hg : AllFind L g) :
    Finds L (Node.LinesIn L) (Grammar.namedExpression g) := by
  refine .orElse (assignmentExpression hg) (.orElse (.diagnosed _) ?_)
  refine .bind (hg .expression) fun e he => ?_
  refine .bind (.notAhead (.word _)) fun _ _ => ?_
  exact .pure he

theorem yielding (hg : AllFind L g) : Finds L (Node.LinesIn L) (Grammar.yielding g) := by
  refine .bind .here fun line hline => ?_
  refine .bind (.word _) fun _ _ => ?_
  refine .orElse ?_ ?_
  · refine .bind (.word _) fun _ _ => ?_
    refine .bind (hg .expression) fun value hvalue => ?_
    exact .pure (.on hline (.one hvalue))
  · refine .bind (.perhaps (hg .starExpressions)) fun value hvalue => ?_
    exact .pure (.on hline (.option hvalue))

/-! ## §2. Conditionals, logic and arithmetic. -/

theorem expressionCore (hg : AllFind L g) :
    Finds L (Node.LinesIn L) (Grammar.expressionCore g) := by
  refine .orElse ?_ (.orElse (hg .disjunction) (hg .lambda))
  refine .bind .here fun line hline => ?_
  refine .bind (hg .disjunction) fun body hbody => ?_
  refine .bind (.word _) fun _ _ => ?_
  refine .bind (hg .disjunction) fun test htest => ?_
  refine .bind (.word _) fun _ _ => ?_
  refine .bind (hg .expression) fun otherwise hotherwise => ?_
  exact .pure (.on hline (.cons htest (.cons hbody (.one hotherwise))))

theorem expression (hg : AllFind L g) : Finds L (Node.LinesIn L) (Grammar.expression g) :=
  .orElse (.diagnosed _) (.orElse (.diagnosed _) (expressionCore hg))

theorem logical {operand : Reads Node} (h : Finds L (Node.LinesIn L) operand)
    (operator : String) : Finds L (Node.LinesIn L) (Grammar.logical operand operator) := by
  refine .bind .here fun line hline => ?_
  refine .bind h fun first hfirst => ?_
  refine .bind (.many (.bind (.word _) fun _ _ => h)) fun rest hrest => ?_
  exact .ite (.pure hfirst) (.pure (.on hline (.cons hfirst hrest)))

theorem inversion (hg : AllFind L g) {comparison : Reads Node}
    (h : Finds L (Node.LinesIn L) comparison) :
    Finds L (Node.LinesIn L) (Grammar.inversion g comparison) := by
  refine .orElse ?_ h
  refine .bind .here fun line hline => ?_
  refine .bind (.word _) fun _ _ => ?_
  refine .bind (hg .inversion) fun operand hoperand => ?_
  exact .pure (.on hline (.one hoperand))

theorem comparisonOperator : Finds L (fun _ => True) Grammar.comparisonOperator := by
  have hone : ∀ (text : String) (b : Bool),
      Finds L (fun _ => True) (do let _ ← Reader.word text; return b) :=
    fun text _ => .bind (.word text) fun _ _ => .pure trivial
  refine .orElse (.bind (.oneOf _) fun _ _ => .pure trivial) ?_
  refine .orElse (.bind (.word _) fun _ _ => hone _ _) ?_
  refine .orElse (hone _ _) ?_
  exact .orElse (.bind (.word _) fun _ _ => hone _ _) (hone _ _)

theorem comparison (hg : AllFind L g) : Finds L (Node.LinesIn L) (Grammar.comparison g) := by
  refine .bind .here fun line hline => ?_
  refine .bind (hg .bitOr) fun left hleft => ?_
  have hstep : Finds L (fun q : Bool × Node => q.2.LinesIn L) (do
      let membership ← Grammar.comparisonOperator
      let right ← g .bitOr
      return (membership, right)) :=
    .bind comparisonOperator fun _ _ => .bind (hg .bitOr) fun _ hright => .pure hright
  refine .bind (.many hstep) fun rest hrest => ?_
  cases rest with
  | nil => exact .pure hleft
  | cons first others =>
      refine .pure (.on hline (.cons hleft ?_))
      intro n hn
      obtain ⟨q, hq, rfl⟩ := List.mem_map.mp hn
      exact hrest q hq

theorem factor (hg : AllFind L g) : Finds L (Node.LinesIn L) (Grammar.factor g) := by
  refine .orElse ?_ ?_
  · refine .bind .here fun line hline => ?_
    refine .bind (.oneOf _) fun _ _ => ?_
    refine .bind (hg .factor) fun operand hoperand => ?_
    exact .pure (.on hline (.one hoperand))
  · refine .bind .here fun line hline => ?_
    refine .bind (hg .awaitPrimary) fun base hbase => ?_
    refine .bind (.perhaps (.bind (.word _) fun _ _ => hg .factor)) fun power hpower => ?_
    cases power with
    | none => exact .pure hbase
    | some p => exact .pure (.on hline (.cons hbase (.one (hpower p rfl))))

theorem awaitPrimary (hg : AllFind L g) : Finds L (Node.LinesIn L) (Grammar.awaitPrimary g) := by
  refine .orElse ?_ (hg .primary)
  refine .bind .here fun line hline => ?_
  refine .bind (.word _) fun _ _ => ?_
  refine .bind (hg .primary) fun value hvalue => ?_
  exact .pure (.on hline (.one hvalue))

/-! ## §3. Displays and comprehensions. -/

theorem clause (hg : AllFind L g) (mistaken : Reads Node) :
    Finds L (Node.LinesIn L) (Grammar.clause g mistaken) := by
  have hfront : ∀ {async : Reads Unit}, Finds L (fun _ => True) async →
      Finds L (Node.LinesIn L) (do
        async
        let _ ← Reader.word "for"
        let target ← g .starTargets
        let _ ← Reader.word "in"
        return target : Reads Node) := by
    intro async hasync
    refine .bind hasync fun _ _ => ?_
    refine .bind (.word _) fun _ _ => ?_
    refine .bind (hg .starTargets) fun target htarget => ?_
    exact .bind (.word _) fun _ _ => .pure htarget
  have hrest : ∀ target : Node, target.LinesIn L → Finds L (Node.LinesIn L) (do
      let source ← g .disjunction
      let conditions ← Reader.many (do let _ ← Reader.word "if"; g .disjunction)
      return .clause target source conditions : Reads Node) := by
    intro target htarget
    refine .bind (hg .disjunction) fun source hsource => ?_
    refine .bind (.many (.bind (.word _) fun _ _ => hg .disjunction)) fun conditions hconditions => ?_
    exact .pure (.off rfl (.cons htarget (.cons hsource hconditions)))
  refine .commit (hfront (.bind (.word _) fun _ _ => .pure trivial)) hrest ?_
  exact .commit (hfront (.pure trivial)) hrest (.diagnosed _)

theorem clauses (hg : AllFind L g) (mistaken : Reads Node) :
    Finds L (AllIn L) (Reader.many1 (Grammar.clause g mistaken)) :=
  .many1 (clause hg mistaken)

/-- A comprehension between two brackets. -/
theorem comprehension (hg : AllFind L g) {item : Reads Node}
    (hitem : Finds L (Node.LinesIn L) item) (opening closing : String) (builds : Builds) :
    Finds L (Node.LinesIn L) (do
      let line ← Reader.here
      let _ ← Reader.word opening
      let e ← item
      let clauses ← g .clauses
      let _ ← Reader.word closing
      return .comprehension line builds e clauses) := by
  refine .bind .here fun line hline => ?_
  refine .bind (.word _) fun _ _ => ?_
  refine .bind hitem fun e he => ?_
  refine .bind (hg .clauses) fun clauses hclauses => ?_
  exact .bind (.word _) fun _ _ => .pure (.on hline (.cons he hclauses))

theorem generator (hg : AllFind L g) (mistake : Reads Node) :
    Finds L (Node.LinesIn L) (Grammar.generator g mistake) :=
  .orElse (comprehension hg (element hg) _ _ _) (.diagnosed _)

theorem listComprehension (hg : AllFind L g) (mistake : Reads Node) :
    Finds L (Node.LinesIn L) (Grammar.listComprehension g mistake) :=
  .orElse (comprehension hg (hg .namedExpression) _ _ _) (.diagnosed _)

theorem setComprehension (hg : AllFind L g) (mistake : Reads Node) :
    Finds L (Node.LinesIn L) (Grammar.setComprehension g mistake) :=
  .orElse (comprehension hg (hg .namedExpression) _ _ _) (.diagnosed _)

/-- Items between two brackets, perhaps none. -/
theorem bracketed (build : Nat → List Node → Node) {items : Reads (List Node)}
    (hitems : Finds L (AllIn L) items)
    (hbuild : ∀ line ns, L line → AllIn L ns → (build line ns).LinesIn L)
    (opening closing : String) :
    Finds L (Node.LinesIn L) (do
      let line ← Reader.here
      let _ ← Reader.word opening
      let items ← Reader.perhaps items
      let _ ← Reader.word closing
      return build line (items.getD [])) := by
  refine .bind .here fun line hline => ?_
  refine .bind (.word _) fun _ _ => ?_
  refine .bind (.perhaps hitems) fun ns hns => ?_
  exact .bind (.word _) fun _ _ => .pure (hbuild line _ hline (.getD hns))

theorem listDisplay (hg : AllFind L g) : Finds L (Node.LinesIn L) (Grammar.listDisplay g) :=
  bracketed .list (starNamedExpressions hg) (fun _ _ hline hns => .on hline hns) _ _

theorem tuple (hg : AllFind L g) : Finds L (Node.LinesIn L) (Grammar.tuple g) := by
  refine bracketed .tuple ?_ (fun _ _ hline hns => .on hline hns) _ _
  refine .bind (hg .starNamedExpression) fun first hfirst => ?_
  refine .bind (.word _) fun _ _ => ?_
  refine .bind (.perhaps (starNamedExpressions hg)) fun rest hrest => ?_
  exact .pure (.cons hfirst (.getD hrest))

/-- What stands between two brackets stands for itself. -/
theorem enclosed {p : Reads Node} (hp : Finds L (Node.LinesIn L) p) (opening closing : String) :
    Finds L (Node.LinesIn L) (do
      let _ ← Reader.word opening
      let e ← p
      let _ ← Reader.word closing
      return e) := by
  refine .bind (.word _) fun _ _ => ?_
  refine .bind hp fun e he => ?_
  exact .bind (.word _) fun _ _ => .pure he

theorem group (hg : AllFind L g) (mistake : Reads Node) :
    Finds L (Node.LinesIn L) (Grammar.group g mistake) :=
  .orElse (enclosed (.orElse (hg .yielding) (hg .namedExpression)) _ _) (.diagnosed _)

theorem keyValue (hg : AllFind L g) :
    Finds L (fun q : Node × Node => q.1.LinesIn L ∧ q.2.LinesIn L) (Grammar.keyValue g) := by
  refine .bind (hg .expression) fun key hkey => ?_
  refine .bind (.word _) fun _ _ => ?_
  refine .bind (hg .expression) fun value hvalue => ?_
  exact .pure ⟨hkey, hvalue⟩

theorem entry (hg : AllFind L g) :
    Finds L (fun q : Option Node × Node => (∀ n ∈ q.1, n.LinesIn L) ∧ q.2.LinesIn L)
      (Grammar.entry g) := by
  refine .orElse ?_ ?_
  · refine .bind (.word _) fun _ _ => ?_
    refine .bind (hg .bitOr) fun value hvalue => ?_
    exact .pure ⟨forall_mem_none, hvalue⟩
  · refine .bind (keyValue hg) fun q hq => ?_
    exact .pure ⟨forall_mem_some hq.1, hq.2⟩

theorem dictDisplay (hg : AllFind L g) (mistake : Reads Node) :
    Finds L (Node.LinesIn L) (Grammar.dictDisplay g mistake) := by
  refine .orElse ?_ (.diagnosed _)
  refine .bind .here fun line hline => ?_
  refine .bind (.word _) fun _ _ => ?_
  have hentries := (entry hg).separated (.word ",")
  refine .bind (.perhaps (.bind hentries fun es hes =>
    .bind (.perhaps (.word _)) fun _ _ => .pure hes)) fun entries hall => ?_
  refine .bind (.word _) fun _ _ => ?_
  have heach : ∀ q ∈ entries.getD [], (∀ n ∈ q.1, n.LinesIn L) ∧ q.2.LinesIn L :=
    forall_mem_getD hall
  refine .pure (.on hline (.append ?_ ?_))
  · intro n hn
    obtain ⟨q, hq, hn⟩ := List.mem_filterMap.mp hn
    exact (heach q hq).1 n hn
  · intro n hn
    obtain ⟨q, hq, rfl⟩ := List.mem_map.mp hn
    exact (heach q hq).2

theorem setDisplay (hg : AllFind L g) : Finds L (Node.LinesIn L) (Grammar.setDisplay g) := by
  refine .bind .here fun line hline => ?_
  refine .bind (.word _) fun _ _ => ?_
  refine .bind (starNamedExpressions hg) fun items hitems => ?_
  exact .bind (.word _) fun _ _ => .pure (.on hline hitems)

theorem dictComprehension (hg : AllFind L g) (mistake : Reads Node) :
    Finds L (Node.LinesIn L) (Grammar.dictComprehension g mistake) := by
  refine .orElse ?_ (.diagnosed _)
  refine .bind .here fun line hline => ?_
  refine .bind (.word _) fun _ _ => ?_
  refine .bind (keyValue hg) fun q hq => ?_
  refine .bind (hg .clauses) fun clauses hclauses => ?_
  exact .bind (.word _) fun _ _ => .pure (.on hline (.cons hq.1 (.cons hq.2 hclauses)))

/-! ## §4. Atoms and primaries. -/

theorem number : Finds L (Node.LinesIn L) Grammar.number := by
  refine .bind (.kind .number) fun t ht => ?_
  exact .ite (.mistake _) (.pure (.on ht.1.line .nil))

theorem atom (hg : AllFind L g) (m : AtomMistakes) :
    Finds L (Node.LinesIn L) (Grammar.atom g m) := by
  refine .bind .look fun t _ => ?_
  have hword : Finds L (Node.LinesIn L) (do
      let t ← Reader.word t.text
      return .constant t.line .word) :=
    .bind (.word _) fun _ ht => .pure (.on ht.line .nil)
  split
  · exact .ident
  · exact hg .literals
  · exact number
  · split
    · exact hword
    · exact hword
    · exact hword
    · exact hword
    · exact .orElse (hg .tuple) (.orElse (group hg _) (hg .generator))
    · exact .orElse (hg .listDisplay) (listComprehension hg _)
    · refine .orElse (dictDisplay hg _) (.orElse (setDisplay hg) ?_)
      exact .orElse (dictComprehension hg _) (setComprehension hg _)
    · exact .miss
  · exact .miss

theorem slice (hg : AllFind L g) : Finds L (Node.LinesIn L) (Grammar.slice g) := by
  refine .orElse ?_ (hg .namedExpression)
  refine .bind .here fun line hline => ?_
  refine .bind (.perhaps (hg .expression)) fun lower hlower => ?_
  refine .bind (.word _) fun _ _ => ?_
  refine .bind (.perhaps (hg .expression)) fun upper hupper => ?_
  refine .bind (.perhaps (.bind (.word _) fun _ _ => .perhaps (hg .expression))) fun step hstep => ?_
  refine .pure (.on hline (.append (.option hlower) (.append (.option hupper) (.option ?_))))
  intro n hn
  cases step with
  | none => cases hn
  | some o => exact hstep o rfl n hn

theorem starredArgument (hg : AllFind L g) :
    Finds L (Node.LinesIn L) (Grammar.starredArgument g) := by
  refine .bind .here fun line hline => ?_
  refine .bind (.word _) fun _ _ => ?_
  refine .bind (hg .expression) fun value hvalue => ?_
  exact .pure (.on hline (.one hvalue))

theorem slices (hg : AllFind L g) : Finds L (Node.LinesIn L) (Grammar.slices g) := by
  refine .orElse ?_ ?_
  · refine .bind (slice hg) fun s hs => ?_
    exact .bind (.notAhead (.word _)) fun _ _ => .pure hs
  · refine .bind .here fun line hline => ?_
    refine .bind (.separated (.orElse (slice hg) (starredArgument hg)) (.word _))
      fun items hitems => ?_
    exact .bind (.perhaps (.word _)) fun _ _ => .pure (.on hline hitems)

/-- A step from a tree to a larger one keeps to allowed lines. -/
def KeepsIn (L : Nat → Prop) (f : Node → Node) : Prop := ∀ n, n.LinesIn L → (f n).LinesIn L

/-- Steps that keep to allowed lines do so one after the other. -/
theorem keepsIn_foldl {steps : List (Node → Node)} (hsteps : ∀ f ∈ steps, KeepsIn L f) {n : Node}
    (hn : n.LinesIn L) : (steps.foldl (fun value step => step value) n).LinesIn L := by
  induction steps generalizing n with
  | nil => exact hn
  | cons f rest ih =>
      obtain ⟨hf, hrest⟩ := List.forall_mem_cons.mp hsteps
      exact ih hrest (hf n hn)

section Trailers

variable {line : Nat} (hline : L line)

include hline

theorem keepsIn_attr (name : String) : KeepsIn L fun value => .attr line value name :=
  fun _ hn => .on hline (.one hn)

theorem keepsIn_subscript {index : Node} (hindex : index.LinesIn L) :
    KeepsIn L fun value => .subscript line value index :=
  fun _ hn => .on hline (.cons hn (.one hindex))

theorem keepsIn_call {positional keywords : List Node} (hpositional : AllIn L positional)
    (hkeywords : AllIn L keywords) : KeepsIn L fun callee => .call line callee positional keywords :=
  fun _ hn => .on hline (.cons hn (.append hpositional hkeywords))

/-- Arguments that may be missing. -/
theorem keepsIn_arguments {o : Option Arguments}
    (h : ∀ a ∈ o, AllIn L a.positional ∧ AllIn L a.keywords) :
    KeepsIn L fun callee =>
      .call line callee (o.getD ⟨0, [], []⟩).positional (o.getD ⟨0, [], []⟩).keywords := by
  cases o with
  | none => exact keepsIn_call hline .nil .nil
  | some a => exact keepsIn_call hline (h a rfl).1 (h a rfl).2

theorem trailer (hg : AllFind L g) : Finds L (KeepsIn L) (Grammar.trailer g line) := by
  refine .orElse ?_ (.orElse ?_ (.orElse ?_ ?_))
  · refine .bind (.word _) fun _ _ => ?_
    exact .bind .nameText fun name _ => .pure (keepsIn_attr hline name)
  · exact .bind (hg .generator) fun _ h => .pure (keepsIn_call hline (.one h) .nil)
  · refine .bind (.word _) fun _ _ => ?_
    refine .bind (.perhaps (hg .arguments)) fun arguments harguments => ?_
    exact .bind (.word _) fun _ _ => .pure (keepsIn_arguments hline harguments)
  · refine .bind (.word _) fun _ _ => ?_
    refine .bind (hg .slices) fun index hindex => ?_
    exact .bind (.word _) fun _ _ => .pure (keepsIn_subscript hline hindex)

end Trailers

theorem primary (hg : AllFind L g) {atom : Reads Node} (hatom : Finds L (Node.LinesIn L) atom) :
    Finds L (Node.LinesIn L) (Grammar.primary g atom) := by
  refine .bind .here fun line hline => ?_
  refine .bind hatom fun first hfirst => ?_
  refine .bind (.many (trailer hline hg)) fun steps hsteps => ?_
  exact .pure (keepsIn_foldl hsteps hfirst)

/-! ## §5. Arguments. -/

/-- The tree of an argument is on allowed lines. -/
def ArgumentIn (L : Nat → Prop) : Argument → Prop
  | .starred n | .keyword n => n.LinesIn L

theorem keywordArgument (hg : AllFind L g) :
    Finds L (ArgumentIn L) (Grammar.keywordArgument g) := by
  refine .bind .nameText fun name _ => ?_
  refine .bind (.word _) fun _ _ => ?_
  refine .bind (hg .expression) fun value hvalue => ?_
  exact .pure (Node.LinesIn.off rfl (.one hvalue))

theorem keywordOrStarred (hg : AllFind L g) :
    Finds L (ArgumentIn L) (Grammar.keywordOrStarred g) := by
  refine .orElse (.diagnosed _) (.orElse (keywordArgument hg) ?_)
  exact .bind (starredArgument hg) fun value hvalue => .pure hvalue

theorem keywordOrMapping (hg : AllFind L g) :
    Finds L (ArgumentIn L) (Grammar.keywordOrMapping g) := by
  refine .orElse (.diagnosed _) (.orElse (keywordArgument hg) ?_)
  refine .bind (.word _) fun _ _ => ?_
  refine .bind (hg .expression) fun value hvalue => ?_
  exact .pure (Node.LinesIn.off rfl (.one hvalue))

theorem keywordPart (hg : AllFind L g) :
    Finds L (fun as => ∀ a ∈ as, ArgumentIn L a) (Grammar.keywordPart g) := by
  have hstarred := (keywordOrStarred hg).separated (.word ",")
  have hmapping := (keywordOrMapping hg).separated (.word ",")
  refine .orElse ?_ (.orElse hstarred hmapping)
  refine .bind hstarred fun a ha => ?_
  refine .bind (.word _) fun _ _ => ?_
  refine .bind hmapping fun b hb => ?_
  refine .pure fun x hx => ?_
  rcases List.mem_append.mp hx with hx | hx
  · exact ha x hx
  · exact hb x hx

theorem positionalArgument (hg : AllFind L g) :
    Finds L (Node.LinesIn L) (Grammar.positionalArgument g) := by
  refine .orElse (starredArgument hg) ?_
  refine .bind (element hg) fun e he => ?_
  exact .bind (.notAhead (.word _)) fun _ _ => .pure he

/-- The starred ones and the keywords among arguments. -/
theorem allIn_arguments {as : List Argument} (h : ∀ a ∈ as, ArgumentIn L a) :
    AllIn L (as.filterMap Argument.starred?) ∧ AllIn L (as.filterMap Argument.keyword?) := by
  refine ⟨fun n hn => ?_, fun n hn => ?_⟩
  · obtain ⟨a, ha, hn⟩ := List.mem_filterMap.mp hn
    cases a with
    | starred m =>
        cases hn
        exact h _ ha
    | keyword m => cases hn
  · obtain ⟨a, ha, hn⟩ := List.mem_filterMap.mp hn
    cases a with
    | starred m => cases hn
    | keyword m =>
        cases hn
        exact h _ ha

/-- The arguments of a call are on allowed lines. -/
abbrev ArgumentsIn (L : Nat → Prop) (a : Arguments) : Prop :=
  AllIn L a.positional ∧ AllIn L a.keywords

theorem argumentList (hg : AllFind L g) : Finds L (ArgumentsIn L) (Grammar.argumentList g) := by
  refine .bind .here fun line _ => ?_
  refine .orElse ?_ ?_
  · refine .bind (.separated (positionalArgument hg) (.word _)) fun positional hpositional => ?_
    refine .bind (.perhaps (.bind (.word _) fun _ _ => keywordPart hg)) fun others hothers => ?_
    have heach : ∀ a ∈ others.getD [], ArgumentIn L a := forall_mem_getD hothers
    exact .pure ⟨.append hpositional (allIn_arguments heach).1, (allIn_arguments heach).2⟩
  · refine .bind (keywordPart hg) fun others hothers => ?_
    exact .pure (allIn_arguments hothers)

theorem arguments (hg : AllFind L g) : Finds L (ArgumentsIn L) (Grammar.arguments g) := by
  refine .orElse ?_ (.diagnosed _)
  refine .bind (hg .argumentList) fun a ha => ?_
  refine .bind (.perhaps (.word _)) fun _ _ => ?_
  exact .bind (.ahead (.word _)) fun _ _ => .pure ha

/-! ## §6. Targets. -/

theorem trailerAhead : Finds L (fun _ => True) Grammar.trailerAhead := .ahead (.oneOf _)

theorem targetTrailer {line : Nat} (hline : L line) (hg : AllFind L g) :
    Finds L (KeepsIn L) (Grammar.targetTrailer g line) := by
  refine .orElse ?_ (.orElse ?_ (.orElse ?_ ?_))
  · refine .bind (.word _) fun _ _ => ?_
    refine .bind .nameText fun name _ => ?_
    exact .bind trailerAhead fun _ _ => .pure (keepsIn_attr hline name)
  · refine .bind (.word _) fun _ _ => ?_
    refine .bind (hg .slices) fun index hindex => ?_
    refine .bind (.word _) fun _ _ => ?_
    exact .bind trailerAhead fun _ _ => .pure (keepsIn_subscript hline hindex)
  · refine .bind (hg .generator) fun argument hargument => ?_
    exact .bind trailerAhead fun _ _ => .pure (keepsIn_call hline (.one hargument) .nil)
  · refine .bind (.word _) fun _ _ => ?_
    refine .bind (.perhaps (hg .arguments)) fun arguments harguments => ?_
    refine .bind (.word _) fun _ _ => ?_
    exact .bind trailerAhead fun _ _ => .pure (keepsIn_arguments hline harguments)

theorem targetPrimary (hg : AllFind L g) {atom : Reads Node}
    (hatom : Finds L (Node.LinesIn L) atom) :
    Finds L (Node.LinesIn L) (Grammar.targetPrimary g atom) := by
  refine .bind .here fun line hline => ?_
  refine .bind hatom fun first hfirst => ?_
  refine .bind trailerAhead fun _ _ => ?_
  refine .bind (.many (targetTrailer hline hg)) fun steps hsteps => ?_
  exact .pure (keepsIn_foldl hsteps hfirst)

theorem attributeOrItem (hg : AllFind L g) :
    Finds L (Node.LinesIn L) (Grammar.attributeOrItem g) := by
  refine .orElse ?_ ?_
  · refine .bind .here fun line hline => ?_
    refine .bind (hg .targetPrimary) fun value hvalue => ?_
    refine .bind (.word _) fun _ _ => ?_
    refine .bind .nameText fun name _ => ?_
    exact .bind (.notAhead trailerAhead) fun _ _ => .pure (keepsIn_attr hline name value hvalue)
  · refine .bind .here fun line hline => ?_
    refine .bind (hg .targetPrimary) fun value hvalue => ?_
    refine .bind (.word _) fun _ _ => ?_
    refine .bind (hg .slices) fun index hindex => ?_
    refine .bind (.word _) fun _ _ => ?_
    exact .bind (.notAhead trailerAhead) fun _ _ =>
      .pure (keepsIn_subscript hline hindex value hvalue)

theorem starAtom (hg : AllFind L g) : Finds L (Node.LinesIn L) (Grammar.starAtom g) := by
  refine .orElse .ident (.orElse (enclosed (hg .starTargetAtom) _ _) (.orElse ?_ ?_))
  · refine bracketed .tuple (.orElse ?_ ?_) (fun _ _ hline hns => .on hline hns) _ _
    · refine .bind (hg .starTarget) fun first hfirst => ?_
      refine .bind (.many1 (.bind (.word _) fun _ _ => hg .starTarget)) fun rest hrest => ?_
      exact .bind (.perhaps (.word _)) fun _ _ => .pure (.cons hfirst hrest)
    · refine .bind (hg .starTarget) fun first hfirst => ?_
      exact .bind (.word _) fun _ _ => .pure (.one hfirst)
  · exact bracketed .list (listed (hg .starTarget)) (fun _ _ hline hns => .on hline hns) _ _

theorem starTargetAtom (hg : AllFind L g) :
    Finds L (Node.LinesIn L) (Grammar.starTargetAtom g) :=
  .orElse (attributeOrItem hg) (starAtom hg)

theorem starTarget (hg : AllFind L g) : Finds L (Node.LinesIn L) (Grammar.starTarget g) := by
  refine .orElse ?_ (hg .starTargetAtom)
  refine .bind .here fun line hline => ?_
  refine .bind (.word _) fun _ _ => ?_
  refine .bind (.notAhead (.word _)) fun _ _ => ?_
  refine .bind (hg .starTarget) fun value hvalue => ?_
  exact .pure (.on hline (.one hvalue))

theorem starTargets (hg : AllFind L g) : Finds L (Node.LinesIn L) (Grammar.starTargets g) := by
  refine .orElse ?_ ?_
  · refine .bind (hg .starTarget) fun target htarget => ?_
    exact .bind (.notAhead (.word _)) fun _ _ => .pure htarget
  · refine .bind .here fun line hline => ?_
    refine .bind (hg .starTarget) fun first hfirst => ?_
    refine .bind (.many (.bind (.word _) fun _ _ => hg .starTarget)) fun rest hrest => ?_
    exact .bind (.perhaps (.word _)) fun _ _ => .pure (.on hline (.cons hfirst hrest))

theorem singleTarget (hg : AllFind L g) : Finds L (Node.LinesIn L) (Grammar.singleTarget g) :=
  .orElse (attributeOrItem hg) (.orElse .ident (enclosed (hg .singleTarget) _ _))

theorem deletedTargets (hg : AllFind L g) : Finds L (AllIn L) (Grammar.deletedTargets g) :=
  listed (hg .deletedTarget)

theorem deletedTarget (hg : AllFind L g) : Finds L (Node.LinesIn L) (Grammar.deletedTarget g) := by
  refine .orElse (attributeOrItem hg) (.orElse .ident ?_)
  refine .orElse (enclosed (hg .deletedTarget) _ _) (.orElse ?_ ?_)
  · exact bracketed .tuple (deletedTargets hg) (fun _ _ hline hns => .on hline hns) _ _
  · exact bracketed .list (deletedTargets hg) (fun _ _ hline hns => .on hline hns) _ _

/-! ## §7. The mistakes that are rules. -/

theorem mistakenName (hg : AllFind L g) : Finds L (Node.LinesIn L) (Grammar.mistakenName g) := by
  refine .orElse ?_ (.orElse ?_ ?_)
  · refine .bind (hg .expression) fun e _ => ?_
    refine .bind (.word _) fun _ _ => ?_
    exact .bind (hg .expression) fun _ _ => .mistake _
  · refine .bind (.kind .name) fun t _ => ?_
    refine .bind (.word _) fun _ _ => ?_
    refine .bind (hg .bitOr) fun _ _ => ?_
    exact .bind (.notAhead (.oneOf _)) fun _ _ => .mistake _
  · have hword : Finds L (Node.LinesIn L) (do
        let t ← Reader.oneOf ["True", "None", "False"]
        return .plain t.line) :=
      .bind (.oneOf _) fun _ ht => .pure (.on ht.line .nil)
    refine .bind (.notAhead (.orElse (hg .listDisplay) (.orElse (hg .tuple)
      (.orElse (hg .generator) hword)))) fun _ _ => ?_
    refine .bind (hg .bitOr) fun e _ => ?_
    refine .bind (.word _) fun _ _ => ?_
    refine .bind (hg .bitOr) fun _ _ => ?_
    exact .bind (.notAhead (.oneOf _)) fun _ _ => .mistake _

theorem mistakenHintTarget (hg : AllFind L g) :
    Finds L (Node.LinesIn L) (Grammar.mistakenHintTarget g) :=
  .orElse (hg .listDisplay) (.orElse (hg .tuple) (enclosed (hg .mistakenHintTarget) _ _))

end CodeAudit.Source.Grammar.Finds
