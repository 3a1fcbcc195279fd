/-
  CodeAudit.Proofs.Source.Statements
  ──────────────────────────────────
  **STATEMENTS ON ALLOWED LINES.**

  The rules of statements, one theorem for each, from assignments to blocks
  and whole files (`file`).  A statement takes its line from the word that
  starts it, or from the place where it starts.
-/
import CodeAudit.Proofs.Source.Patterns
import CodeAudit.Source.Grammar.Statements

namespace CodeAudit.Source.Grammar.Finds

open Reader

variable {L : Nat → Prop} {g : Rules}

/-! ## §1. Simple statements. -/

theorem assigned (hg : AllFind L g) : Finds L (Node.LinesIn L) (Grammar.assigned g) :=
  .orElse (hg .yielding) (hg .starExpressions)

theorem hintAndValue (hg : AllFind L g) :
    Finds L (fun q : Node × Option Node => q.1.LinesIn L ∧ ∀ n ∈ q.2, n.LinesIn L)
      (Grammar.hintAndValue g) := by
  refine .bind (.word _) fun _ _ => ?_
  refine .bind (hg .expression) fun hint hhint => ?_
  refine .bind (.perhaps (.bind (.word _) fun _ _ => assigned hg)) fun value hvalue => ?_
  exact .pure ⟨hhint, hvalue⟩

theorem targetEquals (hg : AllFind L g) : Finds L (Node.LinesIn L) (Grammar.targetEquals g) := by
  refine .bind (hg .starTargets) fun target htarget => ?_
  exact .bind (.word _) fun _ _ => .pure htarget

theorem assignment (hg : AllFind L g) : Finds L (Node.LinesIn L) (Grammar.assignment g) := by
  refine .bind .here fun line hline => ?_
  have hannotated : ∀ {p : Reads Node}, Finds L (Node.LinesIn L) p → Finds L (Node.LinesIn L) (do
      let target ← p
      let q ← Grammar.hintAndValue g
      return .annotated line target q.1 q.2) := by
    intro p hp
    refine .bind hp fun target htarget => ?_
    refine .bind (hintAndValue hg) fun q hq => ?_
    exact .pure (.on hline (.cons htarget (.cons hq.1 (.option hq.2))))
  refine .orElse (hannotated .ident) (.orElse ?_ (.orElse ?_ ?_))
  · exact hannotated (.orElse (enclosed (hg .singleTarget) _ _) (attributeOrItem hg))
  · refine .bind (.many1 (targetEquals hg)) fun targets htargets => ?_
    refine .bind (assigned hg) fun value hvalue => ?_
    refine .bind (.notAhead (.word _)) fun _ _ => ?_
    exact .pure (.on hline (.append htargets (.one hvalue)))
  · have htarget : Finds L (Node.LinesIn L) (do
        let target ← g .singleTarget
        let _ ← Reader.oneOf augmentedOperators
        return target) :=
      .bind (hg .singleTarget) fun _ h => .bind (.oneOf _) fun _ _ => .pure h
    refine .commit htarget (fun target htarget => ?_) (.diagnosed _)
    refine .bind (assigned hg) fun value hvalue => ?_
    exact .pure (.on hline (.cons htarget (.one hvalue)))

theorem returning (hg : AllFind L g) : Finds L (Node.LinesIn L) (Grammar.returning g) := by
  refine .bind (.word _) fun t ht => ?_
  refine .bind (.perhaps (hg .starExpressions)) fun value hvalue => ?_
  exact .pure (.on ht.line (.option hvalue))

theorem raising (hg : AllFind L g) : Finds L (Node.LinesIn L) (Grammar.raising g) := by
  refine .orElse ?_ (.bind (.word _) fun t ht => .pure (.on ht.line .nil))
  refine .bind (.word _) fun t ht => ?_
  refine .bind (hg .expression) fun exception hexception => ?_
  refine .bind (.perhaps (.bind (.word _) fun _ _ => hg .expression)) fun cause hcause => ?_
  exact .pure (.on ht.line (.cons hexception (.option hcause)))

theorem declaration (keyword : String) :
    Finds L (Node.LinesIn L) (Grammar.declaration keyword) := by
  refine .bind (.word _) fun t ht => ?_
  exact .bind (.separated (.kind .name) (.word _)) fun _ _ => .pure (.on ht.line .nil)

theorem deletion (hg : AllFind L g) : Finds L (Node.LinesIn L) (Grammar.deletion g) := by
  have hend : Finds L (fun _ => True) (Reader.ahead ((do let _ ← Reader.word ";"; return ())
      <|> (do let _ ← Reader.kind .newline; return ()))) :=
    .ahead (P := fun _ => True) (.orElse (.bind (.word _) fun _ _ => .pure trivial)
      (.bind (.kind _) fun _ _ => .pure trivial))
  refine .orElse ?_ (.diagnosed _)
  refine .bind (.word _) fun t ht => ?_
  refine .bind (deletedTargets hg) fun targets htargets => ?_
  exact .bind hend fun _ _ => .pure (.on ht.line htargets)

theorem assertion (hg : AllFind L g) : Finds L (Node.LinesIn L) (Grammar.assertion g) := by
  refine .bind (.word _) fun t ht => ?_
  refine .bind (hg .expression) fun test htest => ?_
  refine .bind (.perhaps (.bind (.word _) fun _ _ => hg .expression)) fun message hmessage => ?_
  exact .pure (.on ht.line (.cons htest (.option hmessage)))

theorem renamed : Finds L (fun _ => True) Grammar.renamed :=
  (Finds.perhaps (.bind (.word _) fun _ _ => .nameText)).mono fun _ _ => trivial

theorem importedModule : Finds L (fun _ => True) Grammar.importedModule :=
  .bind (.separated (.kind .name) (.word _)) fun _ _ => .pure trivial

theorem importedName : Finds L (fun _ => True) Grammar.importedName := by
  refine .bind (.kind .name) fun _ _ => ?_
  exact .bind renamed fun _ _ => .pure trivial

theorem importedNames : Finds L (fun _ => True) Grammar.importedNames := by
  have hnames := importedName.separated (L := L) (.word ",")
  refine .orElse ?_ (.orElse ?_ (.orElse ?_ (.diagnosed _)))
  · refine .bind (.word _) fun _ _ => ?_
    refine .bind hnames fun _ _ => ?_
    refine .bind (.perhaps (.word _)) fun _ _ => ?_
    exact .bind (.word _) fun _ _ => .pure trivial
  · exact .bind hnames fun _ _ => .notAhead (.word _)
  · exact .bind (.word _) fun _ _ => .pure trivial

theorem importing : Finds L (Node.LinesIn L) Grammar.importing := by
  refine .bind .here fun line hline => ?_
  refine .orElse ?_ (.orElse ?_ ?_)
  · refine .bind (.word _) fun _ _ => ?_
    refine .bind (.separated (.bind importedModule fun _ _ => renamed) (.word _)) fun _ _ => ?_
    exact .pure (.on hline .nil)
  · refine .bind (.word _) fun _ _ => ?_
    refine .bind (.many (.oneOf _)) fun _ _ => ?_
    refine .bind importedModule fun _ _ => ?_
    refine .bind (.word _) fun _ _ => ?_
    exact .bind importedNames fun _ _ => .pure (.on hline .nil)
  · refine .bind (.word _) fun _ _ => ?_
    refine .bind (.many1 (.oneOf _)) fun _ _ => ?_
    refine .bind (.word _) fun _ _ => ?_
    exact .bind importedNames fun _ _ => .pure (.on hline .nil)

theorem simpleStatement (hg : AllFind L g) :
    Finds L (Node.LinesIn L) (Grammar.simpleStatement g) := by
  have hexpression : ∀ {p : Reads Node}, Finds L (Node.LinesIn L) p → Finds L (Node.LinesIn L) (do
      let line ← Reader.here
      let e ← p
      return .expression line e) :=
    fun hp => .bind .here fun _ hline => .bind hp fun _ he => .pure (.on hline (.one he))
  refine .orElse (assignment hg) (.orElse (hexpression (hg .starExpressions)) ?_)
  refine .orElse (returning hg) (.orElse importing (.orElse (raising hg) (.orElse ?_ ?_)))
  · exact .bind (.word _) fun t ht => .pure (.on ht.line .nil)
  refine .orElse (deletion hg) (.orElse (hexpression (hg .yielding)) ?_)
  refine .orElse (assertion hg) (.orElse ?_ (.orElse (declaration _) (declaration _)))
  exact .bind (.oneOf _) fun t ht => .pure (.on ht.line .nil)

theorem simpleStatements (hg : AllFind L g) :
    Finds L (AllIn L) (Grammar.simpleStatements g) := by
  refine .orElse ?_ ?_
  · refine .bind (hg .simpleStatement) fun s hs => ?_
    refine .bind (.notAhead (.word _)) fun _ _ => ?_
    exact .bind (.kind _) fun _ _ => .pure (.one hs)
  · refine .bind (.separated (hg .simpleStatement) (.word _)) fun s hs => ?_
    refine .bind (.perhaps (.word _)) fun _ _ => ?_
    exact .bind (.kind _) fun _ _ => .pure hs

/-! ## §2. Branches and loops. -/

theorem wordBlock (hg : AllFind L g) (keyword : String) :
    Finds L (AllIn L) (Grammar.wordBlock g keyword) := by
  refine .orElse (.diagnosed _) ?_
  refine .bind (.word _) fun _ _ => ?_
  exact .bind (.required _) fun _ _ => hg .block

theorem elseBlock (hg : AllFind L g) : Finds L (AllIn L) (Grammar.elseBlock g) :=
  .bind (.perhaps (wordBlock hg _)) fun _ hbody => .pure (.getD hbody)

theorem branch (hg : AllFind L g) (keyword : String) :
    Finds L (Node.LinesIn L) (Grammar.branch g keyword) := by
  refine .orElse (.diagnosed _) (.orElse ?_ ?_)
  · refine .bind (.word _) fun t ht => ?_
    refine .bind (hg .namedExpression) fun test htest => ?_
    refine .bind (.word _) fun _ _ => ?_
    refine .bind (hg .block) fun body hbody => ?_
    refine .bind (hg .elifBranch) fun next hnext => ?_
    exact .pure (.on ht.line (.cons htest (.append hbody (.one hnext))))
  · refine .bind (.word _) fun t ht => ?_
    refine .bind (hg .namedExpression) fun test htest => ?_
    refine .bind (.word _) fun _ _ => ?_
    refine .bind (hg .block) fun body hbody => ?_
    refine .bind (elseBlock hg) fun otherwise hotherwise => ?_
    exact .pure (.on ht.line (.cons htest (.append hbody hotherwise)))

theorem whileLoop (hg : AllFind L g) : Finds L (Node.LinesIn L) (Grammar.whileLoop g) := by
  refine .orElse (.diagnosed _) ?_
  refine .bind (.word _) fun t ht => ?_
  refine .bind (hg .namedExpression) fun test htest => ?_
  refine .bind (.word _) fun _ _ => ?_
  refine .bind (hg .block) fun body hbody => ?_
  refine .bind (elseBlock hg) fun otherwise hotherwise => ?_
  exact .pure (.on ht.line (.cons htest (.append hbody hotherwise)))

theorem forLoop (hg : AllFind L g) : Finds L (Node.LinesIn L) (Grammar.forLoop g) := by
  refine .bind .here fun line hline => ?_
  have hrest : ∀ isAsync target, target.LinesIn L → Finds L (Node.LinesIn L) (do
      let source ← g .starExpressions
      let _ ← Reader.required ":"
      let body ← g .block
      let otherwise ← Grammar.elseBlock g
      return .forLoop line isAsync target source body otherwise : Reads Node) := by
    intro isAsync target htarget
    refine .bind (hg .starExpressions) fun source hsource => ?_
    refine .bind (.required _) fun _ _ => ?_
    refine .bind (hg .block) fun body hbody => ?_
    refine .bind (elseBlock hg) fun otherwise hotherwise => ?_
    exact .pure (.on hline (.cons htarget (.cons hsource (.append hbody hotherwise))))
  have hhead : Finds L (Node.LinesIn L) (do
      let _ ← Reader.word "for"
      let target ← g .starTargets
      let _ ← Reader.word "in"
      return target : Reads Node) :=
    enclosed (hg .starTargets) _ _
  refine .orElse (.diagnosed _) (.commit hhead (hrest false) ?_)
  exact .commit (.bind (.word _) fun _ _ => hhead) (hrest true) (.diagnosed _)

/-! ## §3. Blocks with parts of their own. -/

theorem itemEnd : Finds L (fun _ => True) Grammar.itemEnd := .ahead (.oneOf _)

theorem withItem (hg : AllFind L g) : Finds L (Node.LinesIn L) (Grammar.withItem g) := by
  refine .orElse ?_ (.orElse (.diagnosed _) ?_)
  · refine .bind (hg .expression) fun context hcontext => ?_
    refine .bind (.word _) fun _ _ => ?_
    refine .bind (hg .starTarget) fun target htarget => ?_
    exact .bind itemEnd fun _ _ => .pure (.off rfl (.cons hcontext (.one htarget)))
  · exact .bind (hg .expression) fun context hcontext => .pure (.off rfl (.one hcontext))

theorem withBlock (hg : AllFind L g) : Finds L (Node.LinesIn L) (Grammar.withBlock g) := by
  refine .bind .here fun line hline => ?_
  have hitems := (withItem hg).separated (.word ",")
  have hbody : ∀ isAsync items, AllIn L items → Finds L (Node.LinesIn L) (do
      let _ ← Reader.word ":"
      let body ← g .block
      return .withBlock line isAsync items body : Reads Node) := by
    intro isAsync items hitems
    refine .bind (.word _) fun _ _ => ?_
    exact .bind (hg .block) fun body hbody => .pure (.on hline (.append hitems hbody))
  have hbracketed : ∀ isAsync, Finds L (Node.LinesIn L) (do
      let _ ← Reader.word "with"
      let _ ← Reader.word "("
      let items ← Reader.separated (Grammar.withItem g) (Reader.word ",")
      let _ ← Reader.perhaps (Reader.word ",")
      let _ ← Reader.word ")"
      let _ ← Reader.word ":"
      let body ← g .block
      return .withBlock line isAsync items body : Reads Node) := by
    intro isAsync
    refine .bind (.word _) fun _ _ => ?_
    refine .bind (.word _) fun _ _ => ?_
    refine .bind hitems fun items hitems => ?_
    refine .bind (.perhaps (.word _)) fun _ _ => ?_
    exact .bind (.word _) fun _ _ => hbody isAsync items hitems
  have hbare : ∀ isAsync, Finds L (Node.LinesIn L) (do
      let _ ← Reader.word "with"
      let items ← Reader.separated (Grammar.withItem g) (Reader.word ",")
      let _ ← Reader.word ":"
      let body ← g .block
      return .withBlock line isAsync items body : Reads Node) := by
    intro isAsync
    refine .bind (.word _) fun _ _ => ?_
    exact .bind hitems fun items hitems => hbody isAsync items hitems
  refine .orElse (.diagnosed _) (.orElse (hbracketed false) (.orElse (hbare false) ?_))
  refine .orElse (.bind (.word _) fun _ _ => hbracketed true) (.orElse ?_ (.diagnosed _))
  exact .bind (.word _) fun _ _ => hbare true

theorem handler (hg : AllFind L g) : Finds L (Node.LinesIn L) (Grammar.handler g) := by
  refine .orElse (.diagnosed _) (.orElse ?_ (.orElse ?_ (.diagnosed _)))
  · refine .bind (.word _) fun t ht => ?_
    refine .bind (hg .expression) fun type htype => ?_
    refine .bind renamed fun _ _ => ?_
    refine .bind (.word _) fun _ _ => ?_
    exact .bind (hg .block) fun body hbody => .pure (.on ht.line (.cons htype hbody))
  · refine .bind (.word _) fun t ht => ?_
    refine .bind (.word _) fun _ _ => ?_
    exact .bind (hg .block) fun body hbody => .pure (.on ht.line hbody)

theorem starHandler (hg : AllFind L g) : Finds L (Node.LinesIn L) (Grammar.starHandler g) := by
  refine .orElse (.diagnosed _) (.orElse ?_ (.diagnosed _))
  refine .bind (.word _) fun t ht => ?_
  refine .bind (.word _) fun _ _ => ?_
  refine .bind (hg .expression) fun type htype => ?_
  refine .bind renamed fun _ _ => ?_
  refine .bind (.word _) fun _ _ => ?_
  exact .bind (hg .block) fun body hbody => .pure (.on ht.line (.cons htype hbody))

theorem attemptWith (hg : AllFind L g) (isStar : Bool) {handlers : Reads (List Node)}
    (hhandlers : Finds L (AllIn L) handlers) :
    Finds L (Node.LinesIn L) (Grammar.attemptWith g isStar handlers) := by
  refine .bind (.word _) fun t ht => ?_
  refine .bind (.required _) fun _ _ => ?_
  refine .bind (hg .block) fun body hbody => ?_
  refine .bind hhandlers fun hs hhs => ?_
  refine .bind (elseBlock hg) fun otherwise hotherwise => ?_
  refine .bind (.perhaps (wordBlock hg _)) fun final hfinal => ?_
  exact .pure (.on ht.line (.append hbody (.append hhs (.append hotherwise (.getD hfinal)))))

theorem attempt (hg : AllFind L g) : Finds L (Node.LinesIn L) (Grammar.attempt g) := by
  refine .orElse (.diagnosed _) (.orElse ?_ (.orElse ?_ ?_))
  · refine .bind (.word _) fun t ht => ?_
    refine .bind (.required _) fun _ _ => ?_
    refine .bind (hg .block) fun body hbody => ?_
    refine .bind (wordBlock hg _) fun final hfinal => ?_
    exact .pure (.on ht.line (.append hbody hfinal))
  · exact attemptWith hg false (.many1 (handler hg))
  · exact attemptWith hg true (.many1 (starHandler hg))

theorem subject (hg : AllFind L g) : Finds L (Node.LinesIn L) (Grammar.subject g) := by
  refine .orElse ?_ (hg .namedExpression)
  refine .bind .here fun line hline => ?_
  refine .bind (hg .starNamedExpression) fun first hfirst => ?_
  refine .bind (.word _) fun _ _ => ?_
  refine .bind (.perhaps (starNamedExpressions hg)) fun rest hrest => ?_
  exact .pure (.on hline (.cons hfirst (.getD hrest)))

theorem guardCondition (hg : AllFind L g) :
    Finds L (Node.LinesIn L) (Grammar.guardCondition g) :=
  .bind (.word _) fun _ _ => hg .namedExpression

theorem matchCase (hg : AllFind L g) : Finds L (Node.LinesIn L) (Grammar.matchCase g) := by
  refine .orElse (.diagnosed _) ?_
  refine .bind (.soft _) fun _ _ => ?_
  refine .bind (patterns hg) fun p hp => ?_
  refine .bind (.perhaps (guardCondition hg)) fun condition hcondition => ?_
  refine .bind (.word _) fun _ _ => ?_
  refine .bind (hg .block) fun body hbody => ?_
  exact .pure (.off rfl (.cons hp (.append (.option hcondition) hbody)))

theorem matching (hg : AllFind L g) : Finds L (Node.LinesIn L) (Grammar.matching g) := by
  refine .orElse ?_ (.diagnosed _)
  refine .bind (.soft _) fun t ht => ?_
  refine .bind (subject hg) fun s hs => ?_
  refine .bind (.word _) fun _ _ => ?_
  refine .bind (.kind _) fun _ _ => ?_
  refine .bind (.kind _) fun _ _ => ?_
  refine .bind (.many1 (matchCase hg)) fun cases hcases => ?_
  exact .bind (.kind _) fun _ _ => .pure (.on ht.line (.cons hs hcases))

/-! ## §4. Definitions. -/

theorem decorators (hg : AllFind L g) : Finds L (AllIn L) (Grammar.decorators g) := by
  refine .many1 ?_
  refine .bind (.word _) fun _ _ => ?_
  refine .bind (hg .namedExpression) fun e he => ?_
  exact .bind (.kind _) fun _ _ => .pure he

theorem functionCore (hg : AllFind L g) {decorators : List Node} (hdecorators : AllIn L decorators) :
    Finds L (Node.LinesIn L) (Grammar.functionCore g decorators) := by
  have hcore : ∀ line isAsync, L line → Finds L (Node.LinesIn L) (do
      let _ ← Reader.word "def"
      let name ← Grammar.nameText
      let _ ← Reader.required "("
      let parameters ← Grammar.parametersOrNone g .definition
      let _ ← Reader.word ")"
      let returns ← Reader.perhaps (do let _ ← Reader.word "->"; g .expression)
      let _ ← Reader.required ":"
      let body ← g .block
      let last ← Reader.endLine
      return .function line last isAsync name parameters body decorators returns : Reads Node) := by
    intro line isAsync hline
    refine .bind (.word _) fun _ _ => ?_
    refine .bind .nameText fun name _ => ?_
    refine .bind (.required _) fun _ _ => ?_
    refine .bind (parametersOrNone hg .definition) fun parameters hparameters => ?_
    refine .bind (.word _) fun _ _ => ?_
    refine .bind (.perhaps (.bind (.word _) fun _ _ => hg .expression)) fun returns hreturns => ?_
    refine .bind (.required _) fun _ _ => ?_
    refine .bind (hg .block) fun body hbody => ?_
    refine .bind .endLine fun last _ => ?_
    exact .pure (.on hline (.cons hparameters
      (.append hbody (.append hdecorators (.option hreturns)))))
  refine .orElse (.diagnosed _) (.orElse ?_ ?_)
  · exact .bind .here fun line hline => hcore line false hline
  · exact .bind (.word _) fun t ht => hcore t.line true ht.line

theorem classArguments (hg : AllFind L g) :
    Finds L (ArgumentsIn L) (Grammar.classArguments g) := by
  have hbrackets : Finds L (fun o : Option Arguments => ∀ a ∈ o, ArgumentsIn L a) (do
      let _ ← Reader.word "("
      let a ← Reader.perhaps (g .arguments)
      let _ ← Reader.word ")"
      return a) :=
    .bind (.word _) fun _ _ => .bind (.perhaps (hg .arguments)) fun _ ha =>
      .bind (.word _) fun _ _ => .pure ha
  refine .bind (.perhaps hbrackets) fun a ha => ?_
  cases a with
  | none => exact .pure ⟨.nil, .nil⟩
  | some o =>
      cases o with
      | none => exact .pure ⟨.nil, .nil⟩
      | some a => exact .pure (ha (some a) rfl a rfl)

theorem classCore (hg : AllFind L g) {decorators : List Node} (hdecorators : AllIn L decorators) :
    Finds L (Node.LinesIn L) (Grammar.classCore g decorators) := by
  refine .orElse (.diagnosed _) ?_
  refine .bind (.word _) fun t ht => ?_
  refine .bind .nameText fun name _ => ?_
  refine .bind (classArguments hg) fun a ha => ?_
  refine .bind (.word _) fun _ _ => ?_
  refine .bind (hg .block) fun body hbody => ?_
  exact .pure (.on ht.line (.append ha.1 (.append ha.2 (.append hbody hdecorators))))

theorem decorated (hg : AllFind L g) {core : List Node → Reads Node}
    (hcore : ∀ d, AllIn L d → Finds L (Node.LinesIn L) (core d)) :
    Finds L (Node.LinesIn L) (Grammar.decorated g core) :=
  .orElse (.bind (decorators hg) hcore) (hcore [] .nil)

/-! ## §5. Blocks and files. -/

theorem compoundStatement (hg : AllFind L g) :
    Finds L (Node.LinesIn L) (Grammar.compoundStatement g) := by
  refine .bind .look fun t _ => ?_
  refine .orElse (.ite (decorated hg fun _ => functionCore hg) .miss) ?_
  refine .orElse (.ite (branch hg _) .miss) ?_
  refine .orElse (.ite (decorated hg fun _ => classCore hg) .miss) ?_
  refine .orElse (.ite (withBlock hg) .miss) (.orElse (.ite (forLoop hg) .miss) ?_)
  refine .orElse (.ite (attempt hg) .miss) (.orElse (.ite (whileLoop hg) .miss) ?_)
  exact matching hg

theorem statements (hg : AllFind L g) : Finds L (AllIn L) (Grammar.statements g) := by
  have hone : Finds L (AllIn L) (do return [← Grammar.compoundStatement g]) :=
    .bind (compoundStatement hg) fun _ hn => .pure (.one hn)
  refine .bind (.many1 (.orElse hone (simpleStatements hg))) fun parts hparts => ?_
  refine .pure fun n hn => ?_
  obtain ⟨part, hpart, hn⟩ := List.mem_flatten.mp hn
  exact hparts part hpart n hn

theorem block (hg : AllFind L g) : Finds L (AllIn L) (Grammar.block g) := by
  refine .orElse ?_ (.orElse (simpleStatements hg) (.diagnosed _))
  refine .bind (.kind _) fun _ _ => ?_
  refine .bind (.kind _) fun _ _ => ?_
  refine .bind (statements hg) fun body hbody => ?_
  exact .bind (.kind _) fun _ _ => .pure hbody

theorem file (hg : AllFind L g) : Finds L (Node.LinesIn L) (Grammar.file g) := by
  refine .bind (.perhaps (statements hg)) fun body hbody => ?_
  exact .bind (.kind _) fun _ _ => .pure (.off rfl (.getD hbody))

end CodeAudit.Source.Grammar.Finds
