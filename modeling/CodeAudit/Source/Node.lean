/-
  CodeAudit.Source.Node
  ─────────────────────
  **THE TREE OF A PYTHON MODULE.**

  One type holds every construct: statements, expressions, patterns and the
  small parts between them.  Nothing below depends on which is which except
  through `Node.children`, the parts of a construct in the order in which
  every traversal of this library visits them.

  The tree keeps what the analyses look at.  Operators, import lists and the
  values of numbers are not in it.

      c ∈ n.children  →  sizeOf c < sizeOf n
-/
import CodeAudit.Text.Wording

namespace CodeAudit.Source

/-! ## §1. Nodes. -/

/-- The value of a literal, as far as it is kept. -/
inductive Constant where
  /-- A text without interpolation. -/
  | text (w : Text.Wording)
  /-- Bytes. -/
  | bytes
  /-- A number. -/
  | number
  /-- One of the words `True`, `False`, `None`, or three points. -/
  | word
  deriving DecidableEq, Repr

/-- What a comprehension builds. -/
inductive Builds where
  | list
  | set
  | generator
  deriving DecidableEq, Repr

/-- A construct of the language.  A `line` is the line of its first token. -/
inductive Node where
  /-- A whole file. -/
  | module (body : List Node)
  /-- `def`, from the line of `def` to the line of its last token. -/
  | function (line endLine : Nat) (isAsync : Bool) (name : String) (parameters : Node)
      (body decorators : List Node) (returns : Option Node)
  /-- `class`. -/
  | classDef (line : Nat) (name : String) (bases keywords body decorators : List Node)
  /-- `return`. -/
  | returning (line : Nat) (value : Option Node)
  /-- `del`. -/
  | deletion (line : Nat) (targets : List Node)
  /-- `a = b = value`. -/
  | assign (line : Nat) (targets : List Node) (value : Node)
  /-- `target += value` and its like. -/
  | augmented (line : Nat) (target value : Node)
  /-- `target : hint = value`. -/
  | annotated (line : Nat) (target hint : Node) (value : Option Node)
  /-- `for`. -/
  | forLoop (line : Nat) (isAsync : Bool) (target source : Node) (body otherwise : List Node)
  /-- `while`. -/
  | whileLoop (line : Nat) (test : Node) (body otherwise : List Node)
  /-- `if`; an `elif` is an `if` alone in `otherwise`. -/
  | branch (line : Nat) (test : Node) (body otherwise : List Node)
  /-- `with`. -/
  | withBlock (line : Nat) (isAsync : Bool) (items body : List Node)
  /-- An item of `with`: `context as target`. -/
  | withItem (context : Node) (target : Option Node)
  /-- `match`. -/
  | matching (line : Nat) (subject : Node) (cases : List Node)
  /-- `case`. -/
  | matchCase (pattern : Node) (guard : Option Node) (body : List Node)
  /-- `raise`. -/
  | raising (line : Nat) (exception cause : Option Node)
  /-- `try`; `isStar` when its handlers are written `except*`. -/
  | attempt (line : Nat) (isStar : Bool) (body handlers otherwise final : List Node)
  /-- `except`. -/
  | handler (line : Nat) (type : Option Node) (body : List Node)
  /-- `assert`. -/
  | assertion (line : Nat) (test : Node) (message : Option Node)
  /-- An expression that stands as a statement. -/
  | expression (line : Nat) (value : Node)
  /-- A statement without parts: an import, a declaration of names, `pass`,
  `break`, `continue`. -/
  | plain (line : Nat)
  /-- `a and b and c`, and with `or`. -/
  | boolean (line : Nat) (values : List Node)
  /-- `target := value`. -/
  | named (line : Nat) (target value : Node)
  /-- An operator between two operands. -/
  | binary (line : Nat) (left right : Node)
  /-- An operator before an operand. -/
  | unary (line : Nat) (operand : Node)
  /-- `lambda`. -/
  | lambda (line : Nat) (parameters body : Node)
  /-- `body if test else otherwise`. -/
  | conditional (line : Nat) (test body otherwise : Node)
  /-- A dictionary display; an entry `**d` has a value and no key. -/
  | dict (line : Nat) (keys values : List Node)
  /-- A set display. -/
  | set (line : Nat) (items : List Node)
  /-- A list display, or a target written like one. -/
  | list (line : Nat) (items : List Node)
  /-- A tuple. -/
  | tuple (line : Nat) (items : List Node)
  /-- A list, set or generator comprehension. -/
  | comprehension (line : Nat) (builds : Builds) (element : Node) (clauses : List Node)
  /-- A dictionary comprehension. -/
  | dictComprehension (line : Nat) (key value : Node) (clauses : List Node)
  /-- `for target in source if condition …` of a comprehension. -/
  | clause (target source : Node) (conditions : List Node)
  /-- `await`. -/
  | awaiting (line : Nat) (value : Node)
  /-- `yield`. -/
  | yielding (line : Nat) (value : Option Node)
  /-- `yield from`. -/
  | yieldingFrom (line : Nat) (value : Node)
  /-- A chain of comparisons; `membership` when the first one is `in`. -/
  | comparison (line : Nat) (membership : Bool) (left : Node) (others : List Node)
  /-- A call; starred arguments stand among the positional ones. -/
  | call (line : Nat) (callee : Node) (arguments keywords : List Node)
  /-- `name = value` in a call, or `**value` without a name. -/
  | keyword (name : Option String) (value : Node)
  /-- A field of an interpolated text, with its format. -/
  | slot (line : Nat) (value : Node) (format : Option Node)
  /-- An interpolated text. -/
  | interpolated (line : Nat) (parts : List Node)
  /-- A literal. -/
  | constant (line : Nat) (value : Constant)
  /-- `value.name`. -/
  | attr (line : Nat) (value : Node) (name : String)
  /-- `value[index]`. -/
  | subscript (line : Nat) (value index : Node)
  /-- `*value`. -/
  | starred (line : Nat) (value : Node)
  /-- A name. -/
  | ident (line : Nat) (id : String)
  /-- `lower : upper : step`. -/
  | slice (line : Nat) (lower upper step : Option Node)
  /-- The parameters of a function.  `keywordDefaults` and `defaults` hold
  the default values that are written. -/
  | signature (positionalOnly regular : List Node) (rest : Option Node)
      (keywordOnly keywordDefaults : List Node) (keywords : Option Node) (defaults : List Node)
  /-- A parameter. -/
  | parameter (line : Nat) (name : String) (hint : Option Node)
  /-- A pattern that compares with a value. -/
  | matchValue (line : Nat) (value : Node)
  /-- A pattern without parts: a singleton, a name, a wildcard, `*rest`. -/
  | matchLeaf (line : Nat)
  /-- A sequence pattern. -/
  | matchSequence (line : Nat) (patterns : List Node)
  /-- A mapping pattern. -/
  | matchMapping (line : Nat) (keys patterns : List Node)
  /-- A class pattern. -/
  | matchClass (line : Nat) (type : Node) (patterns keywordPatterns : List Node)
  /-- `pattern as name`. -/
  | matchAs (line : Nat) (pattern : Node)
  /-- Alternatives. -/
  | matchOr (line : Nat) (patterns : List Node)

namespace Node

/-! ## §2. Lines and parts. -/

/-- The line of a construct; zero for the parts that have none of their own. -/
def line : Node → Nat
  | .module _ | .withItem _ _ | .matchCase _ _ _ | .clause _ _ _ | .keyword _ _
  | .signature _ _ _ _ _ _ _ => 0
  | .function l _ _ _ _ _ _ _ | .classDef l _ _ _ _ _ | .returning l _ | .deletion l _
  | .assign l _ _ | .augmented l _ _ | .annotated l _ _ _ | .forLoop l _ _ _ _ _
  | .whileLoop l _ _ _ | .branch l _ _ _ | .withBlock l _ _ _ | .matching l _ _ | .raising l _ _
  | .attempt l _ _ _ _ _ | .handler l _ _ | .assertion l _ _ | .expression l _ | .plain l
  | .boolean l _ | .named l _ _ | .binary l _ _ | .unary l _ | .lambda l _ _
  | .conditional l _ _ _ | .dict l _ _ | .set l _ | .list l _ | .tuple l _
  | .comprehension l _ _ _ | .dictComprehension l _ _ _ | .awaiting l _ | .yielding l _
  | .yieldingFrom l _ | .comparison l _ _ _ | .call l _ _ _ | .slot l _ _ | .interpolated l _
  | .constant l _ | .attr l _ _ | .subscript l _ _ | .starred l _ | .ident l _
  | .slice l _ _ _ | .parameter l _ _ | .matchValue l _ | .matchLeaf l | .matchSequence l _
  | .matchMapping l _ _ | .matchClass l _ _ _ | .matchAs l _ | .matchOr l _ => l

/-- The parts of a construct, in the order of every traversal. -/
def children : Node → List Node
  | .module body => body
  | .function _ _ _ _ parameters body decorators returns =>
      parameters :: (body ++ (decorators ++ returns.toList))
  | .classDef _ _ bases keywords body decorators => bases ++ (keywords ++ (body ++ decorators))
  | .returning _ value => value.toList
  | .deletion _ targets => targets
  | .assign _ targets value => targets ++ [value]
  | .augmented _ target value => [target, value]
  | .annotated _ target hint value => target :: hint :: value.toList
  | .forLoop _ _ target source body otherwise => target :: source :: (body ++ otherwise)
  | .whileLoop _ test body otherwise => test :: (body ++ otherwise)
  | .branch _ test body otherwise => test :: (body ++ otherwise)
  | .withBlock _ _ items body => items ++ body
  | .withItem context target => context :: target.toList
  | .matching _ subject cases => subject :: cases
  | .matchCase pattern guard body => pattern :: (guard.toList ++ body)
  | .raising _ exception cause => exception.toList ++ cause.toList
  | .attempt _ _ body handlers otherwise final => body ++ (handlers ++ (otherwise ++ final))
  | .handler _ type body => type.toList ++ body
  | .assertion _ test message => test :: message.toList
  | .expression _ value => [value]
  | .plain _ => []
  | .boolean _ values => values
  | .named _ target value => [target, value]
  | .binary _ left right => [left, right]
  | .unary _ operand => [operand]
  | .lambda _ parameters body => [parameters, body]
  | .conditional _ test body otherwise => [test, body, otherwise]
  | .dict _ keys values => keys ++ values
  | .set _ items => items
  | .list _ items => items
  | .tuple _ items => items
  | .comprehension _ _ element clauses => element :: clauses
  | .dictComprehension _ key value clauses => key :: value :: clauses
  | .clause target source conditions => target :: source :: conditions
  | .awaiting _ value => [value]
  | .yielding _ value => value.toList
  | .yieldingFrom _ value => [value]
  | .comparison _ _ left others => left :: others
  | .call _ callee arguments keywords => callee :: (arguments ++ keywords)
  | .keyword _ value => [value]
  | .slot _ value format => value :: format.toList
  | .interpolated _ parts => parts
  | .constant _ _ => []
  | .attr _ value _ => [value]
  | .subscript _ value index => [value, index]
  | .starred _ value => [value]
  | .ident _ _ => []
  | .slice _ lower upper step => lower.toList ++ (upper.toList ++ step.toList)
  | .signature positionalOnly regular rest keywordOnly keywordDefaults keywords defaults =>
      positionalOnly ++ (regular ++ (rest.toList ++ (keywordOnly ++ (keywordDefaults
        ++ (keywords.toList ++ defaults)))))
  | .parameter _ _ hint => hint.toList
  | .matchValue _ value => [value]
  | .matchLeaf _ => []
  | .matchSequence _ patterns => patterns
  | .matchMapping _ keys patterns => keys ++ patterns
  | .matchClass _ type patterns keywordPatterns => type :: (patterns ++ keywordPatterns)
  | .matchAs _ pattern => [pattern]
  | .matchOr _ patterns => patterns

/-! ## §3. Parts are smaller. -/

/-- The total size of nodes. -/
noncomputable def weight (nodes : List Node) : Nat := nodes.foldr (sizeOf · + ·) 0

@[simp] theorem weight_nil : weight [] = 0 := rfl

@[simp] theorem weight_cons (n : Node) (rest : List Node) :
    weight (n :: rest) = sizeOf n + weight rest := rfl

@[simp] theorem weight_append (a b : List Node) : weight (a ++ b) = weight a + weight b := by
  induction a with
  | nil => simp only [List.nil_append, weight_nil, Nat.zero_add]
  | cons n rest ih => simp only [List.cons_append, weight_cons, ih, Nat.add_assoc]

/-- A list of nodes weighs less than its size as a list. -/
theorem weight_lt_sizeOf (nodes : List Node) : weight nodes < sizeOf nodes := by
  induction nodes with
  | nil => simp
  | cons n rest ih => simp only [weight_cons, List.cons.sizeOf_spec]; omega

/-- An optional node weighs less than its size. -/
theorem weight_toList_lt_sizeOf (n : Option Node) : weight n.toList < sizeOf n := by
  cases n with
  | none => simp only [Option.toList_none, weight_nil, Option.none.sizeOf_spec]; omega
  | some n =>
      simp only [Option.toList_some, weight_cons, weight_nil, Option.some.sizeOf_spec]; omega

/-- The parts of a construct together weigh less than the construct. -/
theorem weight_children_lt (n : Node) : weight n.children < sizeOf n := by
  have hl := weight_lt_sizeOf
  have ho := weight_toList_lt_sizeOf
  cases n with
  | module body => have := hl body; simp only [children, module.sizeOf_spec]; omega
  | function line endLine isAsync name parameters body decorators returns =>
      have := hl body; have := hl decorators; have := ho returns
      simp only [children, function.sizeOf_spec, weight_cons, weight_append]; omega
  | classDef line name bases keywords body decorators =>
      have := hl bases; have := hl keywords; have := hl body; have := hl decorators
      simp only [children, classDef.sizeOf_spec, weight_append]; omega
  | returning line value => have := ho value; simp only [children, returning.sizeOf_spec]; omega
  | deletion line targets => have := hl targets; simp only [children, deletion.sizeOf_spec]; omega
  | assign line targets value =>
      have := hl targets
      simp only [children, assign.sizeOf_spec, weight_cons, weight_nil, weight_append]; omega
  | augmented line target value =>
      simp only [children, augmented.sizeOf_spec, weight_cons, weight_nil]; omega
  | annotated line target hint value =>
      have := ho value; simp only [children, annotated.sizeOf_spec, weight_cons]; omega
  | forLoop line isAsync target source body otherwise =>
      have := hl body; have := hl otherwise
      simp only [children, forLoop.sizeOf_spec, weight_cons, weight_append]; omega
  | whileLoop line test body otherwise =>
      have := hl body; have := hl otherwise
      simp only [children, whileLoop.sizeOf_spec, weight_cons, weight_append]; omega
  | branch line test body otherwise =>
      have := hl body; have := hl otherwise
      simp only [children, branch.sizeOf_spec, weight_cons, weight_append]; omega
  | withBlock line isAsync items body =>
      have := hl items; have := hl body
      simp only [children, withBlock.sizeOf_spec, weight_append]; omega
  | withItem context target =>
      have := ho target; simp only [children, withItem.sizeOf_spec, weight_cons]; omega
  | matching line subject cases =>
      have := hl cases; simp only [children, matching.sizeOf_spec, weight_cons]; omega
  | matchCase pattern guard body =>
      have := ho guard; have := hl body
      simp only [children, matchCase.sizeOf_spec, weight_cons, weight_append]; omega
  | raising line exception cause =>
      have := ho exception; have := ho cause
      simp only [children, raising.sizeOf_spec, weight_append]; omega
  | attempt line isStar body handlers otherwise final =>
      have := hl body; have := hl handlers; have := hl otherwise; have := hl final
      simp only [children, attempt.sizeOf_spec, weight_append]; omega
  | handler line type body =>
      have := ho type; have := hl body
      simp only [children, handler.sizeOf_spec, weight_append]; omega
  | assertion line test message =>
      have := ho message; simp only [children, assertion.sizeOf_spec, weight_cons]; omega
  | expression line value =>
      simp only [children, expression.sizeOf_spec, weight_cons, weight_nil]; omega
  | plain line => simp only [children, plain.sizeOf_spec, weight_nil]; omega
  | boolean line values => have := hl values; simp only [children, boolean.sizeOf_spec]; omega
  | named line target value =>
      simp only [children, named.sizeOf_spec, weight_cons, weight_nil]; omega
  | binary line left right =>
      simp only [children, binary.sizeOf_spec, weight_cons, weight_nil]; omega
  | unary line operand => simp only [children, unary.sizeOf_spec, weight_cons, weight_nil]; omega
  | lambda line parameters body =>
      simp only [children, lambda.sizeOf_spec, weight_cons, weight_nil]; omega
  | conditional line test body otherwise =>
      simp only [children, conditional.sizeOf_spec, weight_cons, weight_nil]; omega
  | dict line keys values =>
      have := hl keys; have := hl values
      simp only [children, dict.sizeOf_spec, weight_append]; omega
  | set line items => have := hl items; simp only [children, set.sizeOf_spec]; omega
  | list line items => have := hl items; simp only [children, list.sizeOf_spec]; omega
  | tuple line items => have := hl items; simp only [children, tuple.sizeOf_spec]; omega
  | comprehension line builds element clauses =>
      have := hl clauses; simp only [children, comprehension.sizeOf_spec, weight_cons]; omega
  | dictComprehension line key value clauses =>
      have := hl clauses; simp only [children, dictComprehension.sizeOf_spec, weight_cons]; omega
  | clause target source conditions =>
      have := hl conditions; simp only [children, clause.sizeOf_spec, weight_cons]; omega
  | awaiting line value =>
      simp only [children, awaiting.sizeOf_spec, weight_cons, weight_nil]; omega
  | yielding line value => have := ho value; simp only [children, yielding.sizeOf_spec]; omega
  | yieldingFrom line value =>
      simp only [children, yieldingFrom.sizeOf_spec, weight_cons, weight_nil]; omega
  | comparison line membership left others =>
      have := hl others; simp only [children, comparison.sizeOf_spec, weight_cons]; omega
  | call line callee arguments keywords =>
      have := hl arguments; have := hl keywords
      simp only [children, call.sizeOf_spec, weight_cons, weight_append]; omega
  | keyword name value => simp only [children, keyword.sizeOf_spec, weight_cons, weight_nil]; omega
  | slot line value format =>
      have := ho format; simp only [children, slot.sizeOf_spec, weight_cons]; omega
  | interpolated line parts =>
      have := hl parts; simp only [children, interpolated.sizeOf_spec]; omega
  | constant line value =>
      simp only [children, constant.sizeOf_spec, weight_nil]; omega
  | attr line value name => simp only [children, attr.sizeOf_spec, weight_cons, weight_nil]; omega
  | subscript line value index =>
      simp only [children, subscript.sizeOf_spec, weight_cons, weight_nil]; omega
  | starred line value => simp only [children, starred.sizeOf_spec, weight_cons, weight_nil]; omega
  | ident line id => simp only [children, ident.sizeOf_spec, weight_nil]; omega
  | slice line lower upper step =>
      have := ho lower; have := ho upper; have := ho step
      simp only [children, slice.sizeOf_spec, weight_append]; omega
  | signature positionalOnly regular rest keywordOnly keywordDefaults keywords defaults =>
      have := hl positionalOnly; have := hl regular; have := ho rest; have := hl keywordOnly
      have := hl keywordDefaults; have := ho keywords; have := hl defaults
      simp only [children, signature.sizeOf_spec, weight_append]; omega
  | parameter line name hint => have := ho hint; simp only [children, parameter.sizeOf_spec]; omega
  | matchValue line value =>
      simp only [children, matchValue.sizeOf_spec, weight_cons, weight_nil]; omega
  | matchLeaf line => simp only [children, matchLeaf.sizeOf_spec, weight_nil]; omega
  | matchSequence line patterns =>
      have := hl patterns; simp only [children, matchSequence.sizeOf_spec]; omega
  | matchMapping line keys patterns =>
      have := hl keys; have := hl patterns
      simp only [children, matchMapping.sizeOf_spec, weight_append]; omega
  | matchClass line type patterns keywordPatterns =>
      have := hl patterns; have := hl keywordPatterns
      simp only [children, matchClass.sizeOf_spec, weight_cons, weight_append]; omega
  | matchAs line pattern =>
      simp only [children, matchAs.sizeOf_spec, weight_cons, weight_nil]; omega
  | matchOr line patterns => have := hl patterns; simp only [children, matchOr.sizeOf_spec]; omega

/-- A member weighs no more than its list. -/
theorem sizeOf_le_weight {c : Node} {nodes : List Node} (h : c ∈ nodes) :
    sizeOf c ≤ weight nodes := by
  induction nodes with
  | nil => cases h
  | cons n rest ih =>
      rcases List.mem_cons.1 h with rfl | h
      · simp
      · have := ih h; simp; omega

/-- A part is smaller than the construct. -/
theorem sizeOf_lt_of_mem_children {c n : Node} (h : c ∈ n.children) : sizeOf c < sizeOf n :=
  Nat.lt_of_le_of_lt (sizeOf_le_weight h) (weight_children_lt n)

end Node

end CodeAudit.Source
