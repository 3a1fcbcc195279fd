/-
  CodeAudit.Proofs.Source.Patterns
  ────────────────────────────────
  **PARAMETERS AND PATTERNS ON ALLOWED LINES.**

  The rules of parameters and of patterns, one theorem for each, as for
  expressions.  What is read in pieces has a property of its own:
  `ParameterIn` for a parameter with its default value, and `StarredIn` for
  what stands behind a star.
-/
import CodeAudit.Proofs.Source.Expressions
import CodeAudit.Source.Grammar.Parameters
import CodeAudit.Source.Grammar.Patterns

namespace CodeAudit.Source.Grammar.Finds

open Reader

variable {L : Nat → Prop} {g : Rules}

/-! ## §1. Parameters. -/

/-- A parameter and its default value are on allowed lines. -/
def ParameterIn (L : Nat → Prop) (p : Parameter) : Prop :=
  p.1.LinesIn L ∧ ∀ n ∈ p.2, n.LinesIn L

theorem allIn_names {ps : List Parameter} (h : ∀ p ∈ ps, ParameterIn L p) :
    AllIn L (ps.map (·.1)) := by
  intro n hn
  obtain ⟨p, hp, rfl⟩ := List.mem_map.mp hn
  exact (h p hp).1

theorem allIn_defaults {ps : List Parameter} (h : ∀ p ∈ ps, ParameterIn L p) :
    AllIn L (ps.filterMap (·.2)) := by
  intro n hn
  obtain ⟨p, hp, hn⟩ := List.mem_filterMap.mp hn
  exact (h p hp).2 n hn

theorem parameterIn_append {a b : List Parameter} (ha : ∀ p ∈ a, ParameterIn L p)
    (hb : ∀ p ∈ b, ParameterIn L p) : ∀ p ∈ a ++ b, ParameterIn L p := by
  intro p hp
  rcases List.mem_append.mp hp with hp | hp
  · exact ha p hp
  · exact hb p hp

theorem bareParameter (hg : AllFind L g) (form : Form) :
    Finds L (Node.LinesIn L) (Grammar.bareParameter g form) := by
  refine .bind (.kind .name) fun t ht => ?_
  have hbuild : ∀ hint : Option Node, (∀ n ∈ hint, n.LinesIn L) →
      Finds L (Node.LinesIn L) (Pure.pure (.parameter t.line t.text hint)) :=
    fun _ hin => .pure (.on ht.1.line (.option hin))
  refine .ite ?_ ?_
  · exact .bind (.perhaps (.bind (.word _) fun _ _ => hg .expression)) hbuild
  · exact .bind (.pure forall_mem_none) hbuild

theorem parameterEnd (form : Form) : Finds L (fun _ => True) (Grammar.parameterEnd form) :=
  .orElse (.bind (.word _) fun _ _ => .pure trivial) (.ahead (.word _))

theorem defaultValue (hg : AllFind L g) : Finds L (Node.LinesIn L) (Grammar.defaultValue g) :=
  .orElse (.bind (.word _) fun _ _ => hg .expression) (.diagnosed _)

theorem parameterPlain (hg : AllFind L g) (form : Form) :
    Finds L (ParameterIn L) (Grammar.parameterPlain g form) := by
  refine .bind (bareParameter hg form) fun p hp => ?_
  refine .bind (parameterEnd form) fun _ _ => ?_
  exact .pure ⟨hp, forall_mem_none⟩

theorem parameterDefault (hg : AllFind L g) (form : Form) :
    Finds L (ParameterIn L) (Grammar.parameterDefault g form) := by
  refine .bind (bareParameter hg form) fun p hp => ?_
  refine .bind (defaultValue hg) fun d hd => ?_
  refine .bind (parameterEnd form) fun _ _ => ?_
  exact .pure ⟨hp, forall_mem_some hd⟩

theorem parameterEither (hg : AllFind L g) (form : Form) :
    Finds L (ParameterIn L) (Grammar.parameterEither g form) := by
  refine .bind (bareParameter hg form) fun p hp => ?_
  refine .bind (.perhaps (defaultValue hg)) fun d hd => ?_
  exact .bind (parameterEnd form) fun _ _ => .pure ⟨hp, hd⟩

/-- The parameters from the first star on are on allowed lines. -/
structure StarredIn (L : Nat → Prop) (s : Starred) : Prop where
  rest : ∀ n ∈ s.rest, n.LinesIn L
  keywordOnly : ∀ p ∈ s.keywordOnly, ParameterIn L p
  keywords : ∀ n ∈ s.keywords, n.LinesIn L

theorem keywordsParameter (hg : AllFind L g) (form : Form) :
    Finds L (Node.LinesIn L) (Grammar.keywordsParameter g form) := by
  refine .orElse (.diagnosed _) ?_
  refine .bind (.word _) fun _ _ => ?_
  exact .bind (parameterPlain hg form) fun p hp => .pure hp.1

theorem parameterStarHint (hg : AllFind L g) (form : Form) :
    Finds L (ParameterIn L) (Grammar.parameterStarHint g form) := by
  refine .bind (.kind .name) fun t ht => ?_
  refine .bind (.word _) fun _ _ => ?_
  refine .bind (hg .starExpression) fun hint hhint => ?_
  refine .bind (parameterEnd form) fun _ _ => ?_
  exact .pure ⟨.on ht.1.line (.one hhint), forall_mem_none⟩

/-- A starred parameter and what follows it. -/
theorem starredRest (hg : AllFind L g) (form : Form) {first : Reads Parameter}
    (hfirst : Finds L (ParameterIn L) first) :
    Finds L (StarredIn L) (do
      let _ ← Reader.word "*"
      let rest ← first
      let only ← Reader.many (Grammar.parameterEither g form)
      let keywords ← Reader.perhaps (Grammar.keywordsParameter g form)
      return ⟨some rest.1, only, keywords⟩ : Reads Starred) := by
  refine .bind (.word _) fun _ _ => ?_
  refine .bind hfirst fun rest hrest => ?_
  refine .bind (.many (parameterEither hg form)) fun only honly => ?_
  refine .bind (.perhaps (keywordsParameter hg form)) fun keywords hkeywords => ?_
  exact .pure ⟨forall_mem_some hrest.1, honly, hkeywords⟩

theorem starred (hg : AllFind L g) (form : Form) :
    Finds L (StarredIn L) (Grammar.starred g form) := by
  refine .orElse (.diagnosed _) (.orElse (starredRest hg form (parameterPlain hg form)) ?_)
  refine .orElse (.ite (starredRest hg form (parameterStarHint hg form)) .miss) ?_
  refine .orElse ?_ ?_
  · refine .bind (.word _) fun _ _ => ?_
    refine .bind (.word _) fun _ _ => ?_
    refine .bind (.many1 (parameterEither hg form)) fun only honly => ?_
    refine .bind (.perhaps (keywordsParameter hg form)) fun keywords hkeywords => ?_
    exact .pure ⟨forall_mem_none, honly, hkeywords⟩
  · refine .bind (keywordsParameter hg form) fun keywords hkeywords => ?_
    exact .pure ⟨forall_mem_none, List.forall_mem_nil _, forall_mem_some hkeywords⟩

/-- The parameters of a function as one node. -/
theorem linesIn_signature {positionalOnly regular : List Parameter} {star : Option Starred}
    (hpositional : ∀ p ∈ positionalOnly, ParameterIn L p) (hregular : ∀ p ∈ regular, ParameterIn L p)
    (hstar : ∀ s ∈ star, StarredIn L s) : (signature positionalOnly regular star).LinesIn L := by
  have h : StarredIn L (star.getD ⟨none, [], none⟩) := by
    cases star with
    | none => exact ⟨forall_mem_none, List.forall_mem_nil _, forall_mem_none⟩
    | some s => exact hstar s rfl
  refine .off rfl ?_
  refine .append (allIn_names hpositional) (.append (allIn_names hregular) ?_)
  refine .append (.option h.rest) ?_
  refine .append (allIn_names h.keywordOnly) (.append (allIn_defaults h.keywordOnly) ?_)
  exact .append (.option h.keywords) (allIn_defaults (parameterIn_append hpositional hregular))

theorem slash (form : Form) : Finds L (fun _ => True) (Grammar.slash form) :=
  .bind (.word _) fun _ _ => parameterEnd form

theorem slashPlain (hg : AllFind L g) (form : Form) :
    Finds L (fun ps => ∀ p ∈ ps, ParameterIn L p) (Grammar.slashPlain g form) := by
  refine .bind (.many1 (parameterPlain hg form)) fun a ha => ?_
  exact .bind (slash form) fun _ _ => .pure ha

theorem slashDefault (hg : AllFind L g) (form : Form) :
    Finds L (fun ps => ∀ p ∈ ps, ParameterIn L p) (Grammar.slashDefault g form) := by
  refine .bind (.many (parameterPlain hg form)) fun a ha => ?_
  refine .bind (.many1 (parameterDefault hg form)) fun b hb => ?_
  exact .bind (slash form) fun _ _ => .pure (parameterIn_append ha hb)

theorem parameters (hg : AllFind L g) (form : Form) :
    Finds L (Node.LinesIn L) (Grammar.parameters g form) := by
  have hnone : ∀ p ∈ ([] : List Parameter), ParameterIn L p := List.forall_mem_nil _
  refine .orElse (.diagnosed _) (.orElse ?_ (.orElse ?_ (.orElse ?_ (.orElse ?_ ?_))))
  · refine .bind (slashPlain hg form) fun a ha => ?_
    refine .bind (.many (parameterPlain hg form)) fun b hb => ?_
    refine .bind (.many (parameterDefault hg form)) fun c hc => ?_
    refine .bind (.perhaps (starred hg form)) fun d hd => ?_
    exact .pure (linesIn_signature ha (parameterIn_append hb hc) hd)
  · refine .bind (slashDefault hg form) fun a ha => ?_
    refine .bind (.many (parameterDefault hg form)) fun b hb => ?_
    refine .bind (.perhaps (starred hg form)) fun c hc => ?_
    exact .pure (linesIn_signature ha hb hc)
  · refine .bind (.many1 (parameterPlain hg form)) fun a ha => ?_
    refine .bind (.many (parameterDefault hg form)) fun b hb => ?_
    refine .bind (.perhaps (starred hg form)) fun c hc => ?_
    exact .pure (linesIn_signature hnone (parameterIn_append ha hb) hc)
  · refine .bind (.many1 (parameterDefault hg form)) fun a ha => ?_
    refine .bind (.perhaps (starred hg form)) fun b hb => ?_
    exact .pure (linesIn_signature hnone ha hb)
  · refine .bind (starred hg form) fun a ha => ?_
    exact .pure (linesIn_signature hnone hnone (forall_mem_some ha))

theorem parametersOrNone (hg : AllFind L g) (form : Form) :
    Finds L (Node.LinesIn L) (Grammar.parametersOrNone g form) := by
  refine .bind (.perhaps (parameters hg form)) fun p hp => ?_
  cases p with
  | none =>
      exact .pure (linesIn_signature (List.forall_mem_nil _) (List.forall_mem_nil _) forall_mem_none)
  | some n => exact .pure (hp n rfl)

theorem lambda (hg : AllFind L g) : Finds L (Node.LinesIn L) (Grammar.lambda g) := by
  refine .bind .here fun line hline => ?_
  refine .bind (.word _) fun _ _ => ?_
  refine .bind (parametersOrNone hg .lambda) fun parameters hparameters => ?_
  refine .bind (.required _) fun _ _ => ?_
  refine .bind (hg .expression) fun body hbody => ?_
  exact .pure (.on hline (.cons hparameters (.one hbody)))

/-! ## §2. Patterns. -/

theorem numberThatIs (imaginary : Bool) :
    Finds L (Node.LinesIn L) (Grammar.numberThatIs imaginary) := by
  refine .bind .look fun t _ => ?_
  refine .bind number fun n hn => ?_
  exact .ite (.pure hn) (.mistake _)

theorem signed {number : Reads Node} (h : Finds L (Node.LinesIn L) number) :
    Finds L (Node.LinesIn L) (Grammar.signed number) := by
  refine .orElse h ?_
  refine .bind .here fun line hline => ?_
  refine .bind (.word _) fun _ _ => ?_
  exact .bind h fun n hn => .pure (.on hline (.one hn))

theorem complexNumber : Finds L (Node.LinesIn L) Grammar.complexNumber := by
  refine .bind .here fun line hline => ?_
  refine .bind (signed (numberThatIs false)) fun left hleft => ?_
  refine .bind (.oneOf _) fun _ _ => ?_
  refine .bind (numberThatIs true) fun right hright => ?_
  exact .pure (.on hline (.cons hleft (.one hright)))

theorem literalValue (hg : AllFind L g) : Finds L (Node.LinesIn L) (Grammar.literalValue g) := by
  refine .orElse ?_ (.orElse complexNumber (hg .literals))
  refine .bind (signed number) fun n hn => ?_
  exact .bind (.notAhead (.oneOf _)) fun _ _ => .pure hn

theorem wordValue : Finds L (Node.LinesIn L) Grammar.wordValue :=
  .bind (.oneOf _) fun _ ht => .pure (.on ht.line .nil)

/-- The names behind the first one of a dotted name. -/
theorem linesIn_attributes {line : Nat} (hline : L line) {first : Node} (hfirst : first.LinesIn L)
    (names : List String) :
    (names.foldl (fun value name => .attr line value name) first).LinesIn L := by
  induction names generalizing first with
  | nil => exact hfirst
  | cons name rest ih => exact ih (keepsIn_attr hline name first hfirst)

theorem nameOrDotted : Finds L (Node.LinesIn L) Grammar.nameOrDotted := by
  refine .bind .here fun line hline => ?_
  refine .bind .ident fun first hfirst => ?_
  refine .bind (.many (.bind (.word _) fun _ _ => .nameText)) fun rest _ => ?_
  exact .pure (linesIn_attributes hline hfirst rest)

theorem dotted : Finds L (Node.LinesIn L) Grammar.dotted := by
  refine .bind .here fun line hline => ?_
  refine .bind .ident fun first hfirst => ?_
  refine .bind (.many1 (.bind (.word _) fun _ _ => .nameText)) fun rest _ => ?_
  exact .pure (linesIn_attributes hline hfirst rest)

theorem nameGoesOn : Finds L (fun _ => True) Grammar.nameGoesOn := .ahead (.oneOf _)

theorem captured : Finds L (Node.LinesIn L) Grammar.captured := by
  refine .bind (.notAhead (.soft _)) fun _ _ => ?_
  refine .bind (.kind .name) fun t ht => ?_
  exact .bind (.notAhead nameGoesOn) fun _ _ => .pure (.on ht.1.line .nil)

/-- The name that captures nothing. -/
theorem wildcard : Finds L (Node.LinesIn L) (do
    let t ← Reader.soft "_"
    return .matchLeaf t.line) :=
  .bind (.soft _) fun _ ht => .pure (.on ht.line .nil)

theorem starPattern : Finds L (Node.LinesIn L) Grammar.starPattern := by
  refine .bind .here fun line hline => ?_
  refine .bind (.word _) fun _ _ => ?_
  exact .bind (.orElse captured wildcard) fun _ _ => .pure (.on hline .nil)

theorem sequencePatterns (hg : AllFind L g) : Finds L (AllIn L) (Grammar.sequencePatterns g) :=
  listed (.orElse (hg .starPattern) (hg .pattern))

theorem openSequence (hg : AllFind L g) : Finds L (AllIn L) (Grammar.openSequence g) := by
  refine .bind (.orElse (hg .starPattern) (hg .pattern)) fun first hfirst => ?_
  refine .bind (.word _) fun _ _ => ?_
  refine .bind (.perhaps (sequencePatterns hg)) fun rest hrest => ?_
  exact .pure (.cons hfirst (.getD hrest))

theorem sequencePattern (hg : AllFind L g) :
    Finds L (Node.LinesIn L) (Grammar.sequencePattern g) := by
  refine .orElse ?_ ?_
  · exact bracketed .matchSequence (sequencePatterns hg) (fun _ _ hline hns => .on hline hns) _ _
  · exact bracketed .matchSequence (openSequence hg) (fun _ _ hline hns => .on hline hns) _ _

theorem pairPattern (hg : AllFind L g) :
    Finds L (fun q : Node × Node => q.1.LinesIn L ∧ q.2.LinesIn L) (Grammar.pairPattern g) := by
  refine .bind (.orElse (literalValue hg) (.orElse wordValue dotted)) fun key hkey => ?_
  refine .bind (.word _) fun _ _ => ?_
  exact .bind (hg .pattern) fun p hp => .pure ⟨hkey, hp⟩

theorem restPattern : Finds L (fun _ => True) Grammar.restPattern := by
  refine .bind (.word _) fun _ _ => ?_
  exact .bind captured fun _ _ => .pure trivial

/-- A last comma, if there is one, and the closing bracket. -/
theorem closes (closing : String) : Finds L (fun _ => True) (do
    let _ ← Reader.perhaps (Reader.word ",")
    let _ ← Reader.word closing
    return () : Reads Unit) := by
  refine .bind (.perhaps (.word _)) fun _ _ => ?_
  exact .bind (.word _) fun _ _ => .pure trivial

theorem mappingPattern (hg : AllFind L g) :
    Finds L (Node.LinesIn L) (Grammar.mappingPattern g) := by
  refine .bind .here fun line hline => ?_
  have hpairs := (pairPattern hg).separated (.word ",")
  have hbuild : ∀ items : List (Node × Node), (∀ q ∈ items, q.1.LinesIn L ∧ q.2.LinesIn L) →
      (Node.matchMapping line (items.map (·.1)) (items.map (·.2))).LinesIn L := by
    intro items h
    refine .on hline (.append ?_ ?_)
    · intro n hn
      obtain ⟨q, hq, rfl⟩ := List.mem_map.mp hn
      exact (h q hq).1
    · intro n hn
      obtain ⟨q, hq, rfl⟩ := List.mem_map.mp hn
      exact (h q hq).2
  have hempty := hbuild [] (List.forall_mem_nil _)
  refine .orElse ?_ (.orElse ?_ (.orElse ?_ ?_))
  · refine .bind (.word _) fun _ _ => ?_
    exact .bind (.word _) fun _ _ => .pure hempty
  · refine .bind (.word _) fun _ _ => ?_
    refine .bind restPattern fun _ _ => ?_
    exact .bind (closes _) fun _ _ => .pure hempty
  · refine .bind (.word _) fun _ _ => ?_
    refine .bind hpairs fun items hitems => ?_
    refine .bind (.word _) fun _ _ => ?_
    refine .bind restPattern fun _ _ => ?_
    exact .bind (closes _) fun _ _ => .pure (hbuild items hitems)
  · refine .bind (.word _) fun _ _ => ?_
    refine .bind hpairs fun items hitems => ?_
    exact .bind (closes _) fun _ _ => .pure (hbuild items hitems)

theorem keywordPattern (hg : AllFind L g) :
    Finds L (Node.LinesIn L) (Grammar.keywordPattern g) := by
  refine .bind (.kind .name) fun _ _ => ?_
  exact .bind (.word _) fun _ _ => hg .pattern

theorem classPattern (hg : AllFind L g) :
    Finds L (Node.LinesIn L) (Grammar.classPattern g) := by
  refine .bind .here fun line hline => ?_
  have hpositional := Finds.separated (hg .pattern) (.word ",")
  have hkeywords := (keywordPattern hg).separated (.word ",")
  have hbuild : ∀ {type : Node} {a b : List Node}, type.LinesIn L → AllIn L a → AllIn L b →
      (Node.matchClass line type a b).LinesIn L :=
    fun htype ha hb => .on hline (.cons htype (.append ha hb))
  refine .orElse ?_ (.orElse ?_ (.orElse ?_ (.orElse ?_ (.diagnosed _))))
  · refine .bind nameOrDotted fun type htype => ?_
    refine .bind (.word _) fun _ _ => ?_
    exact .bind (.word _) fun _ _ => .pure (hbuild htype .nil .nil)
  · refine .bind nameOrDotted fun type htype => ?_
    refine .bind (.word _) fun _ _ => ?_
    refine .bind hpositional fun a ha => ?_
    exact .bind (closes _) fun _ _ => .pure (hbuild htype ha .nil)
  · refine .bind nameOrDotted fun type htype => ?_
    refine .bind (.word _) fun _ _ => ?_
    refine .bind hkeywords fun b hb => ?_
    exact .bind (closes _) fun _ _ => .pure (hbuild htype .nil hb)
  · refine .bind nameOrDotted fun type htype => ?_
    refine .bind (.word _) fun _ _ => ?_
    refine .bind hpositional fun a ha => ?_
    refine .bind (.word _) fun _ _ => ?_
    refine .bind hkeywords fun b hb => ?_
    exact .bind (closes _) fun _ _ => .pure (hbuild htype ha hb)

theorem closedPattern (hg : AllFind L g) :
    Finds L (Node.LinesIn L) (Grammar.closedPattern g) := by
  refine .orElse ?_ (.orElse captured (.orElse wildcard (.orElse ?_ ?_)))
  · refine .bind .here fun line hline => ?_
    refine .orElse ?_ ?_
    · exact .bind (literalValue hg) fun value hvalue => .pure (.on hline (.one hvalue))
    · exact .bind wordValue fun _ _ => .pure (.on hline .nil)
  · refine .bind .here fun line hline => ?_
    refine .bind dotted fun value hvalue => ?_
    exact .bind (.notAhead nameGoesOn) fun _ _ => .pure (.on hline (.one hvalue))
  · refine .orElse (enclosed (hg .pattern) _ _) (.orElse (sequencePattern hg) ?_)
    exact .orElse (mappingPattern hg) (classPattern hg)

theorem orPattern (hg : AllFind L g) : Finds L (Node.LinesIn L) (Grammar.orPattern g) := by
  refine .bind .here fun line hline => ?_
  refine .bind (.separated (hg .closedPattern) (.word _)) fun items hitems => ?_
  split
  · exact .pure (hitems _ List.mem_cons_self)
  · exact .pure (.on hline hitems)

theorem pattern (hg : AllFind L g) : Finds L (Node.LinesIn L) (Grammar.pattern g) := by
  refine .orElse ?_ (.orElse (.diagnosed _) (orPattern hg))
  refine .bind .here fun line hline => ?_
  refine .bind (orPattern hg) fun p hp => ?_
  refine .bind (.word _) fun _ _ => ?_
  exact .bind captured fun _ _ => .pure (.on hline (.one hp))

theorem patterns (hg : AllFind L g) : Finds L (Node.LinesIn L) (Grammar.patterns g) := by
  refine .orElse ?_ (hg .pattern)
  refine .bind .here fun line hline => ?_
  exact .bind (openSequence hg) fun items hitems => .pure (.on hline hitems)

end CodeAudit.Source.Grammar.Finds
