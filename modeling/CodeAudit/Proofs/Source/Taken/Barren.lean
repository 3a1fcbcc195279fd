/-
  CodeAudit.Proofs.Source.Taken.Barren
  ────────────────────────────────────
  **TOKENS WITH WHICH NOTHING BEGINS.**

  Ordered choice tries an expression or a target in many places where none
  stands: before a reserved word, at a closing bracket, at the end of a line.
  `barren` are the tokens with which no expression begins, and the rules for
  expressions, targets and arguments all miss there, however deep they may
  call each other.
-/
import CodeAudit.Proofs.Source.Remembering

namespace CodeAudit.Source.Grammar

open Reader

/-- The words, operators and brackets with which an expression or an argument begins. -/
def openers : List String :=
  ["(", "[", "\x7b", "True", "False", "None", "...", "not", "await", "+", "-", "~", "lambda", "*",
   "**", "yield"]

/-- No expression begins with the token. -/
def barren (x : Kind × String) : Bool :=
  match x.1 with
  | .fixed => !openers.contains x.2
  | .name | .number | .literal => false
  | .newline | .indent | .dedent | .finish => true

/-- Tokens that a test tells apart. -/
theorem ne_of_test {f : Kind × String → Bool} {x y : Kind × String} (hx : f x = true)
    (hy : f y = false) : x ≠ y := by
  rintro rfl
  rw [hx] at hy
  cases hy

/-- At a place stands a token with which no expression begins. -/
def Barren (ts : Tokens) (i : Nat) : Prop := ∃ x, Shows ts i x ∧ barren x = true

variable {ts : Tokens} {K : Memory → Prop} {i : Nat}

/-! ## §1. Pieces. -/

namespace Barren

theorem takes_here (h : Barren ts i) : Takes ts K here i i := by
  obtain ⟨x, hx, -⟩ := h
  exact hx.takes_here

theorem misses_word (h : Barren ts i) {text : String} (htext : barren (.fixed, text) = false) :
    Misses ts K (word text) i := by
  obtain ⟨x, hx, hbarren⟩ := h
  exact hx.misses_word (ne_of_test hbarren htext)

theorem misses_oneOf (h : Barren ts i) {texts : List String}
    (htexts : ∀ text ∈ texts, barren (.fixed, text) = false) : Misses ts K (oneOf texts) i := by
  obtain ⟨x, hx, hbarren⟩ := h
  exact hx.misses_oneOf fun text hmem => ne_of_test hbarren (htexts text hmem)

theorem misses_kind (h : Barren ts i) {kind : Kind} (hkind : ∀ text, barren (kind, text) = false) :
    Misses ts K (Reader.kind kind) i := by
  obtain ⟨x, hx, hbarren⟩ := h
  refine hx.misses_kind fun heq => ?_
  subst heq
  exact absurd (hkind x.2) (by simpa using hbarren)

theorem misses_ident (h : Barren ts i) : Misses ts K ident i :=
  (h.misses_kind fun _ => rfl).bind _

theorem misses_nameText (h : Barren ts i) : Misses ts K nameText i :=
  (h.misses_kind fun _ => rfl).bind _

/-- Nothing but a name, a number, a literal or an opener is an atom. -/
theorem misses_atom (h : Barren ts i) (g : Rules) (m : AtomMistakes) :
    Misses ts K (atom g m) i := by
  obtain ⟨⟨kind, text⟩, ⟨t, ht, rfl, rfl⟩, hbarren⟩ := h
  refine (gives_look ht).bind_misses fun a ha => ?_
  subst ha
  cases hk : a.kind with
  | fixed =>
      have hne : ∀ text ∈ openers, a.text ≠ text := by
        intro text hmem heq
        simp [barren, hk, heq, hmem] at hbarren
      simp only
      split <;> first
        | exact .miss
        | exact absurd ‹a.text = _› (hne _ (by decide))
  | name => simp [barren, hk] at hbarren
  | number => simp [barren, hk] at hbarren
  | literal => simp [barren, hk] at hbarren
  | newline => exact .miss
  | indent => exact .miss
  | dedent => exact .miss
  | finish => exact .miss

variable {α : Type}

/-- What begins with a line and an opener. -/
theorem misses_hereWord (h : Barren ts i) {text : String} (htext : barren (.fixed, text) = false)
    (f : Nat → Token → Reads α) :
    Misses ts K (do let line ← here; let t ← word text; f line t) i :=
  h.takes_here.bind_misses fun line _ => (h.misses_word htext).bind (f line)

/-- What begins with a line and something that misses. -/
theorem misses_hereThen (h : Barren ts i) {β : Type} {p : Reads β} (hp : Misses ts K p i)
    (f : Nat → β → Reads α) : Misses ts K (do let line ← here; let b ← p; f line b) i :=
  h.takes_here.bind_misses fun line _ => hp.bind (f line)

/-! ## §2. Rules. -/

variable {g : Rules}

theorem misses_starredArgument (h : Barren ts i) : Misses ts K (starredArgument g) i :=
  h.misses_hereWord (by decide) _

theorem misses_assignmentExpression (h : Barren ts i) : Misses ts K (assignmentExpression g) i :=
  h.misses_hereThen h.misses_ident _

/-- A target is a name, or begins with a bracket. -/
theorem misses_starAtom (h : Barren ts i) : Misses ts K (starAtom g) i :=
  h.misses_ident.orElse_misses
    (((h.misses_word (by decide)).bind _).orElse_misses
      ((h.misses_hereWord (by decide) _).orElse_misses (h.misses_hereWord (by decide) _)))

theorem misses_attributeOrItem (h : Barren ts i) (hg : Misses ts K (g .targetPrimary) i) :
    Misses ts K (attributeOrItem g) i :=
  (h.misses_hereThen hg _).orElse_misses (h.misses_hereThen hg _)

/-- No argument begins here either, with a keyword or without. -/
theorem misses_argumentList (h : Barren ts i) (hg : Misses ts K (g .expression) i) :
    Misses ts K (argumentList g) i := by
  have hkeyword : Misses ts K (keywordArgument g) i := h.misses_nameText.bind _
  have hstarred : Misses ts K (keywordOrStarred g) i :=
    (Misses.diagnosed _).orElse_misses (hkeyword.orElse_misses (h.misses_starredArgument.bind _))
  have hmapping : Misses ts K (keywordOrMapping g) i :=
    (Misses.diagnosed _).orElse_misses
      (hkeyword.orElse_misses ((h.misses_word (by decide)).bind _))
  have hpart : Misses ts K (keywordPart g) i :=
    (hstarred.separated.bind _).orElse_misses (hstarred.separated.orElse_misses hmapping.separated)
  have helement : Misses ts K (element g) i :=
    h.misses_assignmentExpression.orElse_misses (hg.bind _)
  have hpositional : Misses ts K (positionalArgument g) i :=
    h.misses_starredArgument.orElse_misses (helement.bind _)
  exact h.takes_here.bind_misses fun _ _ =>
    (hpositional.separated.bind _).orElse_misses (hpart.bind _)

end Barren

/-- The rules that miss at a token with which nothing begins. -/
def silentRules : List Rule :=
  [.expression, .starExpressions, .starExpression, .namedExpression, .starNamedExpression,
   .disjunction, .conjunction, .inversion, .bitOr, .bitXor, .bitAnd, .shift, .sum, .term, .factor,
   .awaitPrimary, .primary, .lambda, .yielding, .arguments, .argumentList, .starTargets,
   .starTarget, .starTargetAtom, .targetPrimary, .singleTarget]

/-- Step: a rule misses if the others do. -/
theorem Barren.misses_define (h : Barren ts i) {g : Rules}
    (hg : ∀ r ∈ silentRules, Misses ts K (g r) i) :
    ∀ r ∈ silentRules, Misses ts K (define g r) i := by
  have hexpression := hg .expression (by decide)
  have hdisjunction := hg .disjunction (by decide)
  have htarget := h.misses_attributeOrItem (hg .targetPrimary (by decide))
  have hatom := h.misses_atom (K := K) g (atomMistakes g)
  have hstar : Misses ts K (starredOperand g) i := h.misses_hereWord (by decide) _
  intro r hr
  simp only [silentRules, List.mem_cons, List.not_mem_nil, or_false] at hr
  rcases hr with rfl | rfl | rfl | rfl | rfl | rfl | rfl | rfl | rfl | rfl | rfl | rfl | rfl | rfl
    | rfl | rfl | rfl | rfl | rfl | rfl | rfl | rfl | rfl | rfl | rfl | rfl
  · -- expression
    exact (Misses.diagnosed _).orElse_misses ((Misses.diagnosed _).orElse_misses
      ((h.misses_hereThen hdisjunction _).orElse_misses
        (hdisjunction.orElse_misses (hg .lambda (by decide)))))
  · exact h.misses_hereThen (hg .starExpression (by decide)) _
  · exact hstar.orElse_misses hexpression
  · -- namedExpression
    exact h.misses_assignmentExpression.orElse_misses
      ((Misses.diagnosed _).orElse_misses (hexpression.bind _))
  · exact hstar.orElse_misses (hg .namedExpression (by decide))
  · exact h.misses_hereThen (hg .conjunction (by decide)) _
  · exact h.misses_hereThen (hg .inversion (by decide)) _
  · -- inversion
    exact (h.misses_hereWord (by decide) _).orElse_misses
      (h.misses_hereThen (hg .bitOr (by decide)) _)
  · exact h.misses_hereThen (hg .bitXor (by decide)) _
  · exact h.misses_hereThen (hg .bitAnd (by decide)) _
  · exact h.misses_hereThen (hg .shift (by decide)) _
  · exact h.misses_hereThen (hg .sum (by decide)) _
  · exact h.misses_hereThen (hg .term (by decide)) _
  · exact h.misses_hereThen (hg .factor (by decide)) _
  · -- factor
    exact (h.misses_hereThen (h.misses_oneOf (by decide)) _).orElse_misses
      (h.misses_hereThen (hg .awaitPrimary (by decide)) _)
  · exact (h.misses_hereWord (by decide) _).orElse_misses (hg .primary (by decide))
  · exact h.misses_hereThen hatom _
  · exact h.misses_hereWord (by decide) _
  · exact h.misses_hereWord (by decide) _
  · -- arguments
    exact ((hg .argumentList (by decide)).bind _).orElse_misses (.diagnosed _)
  · exact h.misses_argumentList hexpression
  · -- starTargets
    exact ((hg .starTarget (by decide)).bind _).orElse_misses
      (h.misses_hereThen (hg .starTarget (by decide)) _)
  · exact (h.misses_hereWord (by decide) _).orElse_misses (hg .starTargetAtom (by decide))
  · exact htarget.orElse_misses h.misses_starAtom
  · exact h.misses_hereThen hatom _
  · -- singleTarget
    exact htarget.orElse_misses
      (h.misses_ident.orElse_misses ((h.misses_word (by decide)).bind _))

/-- **Where nothing begins, all these rules miss at every depth.** -/
theorem Barren.settles (h : Barren ts i) : ∀ r ∈ silentRules, Settles ts 0 r i none :=
  settles_misses fun _ _ hg => h.misses_define hg

/-- Where nothing begins, the silent rules miss in every world. -/
theorem Barren.misses (h : Barren ts i) (w : World ts) (n : Nat) {r : Rule}
    (hr : r ∈ silentRules) : Misses ts w.keeps (w.rules n r) i :=
  h.settles r hr w n (Nat.zero_le n)

end CodeAudit.Source.Grammar
