/-
  CodeAudit.Proofs.Source.Readers
  ───────────────────────────────
  **WHAT READERS FIND.**

  Trees take their lines from tokens.  `Node.LinesIn L` says that all lines
  of a tree are allowed, and `Finds L P p` that the reader `p`, on tokens
  that are on allowed lines, finds nothing but values with `P`.  What is
  remembered is part of the state, so `Finds` also says that whatever is
  remembered was found in this sense.

  A tree is only ever taken from a reading that does not look for mistakes
  (`Finds.ok_of_complete`), so `Finds` is about such readings.  An alternative
  that looks for mistakes misses there (`Finds.diagnosed`).

  There is one rule for each way in which readers are put together; a
  reader of the grammar is then followed step by step.
-/
import CodeAudit.Proofs.Source.Tokens
import CodeAudit.Source.Grammar.Rule

namespace CodeAudit.Source

/-! ## §1. The lines of trees. -/

/-- Whether a construct has no line of its own. -/
def Node.lineless : Node → Bool
  | .module _ | .withItem _ _ | .matchCase _ _ _ | .clause _ _ _ | .keyword _ _
  | .signature _ _ _ _ _ _ _ => true
  | _ => false

/-- All lines of a tree are allowed. -/
inductive Node.LinesIn (L : Nat → Prop) : Node → Prop where
  | mk {n : Node} (line : n.lineless = true ∨ L n.line) (parts : ∀ c ∈ n.children, LinesIn L c) :
      LinesIn L n

/-- All lines of several trees are allowed. -/
def AllIn (L : Nat → Prop) (nodes : List Node) : Prop := ∀ n ∈ nodes, n.LinesIn L

variable {L : Nat → Prop}

/-! Properties of what may be missing. -/

theorem forall_mem_none {α : Type} {P : α → Prop} : ∀ a ∈ (none : Option α), P a :=
  fun _ h => (Option.not_mem_none _ h).elim

theorem forall_mem_some {α : Type} {P : α → Prop} {a : α} (h : P a) : ∀ b ∈ some a, P b :=
  fun _ hb => Option.mem_some.mp hb ▸ h

theorem forall_mem_getD {α : Type} {P : α → Prop} {o : Option (List α)}
    (h : ∀ as ∈ o, ∀ a ∈ as, P a) : ∀ a ∈ o.getD [], P a := by
  cases o with
  | none => exact List.forall_mem_nil P
  | some as => exact h as rfl

namespace Node.LinesIn

/-- A construct with a line of its own. -/
theorem on {n : Node} (line : L n.line) (parts : AllIn L n.children) : n.LinesIn L :=
  .mk (.inr line) parts

/-- A construct without. -/
theorem off {n : Node} (h : n.lineless = true) (parts : AllIn L n.children) : n.LinesIn L :=
  .mk (.inl h) parts

end Node.LinesIn

namespace AllIn

theorem nil : AllIn L [] := List.forall_mem_nil _

theorem cons {n : Node} {rest : List Node} (hn : n.LinesIn L) (hrest : AllIn L rest) :
    AllIn L (n :: rest) := by
  intro m hm
  rcases List.mem_cons.mp hm with rfl | hm
  · exact hn
  · exact hrest m hm

theorem one {n : Node} (hn : n.LinesIn L) : AllIn L [n] := .cons hn .nil

theorem append {a b : List Node} (ha : AllIn L a) (hb : AllIn L b) : AllIn L (a ++ b) := by
  intro n hn
  rcases List.mem_append.mp hn with hn | hn
  · exact ha n hn
  · exact hb n hn

/-- A part that may be missing. -/
theorem option {o : Option Node} (h : ∀ n ∈ o, n.LinesIn L) : AllIn L o.toList := by
  intro n hn
  exact h n (Option.mem_toList.mp hn)

/-- Parts that may be missing altogether. -/
theorem getD {o : Option (List Node)} (h : ∀ ns ∈ o, AllIn L ns) : AllIn L (o.getD []) :=
  forall_mem_getD h

end AllIn

namespace Grammar

/-- What a rule finds has allowed lines. -/
def ResultIn (L : Nat → Prop) : (r : Rule) → r.Result → Prop
  | .block, ns | .clauses, ns => AllIn L ns
  | .arguments, a | .argumentList, a => AllIn L a.positional ∧ AllIn L a.keywords
  | .simpleStatement, n | .elifBranch, n | .expression, n | .starExpressions, n
  | .starExpression, n | .namedExpression, n | .starNamedExpression, n | .disjunction, n
  | .conjunction, n | .inversion, n | .bitOr, n | .bitXor, n | .bitAnd, n | .shift, n | .sum, n
  | .term, n | .factor, n | .awaitPrimary, n | .primary, n | .slices, n | .generator, n
  | .literals, n | .lambda, n | .yielding, n | .listDisplay, n | .tuple, n | .starTargets, n
  | .starTarget, n | .starTargetAtom, n | .targetPrimary, n | .singleTarget, n
  | .deletedTarget, n | .closedPattern, n | .pattern, n | .starPattern, n | .mistakenName, n
  | .mistakenHintTarget, n => n.LinesIn L

/-! ## §2. What readers find. -/

/-- Whatever is remembered was found on allowed lines. -/
def Remembers (L : Nat → Prop) (m : Memory) : Prop :=
  ∀ es ∈ m, ∀ e ∈ es, ∀ a after, e.outcome = some (a, after) → ResultIn L e.rule a

variable {α β : Type}

/-- An outcome with a value that has a property, and a sound memory. -/
def Held (L : Nat → Prop) (P : α → Prop) : Outcome (Place Memory) α → Prop
  | .found a s => P a ∧ Remembers L s.memory
  | .missed s => Remembers L s.memory
  | .failed _ _ => True

/-- A reader that does not look for mistakes finds nothing but values with a
property, and remembers nothing else. -/
def Finds (L : Nat → Prop) (P : α → Prop) (p : Reads α) : Prop :=
  ∀ (env : Setting) (s : Place Memory), env.diagnosing = false → Token.AllFit L env.tokens →
    Remembers L s.memory → Held L P (p env s)

/-- All rules find values with allowed lines. -/
def AllFind (L : Nat → Prop) (g : Rules) : Prop := ∀ r, Finds L (ResultIn L r) (g r)

namespace Finds

open Reader

variable {P : α → Prop} {Q : β → Prop}

/-- A weaker property. -/
theorem mono {P' : α → Prop} {p : Reads α} (h : Finds L P p) (hP : ∀ a, P a → P' a) :
    Finds L P' p := by
  intro env s henv htokens hmemory
  have hp := h env s henv htokens hmemory
  cases hout : p env s with
  | found a t =>
      rw [hout] at hp
      exact ⟨hP a hp.1, hp.2⟩
  | missed t =>
      rw [hout] at hp
      exact hp
  | failed f t => trivial

/-! ### Sequence and choice. -/

theorem pure {a : α} (h : P a) : Finds L P (Pure.pure a) :=
  fun _ _ _ _ hmemory => ⟨h, hmemory⟩

theorem miss : Finds L P Reader.miss := fun _ _ _ _ hmemory => hmemory

theorem bind {p : Reads α} {f : α → Reads β} (hp : Finds L P p) (hf : ∀ a, P a → Finds L Q (f a)) :
    Finds L Q (p >>= f) := by
  intro env s henv htokens hmemory
  have hfirst := hp env s henv htokens hmemory
  show Held L Q (Reader.bind p f env s)
  unfold Reader.bind
  cases hout : p env s with
  | found a t =>
      rw [hout] at hfirst
      exact hf a hfirst.1 env t henv htokens hfirst.2
  | missed t =>
      rw [hout] at hfirst
      exact hfirst
  | failed e t => trivial

/-- Once the front is found only what follows counts. -/
theorem commit {p : Reads α} {f : α → Reads β} {q : Reads β} (hp : Finds L P p)
    (hf : ∀ a, P a → Finds L Q (f a)) (hq : Finds L Q q) : Finds L Q (Reader.commit p f q) := by
  intro env s henv htokens hmemory
  have hfirst := hp env s henv htokens hmemory
  unfold Reader.commit
  cases hout : p env s with
  | found a t =>
      rw [hout] at hfirst
      exact hf a hfirst.1 env t henv htokens hfirst.2
  | missed t =>
      rw [hout] at hfirst
      exact hq env { t with position := s.position } henv htokens hfirst
  | failed e t => trivial

theorem orElse {p q : Reads α} (hp : Finds L P p) (hq : Finds L P q) : Finds L P (p <|> q) := by
  intro env s henv htokens hmemory
  have hfirst := hp env s henv htokens hmemory
  show Held L P (Reader.orElse p (fun _ => q) env s)
  unfold Reader.orElse
  cases hout : p env s with
  | found a t =>
      rw [hout] at hfirst
      exact hfirst
  | missed t =>
      rw [hout] at hfirst
      exact hq env { t with position := s.position } henv htokens hfirst
  | failed e t => trivial

theorem ite {c : Prop} [Decidable c] {p q : Reads α} (hp : Finds L P p) (hq : Finds L P q) :
    Finds L P (if c then p else q) := by
  split
  · exact hp
  · exact hq

/-- An alternative that looks for a mistake misses. -/
theorem diagnosed (p : Reads α) : Finds L P (Reader.diagnosed p) := by
  intro env s henv _ hmemory
  unfold Reader.diagnosed
  rw [henv]
  exact hmemory

theorem perhaps {p : Reads α} (hp : Finds L P p) :
    Finds L (fun o => ∀ a ∈ o, P a) (Reader.perhaps p) := by
  intro env s henv htokens hmemory
  have hfirst := hp env s henv htokens hmemory
  unfold Reader.perhaps
  cases hout : p env s with
  | found a t =>
      rw [hout] at hfirst
      refine ⟨?_, hfirst.2⟩
      intro b hb
      cases hb
      exact hfirst.1
  | missed t =>
      rw [hout] at hfirst
      refine ⟨?_, hfirst⟩
      intro b hb
      cases hb
  | failed e t => trivial

theorem ahead {p : Reads α} (hp : Finds L P p) : Finds L (fun _ => True) (Reader.ahead p) := by
  intro env s henv htokens hmemory
  have hfirst := hp env s henv htokens hmemory
  unfold Reader.ahead
  cases hout : p env s with
  | found a t =>
      rw [hout] at hfirst
      exact ⟨trivial, hfirst.2⟩
  | missed t =>
      rw [hout] at hfirst
      exact hfirst
  | failed e t => trivial

theorem notAhead {p : Reads α} (hp : Finds L P p) : Finds L (fun _ => True) (Reader.notAhead p) := by
  intro env s henv htokens hmemory
  have hfirst := hp env s henv htokens hmemory
  unfold Reader.notAhead
  cases hout : p env s with
  | found a t =>
      rw [hout] at hfirst
      exact hfirst.2
  | missed t =>
      rw [hout] at hfirst
      exact ⟨trivial, hfirst⟩
  | failed e t => trivial

/-! ### Repetition. -/

theorem repeatUpTo {p : Reads α} (hp : Finds L P p) (n : Nat) :
    Finds L (fun as => ∀ a ∈ as, P a) (Reader.repeatUpTo p n) := by
  induction n with
  | zero => exact Finds.pure (List.forall_mem_nil _)
  | succ n ih =>
      intro env s henv htokens hmemory
      have hfirst := hp env s henv htokens hmemory
      unfold Reader.repeatUpTo
      cases hout : p env s with
      | found a t =>
          rw [hout] at hfirst
          simp only
          split
          · -- No token was taken, so there is no point in going on.
            refine ⟨?_, hfirst.2⟩
            intro b hb
            rw [List.mem_singleton] at hb
            subst hb
            exact hfirst.1
          · have hrest := ih env t henv htokens hfirst.2
            cases hmore : Reader.repeatUpTo p n env t with
            | found rest u =>
                rw [hmore] at hrest
                exact ⟨List.forall_mem_cons.mpr ⟨hfirst.1, hrest.1⟩, hrest.2⟩
            | missed u =>
                rw [hmore] at hrest
                exact hrest
            | failed e u => trivial
      | missed t =>
          rw [hout] at hfirst
          exact ⟨List.forall_mem_nil _, hfirst⟩
      | failed e t => trivial

theorem many {p : Reads α} (hp : Finds L P p) :
    Finds L (fun as => ∀ a ∈ as, P a) (Reader.many p) :=
  fun env s henv htokens hmemory => hp.repeatUpTo _ env s henv htokens hmemory

/-- At least one is found. -/
theorem many1_ne_nil {p : Reads α} (hp : Finds L P p) :
    Finds L (fun as => as ≠ [] ∧ ∀ a ∈ as, P a) (Reader.many1 p) := by
  refine .bind hp fun first hfirst => ?_
  refine .bind hp.many fun rest hrest => ?_
  exact .pure ⟨List.cons_ne_nil first rest, List.forall_mem_cons.mpr ⟨hfirst, hrest⟩⟩

theorem many1 {p : Reads α} (hp : Finds L P p) :
    Finds L (fun as => ∀ a ∈ as, P a) (Reader.many1 p) :=
  hp.many1_ne_nil.mono fun _ h => h.2

theorem separated {p : Reads α} {separator : Reads β} (hp : Finds L P p)
    (hs : Finds L Q separator) :
    Finds L (fun as => ∀ a ∈ as, P a) (Reader.separated p separator) := by
  refine .bind hp fun first hfirst => ?_
  refine .bind (many (.bind hs fun _ _ => hp)) fun rest hrest => ?_
  exact .pure (List.forall_mem_cons.mpr ⟨hfirst, hrest⟩)

/-! ### Tokens. -/

theorem look : Finds L (Token.Fits L) Reader.look := by
  intro env s _ htokens hmemory
  unfold Reader.look
  simp only
  split
  · rename_i t ht
    exact ⟨htokens t (Array.mem_of_getElem? ht), hmemory⟩
  · split
    · trivial
    · exact hmemory

/-- A token that is taken satisfies the condition. -/
theorem takeIf (ok : Token → Bool) :
    Finds L (fun t => t.Fits L ∧ ok t = true) (Reader.takeIf ok) := by
  intro env s henv htokens hmemory
  have hlook := look (L := L) env s henv htokens hmemory
  unfold Reader.takeIf
  cases hout : Reader.look env s with
  | found t u =>
      rw [hout] at hlook
      simp only
      split
      · rename_i hok
        exact ⟨⟨hlook.1, hok⟩, hlook.2⟩
      · exact hlook.2
  | missed u =>
      rw [hout] at hlook
      exact hlook
  | failed e u => trivial

theorem word (text : String) : Finds L (Token.Fits L) (Reader.word text) :=
  (takeIf _).mono fun _ h => h.1

theorem soft (text : String) : Finds L (Token.Fits L) (Reader.soft text) :=
  (takeIf _).mono fun _ h => h.1

theorem kind (k : Kind) : Finds L (fun t => t.Fits L ∧ t.kind = k) (Reader.kind k) :=
  (takeIf _).mono fun _ h => ⟨h.1, beq_iff_eq.mp h.2⟩

theorem oneOf (texts : List String) : Finds L (Token.Fits L) (Reader.oneOf texts) :=
  (takeIf _).mono fun _ h => h.1

theorem here : Finds L L Reader.here := .bind .look fun _ ht => .pure ht.line

theorem mistake (line : Nat) : Finds L P (Reader.mistake line) := fun _ _ _ _ _ => trivial

theorem required (text : String) : Finds L (Token.Fits L) (Reader.required text) :=
  .bind .look fun _ _ => .ite (.word text) (.mistake _)

theorem endLine : Finds L (fun _ => True) Reader.endLine := fun _ _ _ _ hmemory => ⟨trivial, hmemory⟩

theorem furthest : Finds L (fun _ => True) Reader.furthest :=
  fun _ _ _ _ hmemory => ⟨trivial, hmemory⟩

/-! ### Memory. -/

/-- A remembered outcome is one of the entries. -/
theorem mem_of_outcomeOf? {r : Rule} {es : List Entry} {a : r.Result} {after : Nat}
    (h : outcomeOf? r es = some (some (a, after)))
    (hes : ∀ e ∈ es, ∀ b last, e.outcome = some (b, last) → ResultIn L e.rule b) : ResultIn L r a := by
  induction es with
  | nil => cases h
  | cons e rest ih =>
      unfold outcomeOf? at h
      split at h
      · rename_i hr
        subst hr
        exact hes e List.mem_cons_self a after (Option.some.inj h)
      · exact ih h fun d hd => hes d (List.mem_cons_of_mem e hd)

/-- Remembering what was found. -/
theorem remembers_remember {m : Memory} (hm : Remembers L m) (position : Nat) {e : Entry}
    (he : ∀ a after, e.outcome = some (a, after) → ResultIn L e.rule a) :
    Remembers L (remember m position e) := by
  intro es hes d hd
  obtain ⟨i, hi, heq⟩ := Array.mem_iff_getElem.mp hes
  have hi' : i < m.size := by simpa [remember] using hi
  rw [show (remember m position e)[i] = if position = i then e :: m[i] else m[i] from
    Array.getElem_modify hi] at heq
  subst heq
  split at hd
  · rcases List.mem_cons.mp hd with rfl | hd
    · exact he
    · exact hm _ (Array.getElem_mem hi') d hd
  · exact hm _ (Array.getElem_mem hi') d hd

/-- A remembered rule finds what the rule finds. -/
theorem remembering {r : Rule} {p : Reads r.Result} (hp : Finds L (ResultIn L r) p) :
    Finds L (ResultIn L r) (Grammar.remembering r p) := by
  intro env s henv htokens hmemory
  unfold Grammar.remembering
  simp only
  split
  · -- Taken over from the memory, which holds only what was found before.
    rename_i a after hout
    refine ⟨mem_of_outcomeOf? hout ?_, hmemory⟩
    cases hes : s.memory[s.position]? with
    | none => exact List.forall_mem_nil _
    | some es => exact hmemory es (Array.mem_of_getElem? hes)
  · exact hmemory
  · have hfirst := hp env s henv htokens hmemory
    cases hout : p env s with
    | found a t =>
        rw [hout] at hfirst
        refine ⟨hfirst.1, remembers_remember hfirst.2 _ ?_⟩
        intro b after heq
        cases heq
        exact hfirst.1
    | missed t =>
        rw [hout] at hfirst
        refine remembers_remember hfirst _ ?_
        intro b after heq
        cases heq
    | failed e t => trivial

/-- Nothing is remembered at first. -/
theorem remembers_noMemory (tokens : Tokens) : Remembers L (noMemory tokens) := by
  intro es hes e he
  obtain ⟨-, rfl⟩ := Array.mem_replicate.mp hes
  exact absurd he List.not_mem_nil

/-! ### Whole texts. -/

/-- **What is read of a whole text was found without looking for mistakes.** -/
theorem ok_of_complete {p : Reads α} (hp : Finds L P p) {tokens : Tokens}
    (htokens : Token.AllFit L tokens) {a : α}
    (h : complete p (noMemory tokens) tokens = .ok a) : P a := by
  have hfirst := hp ⟨tokens, false⟩ ⟨0, 0, noMemory tokens⟩ rfl htokens (remembers_noMemory tokens)
  unfold complete at h
  split at h
  · rename_i b s hout
    cases h
    rw [hout] at hfirst
    exact hfirst.1
  · cases h
  · -- The second reading only ever gives the line of a fault.
    split at h
    · cases h
    · simp only at h
      split at h <;> cases h
    · simp only at h
      split at h <;> cases h

/-! ### Common pieces. -/

theorem ident : Finds L (Node.LinesIn L) Grammar.ident :=
  .bind (.kind .name) fun _ ht => .pure (.on ht.1.line .nil)

theorem nameText : Finds L (fun _ => True) Grammar.nameText :=
  .bind (.kind .name) fun _ _ => .pure trivial

/-- Operands joined from the left. -/
theorem foldl_binary {line : Nat} (hline : L line) {first : Node} (hfirst : first.LinesIn L)
    {rest : List Node} (hrest : AllIn L rest) :
    (rest.foldl (fun left right => .binary line left right) first).LinesIn L := by
  induction rest generalizing first with
  | nil => exact hfirst
  | cons n more ih =>
      have hn : n.LinesIn L := hrest n List.mem_cons_self
      exact ih (.on hline (.cons hfirst (.one hn))) fun m hm => hrest m (List.mem_cons_of_mem n hm)

theorem leftAssociative {operand : Reads Node} (h : Finds L (Node.LinesIn L) operand)
    (operators : List String) :
    Finds L (Node.LinesIn L) (Grammar.leftAssociative operand operators) := by
  refine .bind .here fun line hline => ?_
  refine .bind h fun first hfirst => ?_
  refine .bind (.many (.bind (.oneOf operators) fun _ _ => h)) fun rest hrest => ?_
  exact .pure (foldl_binary hline hfirst hrest)

end Finds

end Grammar

end CodeAudit.Source
