/-
  CodeAudit.Proofs.Source.Pieces
  ──────────────────────────────
  **TEXT THAT IS WRITTEN PIECE BY PIECE IS SCANNED PIECE BY PIECE.**

  Whether a word, a number, a sign or a literal is scanned as the token that
  it is meant to be depends on what stands behind it.  There is one lemma for
  each of them that says when it is.

    • `Scans` — the scan goes on from one text to a shorter one, within the
      number of steps that it has,
    • `one_word`, `one_number`, `one_sign`, `one_literal` — the tokens at the
      front of a text,
    • `Literal.node_quotedChars` — a literal in plain quotes stands for
      something.
-/
import CodeAudit.Proofs.Source.Tokens
import CodeAudit.Source.Literal
import Mathlib.Tactic.IntervalCases

namespace CodeAudit.Source.Token

open CodeAudit.Text

/-! ## §1. Scans. -/

/-- What matters of the state of a scan: the tokens so far as the grammar looks at them,
the open brackets and the indentations. -/
structure View where
  lexemes : List (Kind × String)
  opened : List Char
  indents : List Measure

/-- The view of a state. -/
def State.view (s : State) : View :=
  ⟨s.tokens.toList.map fun t => (t.kind, t.text), s.opened.map (·.1), s.indents⟩

/-- A view with one more token. -/
def View.add (v : View) (x : Kind × String) : View := { v with lexemes := v.lexemes ++ [x] }

theorem State.view_push (s : State) (kind : Kind) (text : String) :
    (s.push kind text).view = s.view.add (kind, text) := by
  simp [view, push, View.add]

/-- What holds of each character of a list. -/
theorem forall_mem_of_all {p : Char → Prop} [DecidablePred p] {cs : List Char}
    (h : cs.all (fun c => decide (p c)) = true) : ∀ c ∈ cs, p c :=
  fun c hc => of_decide_eq_true (List.all_eq_true.mp h c hc)

/-- What is left of a line is its end. -/
theorem dropWhile_line {text : List Char} (htext : '\n' ∉ text) (rest : List Char) :
    (text ++ '\n' :: rest).dropWhile (· != '\n') = '\n' :: rest := by
  rw [List.dropWhile_append_of_pos]
  · simp
  · intro c hc
    have hne : c ≠ '\n' := fun heq => htext (heq ▸ hc)
    simpa using hne

/-- The characters at which no token begins. -/
def skipped : List Char := [' ', '\t', '\x0c', '#', '\n', '\\']

/-- The steps that are left for a text: two for each character, and one for the start of a
line. -/
def steps (fresh : Bool) (cs : List Char) : Nat := 2 * cs.length + fresh.toNat

/-- The scan goes on from one text to another, whatever else there is in the state. -/
def Scans (fresh : Bool) (v : View) (cs : List Char) (fresh' : Bool) (v' : View)
    (rest : List Char) : Prop :=
  ∀ s : State, s.view = v → ∃ (t : State) (k : Nat), t.view = v' ∧
    k + steps fresh' rest ≤ steps fresh cs ∧
    ∀ fuel, run (fuel + k) fresh s cs = run fuel fresh' t rest

namespace Scans

theorem refl (fresh : Bool) (v : View) (cs : List Char) : Scans fresh v cs fresh v cs :=
  fun s hs => ⟨s, 0, hs, Nat.le_of_eq (Nat.zero_add _), fun _ => rfl⟩

theorem trans {f₁ f₂ f₃ : Bool} {v₁ v₂ v₃ : View} {a b c : List Char}
    (h : Scans f₁ v₁ a f₂ v₂ b) (h' : Scans f₂ v₂ b f₃ v₃ c) : Scans f₁ v₁ a f₃ v₃ c := by
  intro s hs
  obtain ⟨t, k, ht, hk, hrun⟩ := h s hs
  obtain ⟨u, l, hu, hl, hrun'⟩ := h' t ht
  refine ⟨u, l + k, hu, by omega, fun fuel => ?_⟩
  rw [← Nat.add_assoc, hrun, hrun']

/-- A token inside a line. -/
theorem token {v v' : View} {c : Char} {more rest : List Char}
    (hc : c ∉ skipped)
    (h : ∀ s : State, s.view = v → ∃ t, one s c more = .ok (t, rest) ∧ t.view = v')
    (hrest : rest.length ≤ more.length) : Scans false v (c :: more) false v' rest := by
  intro s hs
  obtain ⟨t, hone, ht⟩ := h s hs
  simp only [skipped, List.mem_cons, List.not_mem_nil, or_false, not_or] at hc
  refine ⟨t, 1, ht, ?_, fun fuel => ?_⟩
  · simp only [steps, List.length_cons, Bool.toNat_false]
    omega
  · conv_lhs => unfold run
    simp [hc, hone]

/-- A blank inside a line. -/
theorem blank (v : View) (rest : List Char) : Scans false v (' ' :: rest) false v rest := by
  intro s hs
  refine ⟨s, 1, hs, ?_, fun fuel => ?_⟩
  · simp only [steps, List.length_cons, Bool.toNat_false]
    omega
  · conv_lhs => unfold run
    simp

/-- The end of a line. -/
theorem newline {v : View} (hv : v.opened = []) (rest : List Char) :
    Scans false v ('\n' :: rest) true (v.add (.newline, "")) rest := by
  intro s hs
  have hopened : s.opened = [] := by
    rw [← hs] at hv
    exact List.map_eq_nil_iff.mp hv
  refine ⟨{ s.push .newline "" with line := nextLine '\n' rest s.line }, 1, ?_, ?_, fun fuel => ?_⟩
  · rw [← hs, ← State.view_push]
    rfl
  · simp only [steps, List.length_cons, Bool.toNat_false, Bool.toNat_true]
    omega
  · conv_lhs => unfold run
    simp [hopened, State.push]

/-- A comment up to the end of its line. -/
theorem comment (v : View) {text : List Char} (htext : '\n' ∉ text) (rest : List Char) :
    Scans false v ('#' :: (text ++ '\n' :: rest)) false v ('\n' :: rest) := by
  intro s hs
  have hdrop := dropWhile_line htext rest
  refine ⟨s, 1, hs, ?_, fun fuel => ?_⟩
  · simp only [steps, List.length_cons, List.length_append, Bool.toNat_false]
    omega
  · conv_lhs => unfold run
    simp [hdrop]

end Scans

/-! ## §2. Words and names. -/

/-- The characters that stand behind words, names and numbers. -/
def boundaries : List Char := [' ', '\n', '(', ')', '[', ']', ',', '.', ':', '=']

/-- Something that ends a word stands in front. -/
def Bounded (rest : List Char) : Prop := ∃ c more, rest = c :: more ∧ c ∈ boundaries

/-- No boundary goes on with a name or with the letters of a literal, or opens one. -/
theorem boundary_plain : ∀ c ∈ boundaries, extendsName c = false ∧ (c == '"' || c == '\'') = false ∧
    c.toLower ∉ ['b', 'f', 'u', 'r'] := forall_mem_of_all (by decide)

theorem opensName_of_isNameStart {c : Char} (h : isNameStart c = true) : opensName c = true := by
  unfold isNameStart at h
  unfold opensName
  split at h
  · rw [h, Bool.true_or]
  · rename_i hc
    simp [Nat.le_of_not_lt hc]

theorem extendsName_of_isNameRest {c : Char} (h : isNameRest c = true) :
    extendsName c = true := by
  unfold isNameRest at h
  unfold extendsName opensName
  split at h
  · simp only [Bool.or_eq_true] at h ⊢
    tauto
  · rename_i hc
    simp [Nat.le_of_not_lt hc]

/-- A complete name is a name as far as scanning goes. -/
theorem extendsName_of_isName {w : List Char} (h : isName w = true) :
    ∀ c ∈ w, extendsName c = true := by
  cases w with
  | nil => cases h
  | cons c rest =>
      obtain ⟨hfirst, hrest⟩ := Bool.and_eq_true_iff.mp h
      intro d hd
      rcases List.mem_cons.mp hd with rfl | hd
      · unfold extendsName
        rw [opensName_of_isNameStart hfirst, Bool.true_or]
      · exact extendsName_of_isNameRest (List.all_eq_true.mp hrest d hd)

/-- No character of a name is a quote. -/
theorem not_quote_of_extendsName {c : Char} (h : extendsName c = true) :
    (c == '"' || c == '\'') = false := by
  rw [Bool.or_eq_false_iff, beq_eq_false_iff_ne, beq_eq_false_iff_ne]
  constructor
  · rintro rfl
    exact absurd h (by decide)
  · rintro rfl
    exact absurd h (by decide)

section

variable {w rest : List Char} (hw : ∀ c ∈ w, extendsName c = true) (hrest : Bounded rest)

include hw hrest

/-- The characters of a word are told from what stands behind it. -/
theorem takeWhile_word : (w ++ rest).takeWhile extendsName = w ∧
    (w ++ rest).dropWhile extendsName = rest := by
  obtain ⟨c, more, rfl, hc⟩ := hrest
  have hend := (boundary_plain c hc).1
  rw [List.takeWhile_append_of_pos hw, List.dropWhile_append_of_pos hw]
  simp [hend]

/-- A word does not open a literal, whatever its first letters are. -/
theorem literalLetters_go_word (seen : List Char) (n : Nat) :
    literalLetters.go seen (w ++ rest) n = none := by
  induction w generalizing seen n with
  | nil =>
      obtain ⟨c, more, rfl, hc⟩ := hrest
      obtain ⟨-, hquote, hletter⟩ := boundary_plain c hc
      simp only [List.mem_cons, List.not_mem_nil, or_false, not_or] at hletter
      rw [List.nil_append, literalLetters.go, hquote]
      simp [hletter]
  | cons c tail ih =>
      have hquote := not_quote_of_extendsName (hw c List.mem_cons_self)
      rw [List.cons_append, literalLetters.go, hquote]
      simp only [Bool.false_eq_true, if_false]
      rw [ih fun d hd => hw d (List.mem_cons_of_mem c hd), ite_self]

end

/-- A word is read up to what stands behind it. -/
theorem one_word {s : State} {c : Char} {tail rest : List Char} (hopens : opensName c = true)
    (hw : ∀ d ∈ c :: tail, extendsName d = true) (hrest : Bounded rest) :
    one s c (tail ++ rest)
      = if reserved.contains (String.ofList (c :: tail)) then
          .ok (s.push .fixed (String.ofList (c :: tail)), rest)
        else if isName (c :: tail) then
          .ok (s.push .name (compatible (String.ofList (c :: tail))), rest)
        else .error s.firm := by
  have hletters : literalLetters (c :: (tail ++ rest)) = none :=
    literalLetters_go_word hw hrest [] 0
  obtain ⟨htake, hdrop⟩ := takeWhile_word hw hrest
  rw [List.cons_append] at htake hdrop
  unfold one
  simp only [hletters, hopens, if_true, htake, hdrop]

/-! ## §3. Numbers and signs. -/

/-- A character that is neither a quote nor a letter of literals opens no literal. -/
theorem literalLetters_plain {c : Char} (hquote : (c == '"' || c == '\'') = false)
    (hletter : c.toLower ∉ ['b', 'f', 'u', 'r']) (more : List Char) :
    literalLetters (c :: more) = none := by
  simp only [List.mem_cons, List.not_mem_nil, or_false, not_or] at hletter
  unfold literalLetters
  rw [literalLetters.go, hquote]
  simp [hletter]

/-- The ten digits. -/
def tenDigits : List Char := ['0', '1', '2', '3', '4', '5', '6', '7', '8', '9']

theorem mem_tenDigits {c : Char} (h : isAsciiDigit c = true) : c ∈ tenDigits := by
  obtain ⟨hlow, hhigh⟩ := Bool.and_eq_true_iff.mp h
  have hlow : 48 ≤ c.toNat := of_decide_eq_true hlow
  have hhigh : c.toNat ≤ 57 := of_decide_eq_true hhigh
  rw [← Char.ofNat_toNat c]
  interval_cases c.toNat <;> decide

/-- Digits are read up to what stands behind them. -/
theorem afterDigits_append {digits rest : List Char} (hdigits : ∀ c ∈ digits, isAsciiDigit c = true)
    (hrest : Bounded rest) : afterDigits isAsciiDigit (digits ++ rest) = some rest := by
  induction digits with
  | nil =>
      obtain ⟨c, more, rfl, hc⟩ := hrest
      have hplain : ∀ c ∈ boundaries, isAsciiDigit c = false ∧ (c == '_') = false :=
        forall_mem_of_all (by decide)
      obtain ⟨hdigit, hlow⟩ := hplain c hc
      rw [List.nil_append, afterDigits.eq_def]
      simp [hdigit, hlow]
  | cons d tail ih =>
      rw [List.cons_append, afterDigits.eq_def]
      simp only [hdigits d List.mem_cons_self, if_true]
      exact ih fun c hc => hdigits c (List.mem_cons_of_mem d hc)

/-- A whole number that begins with no zero, before a comma or a closing bracket. -/
theorem one_number {s : State} {d : Char} {digits rest : List Char}
    (hdigits : ∀ c ∈ d :: digits, isAsciiDigit c = true) (hzero : d ≠ '0')
    (hrest : ∃ c more, rest = c :: more ∧ c ∈ [',', ')', ']']) :
    one s d (digits ++ rest) = .ok (s.push .number (String.ofList (d :: digits)), rest) := by
  have hdigit := hdigits d List.mem_cons_self
  have hplain : ∀ c ∈ tenDigits,
      (c == '"' || c == '\'') = false ∧ c.toLower ∉ ['b', 'f', 'u', 'r'] ∧ opensName c = false ∧
        c ≠ '.' := forall_mem_of_all (by decide)
  obtain ⟨hquote, hletter, hopens, hpoint⟩ := hplain d (mem_tenDigits hdigit)
  have hletters := literalLetters_plain hquote hletter (digits ++ rest)
  obtain ⟨c, more, rfl, hc⟩ := hrest
  have hbounded : Bounded (c :: more) := by
    have hsubset : ∀ c ∈ [',', ')', ']'], c ∈ boundaries := forall_mem_of_all (by decide)
    exact ⟨c, more, rfl, hsubset c hc⟩
  have hafter : afterDigits isAsciiDigit (d :: (digits ++ c :: more)) = some (c :: more) :=
    afterDigits_append hdigits hbounded
  have htake : (d :: (digits ++ c :: more)).take
      ((d :: (digits ++ c :: more)).length - (c :: more).length) = d :: digits := by
    have hlength : (d :: (digits ++ c :: more)).length - (c :: more).length
        = (d :: digits).length := by
      simp only [List.length_cons, List.length_append]
      omega
    rw [hlength, ← List.cons_append, List.take_left]
  have hclosed : closed (c :: more) = some (c :: more) := by
    unfold closed endsNumber
    obtain ⟨_, _, heq, hmem⟩ := hbounded
    cases heq
    simp [(boundary_plain c hmem).1]
  have hdecimal : afterDecimal (d :: (digits ++ c :: more)) = some (c :: more) := by
    have hpadded : ((d :: digits).head? == some '0') = false := by simpa using hzero
    unfold afterDecimal
    rw [hafter]
    simp only [Option.bind_some, htake, hpadded, Bool.false_and, Bool.false_eq_true, if_false]
    simp only [List.mem_cons, List.not_mem_nil, or_false] at hc
    rcases hc with rfl | rfl | rfl <;> exact hclosed
  -- It begins with neither a point nor a zero, so it has no base and is a whole number.
  have hnumber : afterNumber (d :: (digits ++ c :: more)) = some (c :: more) := by
    unfold afterNumber
    split <;> first
      | exact hdecimal
      | exact absurd (List.cons.inj ‹_›).1 hpoint
      | exact absurd (List.cons.inj ‹_›).1 hzero
  unfold one
  simp only [hletters, hopens, hdigit, hnumber, htake, Bool.false_eq_true, if_false, Bool.true_or,
    if_true]

/-- An operator of several characters stands here. -/
def startsOperator (c : Char) (more : List Char) : Bool :=
  (longOperators ++ pairOperators).any fun op => op.toList.take 2 == (c :: more).take 2

/-- No operator of several characters begins with a bracket or a comma. -/
theorem startsOperator_bracket {c : Char} (hc : c ∈ ['(', ')', '[', ']', ',']) (more : List Char) :
    startsOperator c more = false := by
  simp only [List.mem_cons, List.not_mem_nil, or_false] at hc
  rcases hc with rfl | rfl | rfl | rfl | rfl <;> cases more <;> rfl

/-- A colon, an equals sign, a point or an at sign alone. -/
theorem startsOperator_sign {c d : Char} (hc : c ∈ [':', '=', '.', '@']) (hequals : d ≠ '=')
    (hpoint : d ≠ '.') (more : List Char) : startsOperator c (d :: more) = false := by
  simp only [List.mem_cons, List.not_mem_nil, or_false] at hc
  rcases hc with rfl | rfl | rfl | rfl <;>
    simp [startsOperator, longOperators, pairOperators, Ne.symm hequals, Ne.symm hpoint]

/-- The signs and brackets that pieces are made of. -/
def signs : List Char := ['(', ')', '[', ']', ',', ':', '=', '.', '@']

/-- What a sign alone becomes: a bracket that opens or closes, or nothing but a token. -/
def readSign (s : State) (c : Char) (more : List Char) : Except Tokens (State × List Char) :=
  if c == '(' || c == '[' then
    if maxDepth ≤ s.opened.length then .error s.firm
    else .ok ({ s with opened := (c, s.line) :: s.opened }.push .fixed (String.singleton c), more)
  else if c == ')' || c == ']' then
    match s.opened with
    | (o, _) :: outer =>
        if closing o == c then
          .ok ({ s with opened := outer }.push .fixed (String.singleton c), more)
        else .error s.firm
    | [] => .error s.firm
  else .ok (s.push .fixed (String.singleton c), more)

/-- A sign alone is read as an operator of one character. -/
theorem one_sign {s : State} {c : Char} {more : List Char} (hc : c ∈ signs)
    (hoperator : startsOperator c more = false)
    (hpoint : c = '.' → more.head?.any isAsciiDigit = false) :
    one s c more = readSign s c more := by
  have hplain : ∀ c ∈ signs, (c == '"' || c == '\'') = false ∧ c.toLower ∉ ['b', 'f', 'u', 'r'] ∧
      opensName c = false ∧ isAsciiDigit c = false ∧ isPrintable c = true ∧
      (c == '\x7b') = false ∧ (c == '\x7d') = false := forall_mem_of_all (by decide)
  obtain ⟨hquote, hletter, hopens, hdigit, hprintable, hbrace, hbrace'⟩ := hplain c hc
  have hletters := literalLetters_plain hquote hletter more
  have hfraction : (c == '.' && more.head?.any isAsciiDigit) = false := by
    by_cases hc' : c = '.'
    · rw [hpoint hc', Bool.and_false]
    · simp [hc']
  -- Neither three nor two characters are an operator.
  have hnone : ∀ op ∈ longOperators ++ pairOperators,
      op.toList.take 2 ≠ (c :: more).take 2 := by
    intro op hop heq
    have := List.any_eq_false.mp hoperator op hop
    simp [heq] at this
  have hthree : longOperators.contains (String.ofList (c :: more.take 2)) = false := by
    rw [Bool.eq_false_iff]
    intro hmem
    refine hnone _ (List.mem_append_left _ (List.contains_iff_mem.mp hmem)) ?_
    rw [String.toList_ofList]
    simp [List.take_take]
  have htwo : pairOperators.contains (String.ofList (c :: more.take 1)) = false := by
    rw [Bool.eq_false_iff]
    intro hmem
    refine hnone _ (List.mem_append_right _ (List.contains_iff_mem.mp hmem)) ?_
    rw [String.toList_ofList]
    simp [List.take_take]
  unfold one
  simp only [hletters, hopens, hdigit, hfraction, Bool.or_self, Bool.false_eq_true, if_false]
  unfold operator
  simp only [hthree, htwo, hbrace, hbrace', Bool.or_false, hprintable, Bool.false_eq_true, if_false,
    if_true]
  rfl

/-! ## §4. Literals. -/

/-- The characters that a literal in plain quotes cannot hold as they are. -/
def unquotable : List Char := ['\'', '\\', '\n', '\r', '\x00']

/-- The body of a literal without such characters is read up to its quote. -/
theorem literalBody_plain {body : List Char} (hbody : ∀ c ∈ body, c ∉ unquotable)
    (seen : List Char) (line : Nat) (rest : List Char) :
    literalBody '\'' false seen line (body ++ '\'' :: rest)
      = some ('\'' :: (body.reverse ++ seen), rest, line) := by
  induction body generalizing seen with
  | nil => rfl
  | cons c tail ih =>
      have hc := hbody c List.mem_cons_self
      simp only [unquotable, List.mem_cons, List.not_mem_nil, or_false, not_or] at hc
      have hnext : nextLine c (tail ++ '\'' :: rest) line = line := by simp [nextLine, hc]
      rw [List.cons_append, literalBody.eq_def]
      split
      · rename_i heq
        cases heq
      · rename_i heq
        exact absurd (List.cons.inj heq).1 hc.2.1
      · rename_i heq
        exact absurd (List.cons.inj heq).1 hc.2.1
      · rename_i heq
        obtain ⟨rfl, rfl⟩ := List.cons.inj heq
        simp only [beq_iff_eq, hc.1, if_false, hc.2.2.1, Bool.and_eq_true, false_and, hnext]
        rw [ih fun d hd => hbody d (List.mem_cons_of_mem c hd)]
        simp

/-- A text between plain quotes. -/
def quotedChars (body : List Char) : List Char := '\'' :: (body ++ ['\''])

/-- A literal is read up to its quote. -/
theorem one_literal {s : State} {body : List Char} (hne : body ≠ [])
    (hbody : ∀ c ∈ body, c ∉ unquotable) (rest : List Char) :
    one s '\'' (body ++ '\'' :: rest)
      = .ok ({ s with
          tokens := s.tokens.push
            ⟨.literal, String.ofList (quotedChars body), s.line, s.line, s.opened.length⟩ },
        rest) := by
  have hread := literalBody_plain hbody ['\''] s.line rest
  have hliteral : literal? 0 ('\'' :: (body ++ '\'' :: rest)) s.line
      = some (quotedChars body, rest, s.line) := by
    obtain ⟨a, tail, rfl⟩ := List.exists_cons_of_ne_nil hne
    have ha : a ≠ '\'' := by
      have := hbody a List.mem_cons_self
      simp only [unquotable, List.mem_cons, not_or] at this
      exact this.1
    -- The second character is no quote, so neither an empty nor a tripled literal begins.
    obtain ⟨b, more, hmore⟩ : ∃ b more, tail ++ '\'' :: rest = b :: more :=
      List.exists_cons_of_ne_nil (by simp)
    have hsingle : literal?.single s.line '\'' [] (a :: b :: more)
        = some (quotedChars (a :: tail), rest, s.line) := by
      unfold literal?.single
      rw [← hmore, List.reverse_nil, ← List.cons_append, hread]
      simp [quotedChars]
    unfold literal?
    rw [List.cons_append, hmore]
    simp only [List.drop_zero, List.take_zero, beq_iff_eq, ha, false_and, if_false,
      Bool.and_eq_true]
    exact hsingle
  have hletters : literalLetters ('\'' :: (body ++ '\'' :: rest)) = some 0 := rfl
  unfold one
  simp only [hletters, hliteral]

end CodeAudit.Source.Token

namespace CodeAudit.Source.Literal

open CodeAudit.Text Token

/-- Without backslashes there is nothing to resolve. -/
theorem unescape_plain {body : List Char} (h : '\\' ∉ body) (fuel : Nat)
    (hfuel : body.length ≤ fuel) : unescape fuel body = some (body.map .char) := by
  induction body generalizing fuel with
  | nil => cases fuel <;> rfl
  | cons c tail ih =>
      rw [List.mem_cons, not_or] at h
      cases fuel with
      | zero => cases hfuel
      | succ fuel =>
          have hrest := ih h.2 fuel (by simpa using hfuel)
          rw [unescape]
          · rw [hrest]
            rfl
          · exact fun heq => h.1 heq.symm

/-- The shape of a literal in plain quotes. -/
theorem shape_quotedChars {body : List Char} (hne : body ≠ [])
    (hbody : ∀ c ∈ body, c ∉ unquotable) : shape (quotedChars body) = ⟨false, false, false, body⟩ := by
  obtain ⟨a, tail, rfl⟩ := List.exists_cons_of_ne_nil hne
  have ha : ('\'' == a) = false := by
    have hplain := hbody a List.mem_cons_self
    simp only [unquotable, List.mem_cons, not_or] at hplain
    simpa using Ne.symm hplain.1
  obtain ⟨b, more, hmore⟩ : ∃ b more, tail ++ ['\''] = b :: more :=
    List.exists_cons_of_ne_nil (by simp)
  have hlength : more.length = tail.length := by
    have := congrArg List.length hmore
    simpa using this.symm
  unfold shape quotedChars
  rw [List.cons_append, hmore]
  simp [ha, hlength]
  rw [← hmore, List.take_left]

/-- **A literal in plain quotes stands for something.** -/
theorem node_quotedChars {body : List Char} (hne : body ≠ [])
    (hbody : ∀ c ∈ body, c ∉ unquotable) (compile : Nat → List Char → Except Nat Node)
    (here first : Nat) (t : Token) (ht : t.text = String.ofList (quotedChars body)) :
    ∃ n, node compile here first [t] = .ok n := by
  have hescape : '\\' ∉ body := fun hmem => hbody _ hmem (by decide)
  have hstep : Run.step compile here first ⟨⟨[], []⟩, false, none⟩ t
      = .ok ⟨⟨[], body.map .char⟩, false, some false⟩ := by
    unfold Run.step
    simp only [ht, String.toList_ofList, shape_quotedChars hne hbody]
    simp [decodeText, unescape_plain hescape _ (Nat.le_refl _), Gathered.add]
  refine ⟨.constant first (.text (.ofSigns (body.map .char))), ?_⟩
  unfold node
  rw [List.foldlM_cons, hstep]
  rfl

end CodeAudit.Source.Literal
