/-
  CodeAudit.Proofs.Source.Written
  ───────────────────────────────
  **WHAT IS WRITTEN IN ROWS IS SCANNED IN ROWS.**

  A generated text is a list of rows, and a row is a list of pieces: words,
  names, numbers, signs, literals in plain quotes, blanks and comments.
  Whether pieces may stand next to each other depends on their kinds and not
  on what they say, so `wellSet` computes it, and the brackets with it, for
  rows whose names are not known.

    • `Piece.scans` — a piece becomes its tokens,
    • `scans_pieces`, `Row.scans` — so do the pieces of a row, and a row,
    • `scan_rows` — the tokens of a text that is written in rows.
-/
import CodeAudit.Proofs.Source.Pieces

namespace CodeAudit.Source.Token

open CodeAudit.Text

/-! ## §1. Pieces. -/

/-- A name that is not reserved. -/
def isIdentifier (w : String) : Bool := isName w.toList && !reserved.contains w

/-- A text that can stand between plain quotes as it is. -/
def isQuotable (s : String) : Bool := s.toList.all fun c => !unquotable.contains c

/-- The characters that end a line or a text. -/
def breaking : List Char := ['\n', '\r', '\x00']

/-- A piece of a row. -/
inductive Piece where
  /-- A reserved word. -/
  | word (w : String)
  | name (w : String)
  | number (w : String)
  | sign (c : Char)
  /-- A literal in plain quotes. -/
  | literal (s : String)
  | blank
  | comment (s : String)

namespace Piece

/-- How a piece is written. -/
def chars : Piece → List Char
  | word w | name w | number w => w.toList
  | sign c => [c]
  | literal s => quotedChars s.toList
  | blank => [' ']
  | comment s => '#' :: s.toList

/-- The tokens that a piece is meant to be. -/
def lexemes : Piece → List (Kind × String)
  | word w => [(.fixed, w)]
  | name w => [(.name, compatible w)]
  | number w => [(.number, w)]
  | sign c => [(.fixed, String.singleton c)]
  | literal s => [(.literal, String.ofList (quotedChars s.toList))]
  | blank | comment _ => []

/-- A piece says what a piece of its kind may say. -/
def proper : Piece → Bool
  | word w => reserved.contains w
  | name w => isIdentifier w
  | number w => w.toList.all isAsciiDigit && w.toList.head?.any (· != '0')
  | sign c => signs.contains c
  | literal s => !s.toList.isEmpty && isQuotable s
  | blank => true
  | comment s => s.toList.all fun c => !breaking.contains c

/-- Ends a word or a name before it. -/
def divides : Piece → Bool
  | sign c => boundaries.contains c
  | blank => true
  | _ => false

/-- Goes on with no sign before it. -/
def partsSign : Option Piece → Bool
  | none | some blank | some (word _) | some (name _) => true
  | _ => false

/-- A piece may stand before the next one, or at the end of its row. -/
def meets : Piece → Option Piece → Bool
  | word _, next | name _, next => next.all divides
  | number _, some (sign c) => [',', ')', ']'].contains c
  | number _, _ => false
  | sign c, next => ['(', ')', '[', ']', ','].contains c || partsSign next
  | comment _, next => next.isNone
  | literal _, _ | blank, _ => true

/-- The open brackets behind a piece, innermost first. -/
def nest (opened : List Char) : Piece → Option (List Char)
  | sign c =>
      if c == '(' || c == '[' then if opened.length < maxDepth then some (c :: opened) else none
      else if c == ')' || c == ']' then
        match opened with
        | o :: outer => if closing o == c then some outer else none
        | [] => none
      else some opened
  | _ => some opened

/-- A row may begin with the piece. -/
def begins : Piece → Bool
  | word _ | name _ | sign _ => true
  | _ => false

end Piece

/-- Pieces may stand next to each other, and close the brackets that are open. -/
def wellSet (opened : List Char) : List Piece → Bool
  | [] => opened.isEmpty
  | p :: rest => p.meets rest.head? && (p.nest opened).any fun o => wellSet o rest

/-- What stands behind a piece: the next one, or the end of the row. -/
def Follows : Option Piece → List Char → Prop
  | none, rest => ∃ more, rest = '\n' :: more
  | some q, rest => q.proper = true ∧ ∃ more, rest = q.chars ++ more

/-! ## §2. Words and what divides them. -/

/-- The characters of a word or a name. -/
structure Spelled (w : String) (c : Char) (tail : List Char) : Prop where
  chars : w.toList = c :: tail
  opens : opensName c = true
  extends_ : ∀ d ∈ c :: tail, extendsName d = true

/-- Reserved words are spelled like names. -/
theorem spelled_of_reserved {w : String} (hw : reserved.contains w = true) :
    ∃ c tail, Spelled w c tail := by
  have hall : ∀ w ∈ reserved, w.toList ≠ [] ∧ w.toList.head?.all opensName = true ∧
      w.toList.all extendsName = true := by decide
  obtain ⟨hne, hopens, hextends⟩ := hall w (List.contains_iff_mem.mp hw)
  obtain ⟨c, tail, heq⟩ := List.exists_cons_of_ne_nil hne
  rw [heq] at hopens hextends
  exact ⟨c, tail, heq, by simpa using hopens, List.all_eq_true.mp hextends⟩

theorem spelled_of_isName {w : String} (hw : isName w.toList = true) :
    ∃ c tail, Spelled w c tail := by
  cases heq : w.toList with
  | nil =>
      rw [heq] at hw
      cases hw
  | cons c tail =>
      rw [heq] at hw
      exact ⟨c, tail, heq, opensName_of_isNameStart (Bool.and_eq_true_iff.mp hw).1,
        extendsName_of_isName hw⟩

/-- What divides words stands behind a word. -/
theorem Follows.bounded {next : Option Piece} {rest : List Char} (h : Follows next rest)
    (hnext : next.all Piece.divides = true) : Bounded rest := by
  cases next with
  | none =>
      obtain ⟨more, rfl⟩ := h
      exact ⟨'\n', more, rfl, by decide⟩
  | some q =>
      obtain ⟨-, more, rfl⟩ := h
      cases q with
      | sign c => exact ⟨c, more, rfl, List.contains_iff_mem.mp hnext⟩
      | blank => exact ⟨' ', more, rfl, by decide⟩
      | word | name | number | literal | comment => cases hnext

/-- A sign that is part of no longer operator: what may stand behind it. -/
theorem Follows.plain {c : Char} {next : Option Piece} {rest : List Char} (h : Follows next rest)
    (hc : c ∈ signs) (hnext : (Piece.sign c).meets next = true) :
    startsOperator c rest = false ∧ (c = '.' → rest.head?.any isAsciiDigit = false) := by
  -- Brackets and commas begin no longer operator, whatever stands behind them.
  by_cases hbracket : c ∈ ['(', ')', '[', ']', ',']
  · refine ⟨startsOperator_bracket hbracket rest, ?_⟩
    rintro rfl
    exact absurd hbracket (by decide)
  · have hsplit : ∀ c ∈ signs, c ∉ ['(', ')', '[', ']', ','] → c ∈ [':', '=', '.', '@'] :=
      forall_mem_of_all (by decide)
    -- Behind the sign stands the end of the row, a blank, or the first letter of a word.
    have hfirst : ∃ d more, rest = d :: more ∧ d ≠ '=' ∧ d ≠ '.' ∧ isAsciiDigit d = false := by
      have hword : ∀ {w : String} {more : List Char}, (∃ c tail, Spelled w c tail) →
          ∃ d after, w.toList ++ more = d :: after ∧ d ≠ '=' ∧ d ≠ '.' ∧ isAsciiDigit d = false := by
        rintro w more ⟨d, tail, hw⟩
        refine ⟨d, tail ++ more, by rw [hw.chars, List.cons_append], ?_, ?_, ?_⟩
        · rintro rfl
          exact absurd hw.opens (by decide)
        · rintro rfl
          exact absurd hw.opens (by decide)
        · rw [Bool.eq_false_iff]
          intro hdigit
          have hnone : ∀ d ∈ tenDigits, opensName d = false := forall_mem_of_all (by decide)
          exact absurd hw.opens (by rw [hnone d (mem_tenDigits hdigit)]; decide)
      have hplain : ['(', ')', '[', ']', ','].contains c = false := by
        rw [Bool.eq_false_iff]
        exact fun hmem => hbracket (List.contains_iff_mem.mp hmem)
      have hnext : (['(', ')', '[', ']', ','].contains c || Piece.partsSign next) = true := hnext
      rw [hplain, Bool.false_or] at hnext
      cases next with
      | none =>
          obtain ⟨more, rfl⟩ := h
          exact ⟨'\n', more, rfl, by decide, by decide, by decide⟩
      | some q =>
          obtain ⟨hproper, more, rfl⟩ := h
          cases q with
          | blank => exact ⟨' ', more, rfl, by decide, by decide, by decide⟩
          | word w => exact hword (spelled_of_reserved hproper)
          | name w => exact hword (spelled_of_isName (Bool.and_eq_true_iff.mp hproper).1)
          | number | sign | literal | comment => cases hnext
    obtain ⟨d, more, rfl, hequals, hpoint, hdigit⟩ := hfirst
    exact ⟨startsOperator_sign (hsplit c hc hbracket) hequals hpoint more, fun _ => hdigit⟩

/-- No word begins like a blank, a comment or the end of a line. -/
theorem Spelled.starts {w : String} {c : Char} {tail : List Char} (hw : Spelled w c tail) :
    c ∉ skipped := by
  intro hmem
  have hnone : ∀ c ∈ skipped, opensName c = false := forall_mem_of_all (by decide)
  exact absurd hw.opens (by rw [hnone c hmem]; decide)

/-! ## §3. One piece. -/

/-- A literal holds something, and nothing that it cannot hold as it is. -/
theorem plain_of_proper {s : String} (h : (Piece.literal s).proper = true) :
    s.toList ≠ [] ∧ ∀ c ∈ s.toList, c ∉ unquotable := by
  obtain ⟨hne, hbody⟩ := Bool.and_eq_true_iff.mp h
  exact ⟨by simpa using hne, by simpa [isQuotable] using hbody⟩

/-- A comment does not hold the end of its line. -/
theorem newline_not_mem_comment {s : String} (h : (Piece.comment s).proper = true) :
    '\n' ∉ s.toList :=
  fun hmem => absurd (List.all_eq_true.mp h _ hmem) (by decide)

/-- Words and names are scanned up to what divides them from the next piece. -/
theorem Spelled.scans {w : String} {c : Char} {tail : List Char} (hw : Spelled w c tail)
    {x : Kind × String} {rest : List Char}
    (hone : ∀ s : State, one s c (tail ++ rest) = .ok (s.push x.1 x.2, rest)) (v : View) :
    Scans false v (w.toList ++ rest) false (v.add x) rest := by
  rw [hw.chars]
  exact .token hw.starts (fun s hs => ⟨_, hone s, by rw [State.view_push, hs]⟩) (by simp)

/-- Tokens begin with signs. -/
theorem skipped_signs : ∀ c ∈ signs, c ∉ skipped := forall_mem_of_all (by decide)

/-- A sign is scanned as it is, and opens or closes brackets. -/
theorem scans_sign {c : Char} {next : Option Piece} {v : View} {opened rest : List Char}
    (hc : c ∈ signs) (hmeets : (Piece.sign c).meets next = true)
    (hnest : (Piece.sign c).nest v.opened = some opened) (hrest : Follows next rest) :
    Scans false v (c :: rest) false
      ⟨v.lexemes ++ [(.fixed, String.singleton c)], opened, v.indents⟩ rest := by
  obtain ⟨hoperator, hpoint⟩ := hrest.plain hc hmeets
  refine .token (skipped_signs c hc) (fun s hs => ?_) (Nat.le_refl _)
  subst hs
  rw [one_sign hc hoperator hpoint]
  unfold readSign
  dsimp only [Piece.nest] at hnest
  have hlength : s.view.opened.length = s.opened.length := List.length_map _
  by_cases hopening : (c == '(' || c == '[') = true
  · rw [if_pos hopening] at hnest ⊢
    by_cases hdepth : s.view.opened.length < maxDepth
    · rw [if_pos hdepth, Option.some.injEq] at hnest
      subst hnest
      rw [if_neg (by omega)]
      exact ⟨_, rfl, by rw [State.view_push]; rfl⟩
    · rw [if_neg hdepth] at hnest
      cases hnest
  · rw [if_neg hopening] at hnest ⊢
    by_cases hclosing : (c == ')' || c == ']') = true
    · rw [if_pos hclosing] at hnest ⊢
      cases hopened : s.opened with
      | nil =>
          have hview : s.view.opened = [] := by rw [State.view, hopened]; rfl
          rw [hview] at hnest
          cases hnest
      | cons o outer =>
          have hview : s.view.opened = o.1 :: outer.map (·.1) := by rw [State.view, hopened]; rfl
          rw [hview] at hnest
          by_cases hmatch : (closing o.1 == c) = true
          · simp only [hmatch, if_true, Option.some.injEq] at hnest
            subst hnest
            simp only [hmatch, if_true]
            exact ⟨_, rfl, by rw [State.view_push]; rfl⟩
          · simp only [hmatch] at hnest
            cases hnest
    · rw [if_neg hclosing] at hnest ⊢
      rw [Option.some.injEq] at hnest
      subst hnest
      exact ⟨_, rfl, by rw [State.view_push]; rfl⟩

/-- **A piece becomes its tokens.** -/
theorem Piece.scans {p : Piece} {next : Option Piece} {v : View} {opened rest : List Char}
    (hp : p.proper = true) (hmeets : p.meets next = true) (hnest : p.nest v.opened = some opened)
    (hrest : Follows next rest) :
    Scans false v (p.chars ++ rest) false ⟨v.lexemes ++ p.lexemes, opened, v.indents⟩ rest := by
  cases p with
  | word w =>
      cases hnest
      have hreserved : reserved.contains w = true := hp
      obtain ⟨c, tail, hw⟩ := spelled_of_reserved hreserved
      have hbounded := hrest.bounded hmeets
      refine hw.scans (x := (.fixed, w)) (fun s => ?_) v
      rw [one_word hw.opens hw.extends_ hbounded, ← hw.chars, String.ofList_toList,
        if_pos hreserved]
  | name w =>
      cases hnest
      obtain ⟨hname, hfree⟩ := Bool.and_eq_true_iff.mp hp
      obtain ⟨c, tail, hw⟩ := spelled_of_isName hname
      have hbounded := hrest.bounded hmeets
      refine hw.scans (x := (.name, compatible w)) (fun s => ?_) v
      rw [one_word hw.opens hw.extends_ hbounded, ← hw.chars, String.ofList_toList,
        if_neg (by simpa using hfree), if_pos hname]
  | number w =>
      cases hnest
      obtain ⟨hdigits, hzero⟩ := Bool.and_eq_true_iff.mp hp
      cases hw : w.toList with
      | nil =>
          rw [hw] at hzero
          cases hzero
      | cons d digits =>
          rw [hw] at hdigits hzero
          have hdigits := List.all_eq_true.mp hdigits
          have hfollow : ∃ c more, rest = c :: more ∧ c ∈ [',', ')', ']'] := by
            cases next with
            | none => cases hmeets
            | some q =>
                obtain ⟨-, more, rfl⟩ := hrest
                cases q with
                | sign c => exact ⟨c, more, rfl, List.contains_iff_mem.mp hmeets⟩
                | word | name | number | literal | blank | comment => cases hmeets
          have hone : ∀ s : State, one s d (digits ++ rest) = .ok (s.push .number w, rest) := by
            intro s
            rw [one_number hdigits (by simpa using hzero) hfollow, ← hw, String.ofList_toList]
          have hstart : ∀ d ∈ tenDigits, d ∉ skipped := forall_mem_of_all (by decide)
          show Scans false v (w.toList ++ rest) false _ rest
          rw [hw]
          exact .token (hstart d (mem_tenDigits (hdigits d List.mem_cons_self)))
            (fun s hs => ⟨_, hone s, by rw [State.view_push, hs]; rfl⟩) (by simp)
  | sign c => exact scans_sign (List.contains_iff_mem.mp hp) hmeets hnest hrest
  | literal s =>
      cases hnest
      obtain ⟨hne, hbody⟩ := plain_of_proper hp
      show Scans false v ('\'' :: (s.toList ++ ['\''] ++ rest)) false _ rest
      rw [List.append_assoc]
      refine .token (by decide) (fun t ht => ⟨_, one_literal hne hbody rest, ?_⟩) ?_
      · rw [← ht]
        simp [State.view, Piece.lexemes]
      · simp only [List.length_append, List.length_singleton]
        omega
  | blank =>
      cases hnest
      show Scans false v (' ' :: rest) false ⟨v.lexemes ++ [], v.opened, v.indents⟩ rest
      rw [List.append_nil]
      exact .blank v rest
  | comment s =>
      cases hnest
      cases next with
      | some q => cases hmeets
      | none =>
          obtain ⟨more, rfl⟩ := hrest
          show Scans false v ('#' :: (s.toList ++ '\n' :: more)) false
            ⟨v.lexemes ++ [], v.opened, v.indents⟩ _
          rw [List.append_nil]
          exact .comment v (newline_not_mem_comment hp) more

/-! ## §4. Rows. -/

/-- **The pieces of a row become their tokens.** -/
theorem scans_pieces {ps : List Piece} {v : View} (hproper : ∀ p ∈ ps, p.proper = true)
    (hset : wellSet v.opened ps = true) (rest : List Char) :
    Scans false v (ps.flatMap Piece.chars ++ '\n' :: rest) false
      ⟨v.lexemes ++ ps.flatMap Piece.lexemes, [], v.indents⟩ ('\n' :: rest) := by
  -- The view is general: each piece leaves more tokens and other brackets to the next one.
  induction ps generalizing v with
  | nil =>
      have hopened : v.opened = [] := List.isEmpty_iff.mp hset
      show Scans false v ('\n' :: rest) false ⟨v.lexemes ++ [], [], v.indents⟩ _
      rw [List.append_nil, ← hopened]
      exact .refl _ _ _
  | cons p ps ih =>
      obtain ⟨hmeets, hrest⟩ := Bool.and_eq_true_iff.mp hset
      obtain ⟨opened, hnest, hset⟩ := (Option.any_eq_true _ _).mp hrest
      have hfollows : Follows ps.head? (ps.flatMap Piece.chars ++ '\n' :: rest) := by
        cases ps with
        | nil => exact ⟨rest, rfl⟩
        | cons q more =>
            refine ⟨hproper q (by simp), more.flatMap Piece.chars ++ '\n' :: rest, ?_⟩
            rw [List.flatMap_cons, List.append_assoc]
      have hfirst := Piece.scans (hproper p List.mem_cons_self) hmeets hnest hfollows
      have hmore := ih (v := ⟨v.lexemes ++ p.lexemes, opened, v.indents⟩)
        (fun q hq => hproper q (List.mem_cons_of_mem p hq)) hset
      rw [List.flatMap_cons, List.flatMap_cons, List.append_assoc, ← List.append_assoc v.lexemes]
      exact hfirst.trans hmore

/-- A row of a text: code on one of two levels, or nothing that counts. -/
inductive Row where
  | empty
  | remark (s : String)
  | code (deep : Bool) (pieces : List Piece)

/-- The blanks before a row. -/
def margin : Bool → List Char
  | false => []
  | true => [' ', ' ', ' ', ' ']

/-- How wide they are. -/
def marginMeasure : Bool → Measure
  | false => ⟨0, 0⟩
  | true => ⟨4, 4⟩

/-- The indentations in force on a level. -/
def indentsOf : Bool → List Measure
  | false => [⟨0, 0⟩]
  | true => [⟨4, 4⟩, ⟨0, 0⟩]

/-- The tokens between a level and the level of the next row. -/
def marks : Bool → Bool → List (Kind × String)
  | false, true => [(.indent, "")]
  | true, false => [(.dedent, "")]
  | false, false | true, true => []

namespace Row

/-- How a row is written. -/
def chars : Row → List Char
  | empty => ['\n']
  | remark s => '#' :: (s.toList ++ ['\n'])
  | code deep ps => margin deep ++ (ps.flatMap Piece.chars ++ ['\n'])

/-- A row is well made. -/
def proper : Row → Bool
  | empty => true
  | remark s => (Piece.comment s).proper
  | code _ ps => ps.all Piece.proper && wellSet [] ps && ps.head?.any Piece.begins

/-- The level behind a row. -/
def levelAfter (deep : Bool) : Row → Bool
  | code deep' _ => deep'
  | _ => deep

/-- The tokens of a row behind a level. -/
def lexemes (deep : Bool) : Row → List (Kind × String)
  | code deep' ps => marks deep deep' ++ (ps.flatMap Piece.lexemes ++ [(.newline, "")])
  | _ => []

end Row

/-- Taking up a level. -/
theorem layout_margin {s : State} {deep : Bool} (hs : s.indents = indentsOf deep) (deep' : Bool) :
    ∃ t, layout (marginMeasure deep') s = .ok t ∧
      t.view = ⟨s.view.lexemes ++ marks deep deep', s.view.opened, indentsOf deep'⟩ := by
  have hview : s.view = ⟨s.view.lexemes, s.view.opened, indentsOf deep⟩ := by rw [← hs]; rfl
  cases deep with
  | false =>
      cases deep' with
      | false =>
          refine ⟨s, ?_, by rw [marks, List.append_nil]; exact hview⟩
          simp [layout, hs, marginMeasure, indentsOf]
      | true =>
          refine ⟨{ s with indents := indentsOf true }.push .indent "", ?_, ?_⟩
          · simp [layout, hs, marginMeasure, indentsOf, maxIndents]
          · rw [State.view_push]
            rfl
  | true =>
      cases deep' with
      | false =>
          refine ⟨{ s.push .dedent "" with indents := indentsOf false }, ?_, ?_⟩
          · simp [layout, hs, marginMeasure, indentsOf, closeIndents]
          · have hpush := State.view_push s .dedent ""
            rw [View.add] at hpush
            show (⟨(s.push .dedent "").view.lexemes, _, _⟩ : View) = _
            rw [hpush]
            rfl
      | true =>
          refine ⟨s, ?_, by rw [marks, List.append_nil]; exact hview⟩
          simp [layout, hs, marginMeasure, indentsOf]

/-- The blanks before a row are measured. -/
theorem measure_margin {c : Char} (hc : c ∉ skipped) (deep : Bool)
    (line : Nat) (more : List Char) :
    measure ⟨0, 0⟩ 0 line (margin deep ++ c :: more)
      = .at (marginMeasure deep) (c :: more) line := by
  simp only [skipped, List.mem_cons, List.not_mem_nil, or_false, not_or] at hc
  cases deep <;> simp [margin, measure, marginMeasure, hc]

/-- The start of a row of code. -/
theorem scans_margin {c : Char} (hc : c ∉ skipped) (deep deep' : Bool)
    (xs : List (Kind × String)) (more : List Char) :
    Scans true ⟨xs, [], indentsOf deep⟩ (margin deep' ++ c :: more) false
      ⟨xs ++ marks deep deep', [], indentsOf deep'⟩ (c :: more) := by
  intro s hs
  have hopened : s.opened.isEmpty = true :=
    List.isEmpty_iff.mpr (List.map_eq_nil_iff.mp (congrArg View.opened hs))
  obtain ⟨t, hlayout, ht⟩ := layout_margin (congrArg View.indents hs) deep'
  refine ⟨t, 1, by rw [ht, hs], ?_, fun fuel => ?_⟩
  · simp only [steps, List.length_append, Bool.toNat_false, Bool.toNat_true]
    omega
  · have hmeasure := measure_margin hc deep' s.line more
    simp only [skipped, List.mem_cons, List.not_mem_nil, or_false, not_or] at hc
    conv_lhs => unfold run
    simp [hmeasure, hc, hopened, hlayout]

/-- A row without code: nothing, or a remark. -/
theorem scans_remark (v : View) {text : List Char} (htext : '\n' ∉ text)
    (hfirst : text.head?.all (· == '#') = true) (rest : List Char) :
    Scans true v (text ++ '\n' :: rest) true v rest := by
  intro s hs
  have hdrop := dropWhile_line htext rest
  -- Either way the row is found to hold nothing by its first character.
  obtain ⟨c, more, hcs, hc⟩ : ∃ c more, text ++ '\n' :: rest = c :: more ∧ (c = '#' ∨ c = '\n') := by
    cases text with
    | nil => exact ⟨'\n', rest, rfl, .inr rfl⟩
    | cons c tail => exact ⟨c, tail ++ '\n' :: rest, rfl, .inl (by simpa using hfirst)⟩
  have hmeasure : measure ⟨0, 0⟩ 0 s.line (c :: more) = .at ⟨0, 0⟩ (c :: more) s.line := by
    rcases hc with rfl | rfl <;> simp [measure]
  have hskipped : (c == '#' || c == '\n') = true := by
    rcases hc with rfl | rfl <;> rfl
  refine ⟨{ s with line := nextLine '\n' rest s.line }, 1, hs, ?_, fun fuel => ?_⟩
  · simp only [steps, List.length_append, List.length_cons, Bool.toNat_true]
    omega
  · rw [hcs] at hdrop ⊢
    conv_lhs => unfold run
    simp only [hmeasure, hskipped, hdrop, if_true, List.drop_one, List.tail_cons]

/-- A row that begins with a piece of code begins with a character of it. -/
theorem starts_of_begins {p : Piece} (hproper : p.proper = true) (hbegins : p.begins = true)
    (rest : List Char) :
    ∃ c more, p.chars ++ rest = c :: more ∧ c ∉ skipped := by
  have hspelled : ∀ {w : String}, (∃ c tail, Spelled w c tail) →
      ∃ c more, w.toList ++ rest = c :: more ∧ c ∉ skipped := by
    rintro w ⟨c, tail, hw⟩
    exact ⟨c, tail ++ rest, by rw [hw.chars, List.cons_append], hw.starts⟩
  cases p with
  | word w => exact hspelled (spelled_of_reserved hproper)
  | name w => exact hspelled (spelled_of_isName (Bool.and_eq_true_iff.mp hproper).1)
  | sign c =>
      exact ⟨c, rest, rfl, skipped_signs c (List.contains_iff_mem.mp hproper)⟩
  | number | literal | blank | comment => cases hbegins

/-- **A row becomes its tokens.** -/
theorem Row.scans {r : Row} (h : r.proper = true) (deep : Bool) (xs : List (Kind × String))
    (rest : List Char) :
    Scans true ⟨xs, [], indentsOf deep⟩ (r.chars ++ rest) true
      ⟨xs ++ r.lexemes deep, [], indentsOf (r.levelAfter deep)⟩ rest := by
  cases r with
  | empty =>
      show Scans true _ ('\n' :: rest) true ⟨xs ++ [], _, _⟩ rest
      rw [List.append_nil]
      exact scans_remark _ List.not_mem_nil rfl rest
  | remark s =>
      show Scans true _ ('#' :: (s.toList ++ ['\n'] ++ rest)) true ⟨xs ++ [], _, _⟩ rest
      rw [List.append_nil, List.append_assoc, ← List.cons_append]
      refine scans_remark _ (fun hmem => ?_) rfl rest
      rcases List.mem_cons.mp hmem with heq | hmem
      · exact absurd heq (by decide)
      · exact newline_not_mem_comment h hmem
  | code deep' ps =>
      obtain ⟨hboth, hbegins⟩ := Bool.and_eq_true_iff.mp h
      obtain ⟨hproper, hset⟩ := Bool.and_eq_true_iff.mp hboth
      have hproper := List.all_eq_true.mp hproper
      have hchars : (Row.code deep' ps).chars ++ rest
          = margin deep' ++ (ps.flatMap Piece.chars ++ '\n' :: rest) := by
        simp [Row.chars]
      -- The margin, the pieces, and the end of the row.
      have hmargin : Scans true ⟨xs, [], indentsOf deep⟩
          (margin deep' ++ (ps.flatMap Piece.chars ++ '\n' :: rest)) false
          ⟨xs ++ marks deep deep', [], indentsOf deep'⟩ (ps.flatMap Piece.chars ++ '\n' :: rest) := by
        cases ps with
        | nil => cases hbegins
        | cons p more =>
            obtain ⟨c, after, heq, hc⟩ := starts_of_begins (hproper p List.mem_cons_self) hbegins
              (more.flatMap Piece.chars ++ '\n' :: rest)
            rw [List.flatMap_cons, List.append_assoc, heq]
            exact scans_margin hc deep deep' xs after
      have hpieces := scans_pieces (v := ⟨xs ++ marks deep deep', [], indentsOf deep'⟩) hproper hset rest
      have hend := Scans.newline
        (v := ⟨xs ++ marks deep deep' ++ ps.flatMap Piece.lexemes, [], indentsOf deep'⟩) rfl rest
      have hview : (⟨xs ++ (Row.code deep' ps).lexemes deep, [],
          indentsOf ((Row.code deep' ps).levelAfter deep)⟩ : View)
          = View.add ⟨xs ++ marks deep deep' ++ ps.flatMap Piece.lexemes, [], indentsOf deep'⟩
            (.newline, "") := by
        simp [View.add, Row.lexemes, Row.levelAfter]
      rw [hchars, hview]
      exact (hmargin.trans hpieces).trans hend

/-! ## §5. Texts. -/

/-- The tokens of rows behind a level, up to the end of the text. -/
def written (deep : Bool) : List Row → List (Kind × String)
  | [] => marks deep false ++ [(.finish, "")]
  | r :: rows => r.lexemes deep ++ written (r.levelAfter deep) rows

/-- Rows become their tokens one by one, and the text ends behind them. -/
theorem run_rows {rows : List Row} (h : ∀ r ∈ rows, r.proper = true) (deep : Bool) {s : State}
    (hopened : s.view.opened = []) (hindents : s.indents = indentsOf deep) {fuel : Nat}
    (hfuel : steps true (rows.flatMap Row.chars) ≤ fuel) :
    (run fuel true s (rows.flatMap Row.chars)).all.toList.map (fun t => (t.kind, t.text))
      = s.view.lexemes ++ written deep rows := by
  induction rows generalizing deep s fuel with
  | nil =>
      obtain ⟨t, hlayout, ht⟩ := layout_margin hindents false
      have hempty : s.opened.isEmpty = true :=
        List.isEmpty_iff.mpr (List.map_eq_nil_iff.mp hopened)
      have hpush := congrArg View.lexemes (State.view_push t .finish "")
      cases fuel with
      | zero => exact absurd hfuel (by simp [steps])
      | succ fuel =>
          have hrun : run (fuel + 1) true s [] = ⟨(t.push .finish "").tokens, none⟩ := by
            conv_lhs => unfold run
            have hlayout : layout ⟨0, 0⟩ s = .ok t := hlayout
            simp [measure, hempty, hlayout]
          rw [List.flatMap_nil, hrun]
          refine hpush.trans ?_
          rw [View.add, ht, written, List.append_assoc]
  | cons r rows ih =>
      obtain ⟨t, k, ht, hk, hrun⟩ := Row.scans (h r List.mem_cons_self) deep s.view.lexemes
        (rows.flatMap Row.chars) s (by rw [State.view] at hopened ⊢; simp_all)
      rw [List.flatMap_cons] at hfuel ⊢
      -- The row takes no more steps than are its own, so the rest has enough of them left.
      obtain ⟨left, rfl⟩ : ∃ left, fuel = left + k := ⟨fuel - k, by omega⟩
      rw [hrun]
      rw [ih (fun q hq => h q (List.mem_cons_of_mem r hq)) (r.levelAfter deep)
        (congrArg View.opened ht) (congrArg View.indents ht) (by omega), ht, written,
        List.append_assoc]

/-- No piece holds the end of a line or of a text. -/
theorem Piece.clean {p : Piece} (h : p.proper = true) : ∀ c ∈ p.chars, c ∉ breaking := by
  have hspelled : ∀ {w : String}, (∃ c tail, Spelled w c tail) → ∀ c ∈ w.toList, c ∉ breaking := by
    rintro w ⟨first, tail, hw⟩ c hc hmem
    have hnone : ∀ c ∈ breaking, extendsName c = false := forall_mem_of_all (by decide)
    have hextends := hw.extends_ c (hw.chars ▸ hc)
    rw [hnone c hmem] at hextends
    cases hextends
  cases p with
  | word w => exact hspelled (spelled_of_reserved h)
  | name w => exact hspelled (spelled_of_isName (Bool.and_eq_true_iff.mp h).1)
  | number w =>
      intro c hc hmem
      have hnone : ∀ c ∈ breaking, isAsciiDigit c = false := forall_mem_of_all (by decide)
      have hdigit := List.all_eq_true.mp (Bool.and_eq_true_iff.mp h).1 c hc
      rw [hnone c hmem] at hdigit
      cases hdigit
  | sign c =>
      intro d hd
      have hsigns : ∀ c ∈ signs, c ∉ breaking := forall_mem_of_all (by decide)
      exact List.mem_singleton.mp hd ▸ hsigns c (List.contains_iff_mem.mp h)
  | literal s =>
      intro c hc hmem
      have hquote : '\'' ∉ breaking := by decide
      have hsubset : ∀ c ∈ breaking, c ∈ unquotable := forall_mem_of_all (by decide)
      simp only [chars, quotedChars, List.mem_cons, List.mem_append, List.not_mem_nil,
        or_false] at hc
      rcases hc with rfl | hc | rfl
      · exact hquote hmem
      · exact (plain_of_proper h).2 c hc (hsubset c hmem)
      · exact hquote hmem
  | blank =>
      intro c hc
      exact List.mem_singleton.mp hc ▸ by decide
  | comment s =>
      intro c hc hmem
      rcases List.mem_cons.mp hc with rfl | hc
      · exact absurd hmem (by decide)
      · have hplain := List.all_eq_true.mp h c hc
        rw [List.contains_iff_mem.mpr hmem] at hplain
        cases hplain

/-- A row holds no end of a line but its own. -/
theorem Row.clean {r : Row} (h : r.proper = true) : ∃ front, r.chars = front ++ ['\n'] ∧
    ∀ c ∈ front, c ∉ breaking := by
  cases r with
  | empty => exact ⟨[], rfl, nofun⟩
  | remark s => exact ⟨'#' :: s.toList, rfl, Piece.clean (p := .comment s) h⟩
  | code deep ps =>
      obtain ⟨hboth, -⟩ := Bool.and_eq_true_iff.mp h
      have hproper := List.all_eq_true.mp (Bool.and_eq_true_iff.mp hboth).1
      refine ⟨margin deep ++ ps.flatMap Piece.chars, (List.append_assoc _ _ _).symm, ?_⟩
      intro c hc
      rcases List.mem_append.mp hc with hc | hc
      · have hmargin : ∀ c ∈ margin deep, c ∉ breaking :=
          forall_mem_of_all (by cases deep <;> decide)
        exact hmargin c hc
      · obtain ⟨p, hp, hc⟩ := List.mem_flatMap.mp hc
        exact Piece.clean (hproper p hp) c hc

/-- The characters of rows are no others than line feeds and the characters of their lines. -/
theorem mem_rows {rows : List Row} (h : ∀ r ∈ rows, r.proper = true) {c : Char}
    (hc : c ∈ rows.flatMap Row.chars) : c ≠ '\r' ∧ c ≠ '\x00' := by
  obtain ⟨r, hr, hc⟩ := List.mem_flatMap.mp hc
  obtain ⟨front, heq, hclean⟩ := Row.clean (h r hr)
  rw [heq, List.mem_append, List.mem_singleton] at hc
  rcases hc with hc | rfl
  · have := hclean c hc
    simp only [breaking, List.mem_cons, List.not_mem_nil, or_false, not_or] at this
    exact this.2
  · decide

/-- **The tokens of a text that is written in rows.** -/
theorem scan_rows {rows : List Row} (h : ∀ r ∈ rows, r.proper = true) (hne : rows ≠ [])
    (line : Nat) :
    (scan line (rows.flatMap Row.chars)).all.toList.map (fun t => (t.kind, t.text))
      = written false rows := by
  have hunified : unifyNewlines (rows.flatMap Row.chars) = rows.flatMap Row.chars :=
    unifyNewlines_of_clean fun hmem => (mem_rows h hmem).1 rfl
  have hlast : (rows.flatMap Row.chars).getLast? = some '\n' := by
    obtain ⟨front, last, rfl⟩ : ∃ front last, rows = front ++ [last] :=
      ⟨rows.dropLast, rows.getLast hne, (List.dropLast_append_getLast hne).symm⟩
    obtain ⟨line, heq, -⟩ := Row.clean (h last (by simp))
    rw [List.flatMap_append, List.flatMap_singleton, heq, ← List.append_assoc,
      List.getLast?_concat]
  unfold scan
  simp only [hunified, hlast, BEq.rfl, if_true]
  refine (run_rows h false rfl rfl ?_).trans (List.nil_append _)
  simp only [steps, Bool.toNat_true]
  omega

end CodeAudit.Source.Token
