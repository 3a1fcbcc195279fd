/-
  CodeAudit.Proofs.Source.Tokens
  ──────────────────────────────
  **TOKENS STAY WITHIN THE LINES OF THEIR TEXT.**

  A scan moves to the next line at a line feed, unless the text ends there.
  So a text on a line has as many lines ahead of it as it has line feeds
  before its last character (`room`), and no token is found beyond them.

  The lines that are allowed are a predicate `L`.  A text keeps ahead of it
  only allowed lines (`Ahead`); what is left after a token keeps them too.

    • `fits_one` — one token,
    • `fits_run` — all tokens of a scan,
    • `fits_scan` — the tokens of a text, from the line it starts on.
-/
import CodeAudit.Source.Token.Scan
import Mathlib.Data.List.Basic

namespace CodeAudit.Source

/-- A token on allowed lines.  A literal spans its line feeds, and holds no
carriage return. -/
structure Token.Fits (L : Nat → Prop) (t : Token) : Prop where
  line : L t.line
  spans : t.kind = .literal → ∀ k ≤ t.text.toList.count '\n', L (t.line + k)
  clean : t.kind = .literal → '\r' ∉ t.text.toList

namespace Token

open CodeAudit.Text

variable {L : Nat → Prop}

/-! ## §1. Lines ahead. -/

/-- The number of line feeds that start a new line. -/
def room (cs : List Char) : Nat := cs.dropLast.count '\n'

theorem room_cons_of_ne {c : Char} (h : c ≠ '\n') (rest : List Char) :
    room (c :: rest) = room rest := by
  cases rest with
  | nil => rfl
  | cons d more =>
      show (c :: (d :: more).dropLast).count '\n' = _
      rw [List.count_cons_of_ne h]
      rfl

theorem room_newline {rest : List Char} (h : rest ≠ []) : room ('\n' :: rest) = room rest + 1 := by
  cases rest with
  | nil => exact absurd rfl h
  | cons d more =>
      show ('\n' :: (d :: more).dropLast).count '\n' = _
      rw [List.count_cons_self]
      rfl

/-- Moving over a character uses up the room that it takes. -/
theorem nextLine_add_room (c : Char) (rest : List Char) (line : Nat) :
    nextLine c rest line + room rest = line + room (c :: rest) := by
  unfold nextLine
  by_cases hc : c = '\n'
  · subst hc
    cases rest with
    | nil => rfl
    | cons d more =>
        rw [room_newline (List.cons_ne_nil d more)]
        simp only [BEq.rfl, List.isEmpty_cons, Bool.not_false, Bool.and_self, if_true]
        omega
  · have hb : (c == '\n') = false := by simpa using hc
    rw [hb, room_cons_of_ne hc]
    rfl

theorem le_nextLine (c : Char) (rest : List Char) (line : Nat) : line ≤ nextLine c rest line := by
  unfold nextLine
  split <;> omega

/-- What is left has no more room. -/
theorem room_le_of_suffix {rest cs : List Char} (h : rest <:+ cs) : room rest ≤ room cs := by
  obtain ⟨front, rfl⟩ := h
  cases rest with
  | nil => exact Nat.zero_le _
  | cons c more =>
      unfold room
      rw [List.dropLast_append_of_ne_nil (List.cons_ne_nil c more), List.count_append]
      omega

/-- What ends in no line feed takes room for all its line feeds. -/
theorem count_le_room {text : List Char} {q : Char} (hlast : text.getLast? = some q) (hq : q ≠ '\n')
    (rest : List Char) : text.count '\n' ≤ room (text ++ rest) := by
  obtain ⟨front, rfl⟩ := List.getLast?_eq_some_iff.mp hlast
  have hsplit : (front ++ [q] ++ rest).dropLast = front ++ (q :: rest).dropLast := by
    rw [List.append_assoc, List.singleton_append,
      List.dropLast_append_of_ne_nil (List.cons_ne_nil q rest)]
  unfold room
  rw [hsplit, List.count_append, List.count_append, List.count_singleton]
  have hb : (q == '\n') = false := by simpa using hq
  rw [hb]
  simp

/-- The lines from here on are allowed. -/
def Ahead (L : Nat → Prop) (line : Nat) (cs : List Char) : Prop := ∀ k ≤ room cs, L (line + k)

theorem Ahead.here {line : Nat} {cs : List Char} (h : Ahead L line cs) : L line :=
  h 0 (Nat.zero_le _)

/-- Going on uses up room. -/
theorem Ahead.later {line line' : Nat} {cs rest : List Char} (h : Ahead L line cs)
    (hline : line ≤ line') (hroom : line' + room rest ≤ line + room cs) : Ahead L line' rest := by
  intro k hk
  have hlater := h (line' - line + k) (by omega)
  rwa [show line + (line' - line + k) = line' + k from by omega] at hlater

/-- Going on on the same line. -/
theorem Ahead.suffix {line : Nat} {cs rest : List Char} (h : Ahead L line cs) (hs : rest <:+ cs) :
    Ahead L line rest :=
  h.later (Nat.le_refl line) (Nat.add_le_add_left (room_le_of_suffix hs) line)

/-! ## §2. What is left after a number. -/

theorem suffix_afterDigits {ok : Char → Bool} {cs rest : List Char}
    (h : afterDigits ok cs = some rest) : rest <:+ cs := by
  fun_induction afterDigits ok cs with
  | case1 =>
      cases h
      exact List.suffix_refl _
  | case2 c tail hc ih => exact (ih h).trans (List.suffix_cons c tail)
  | case3 c hc hu d more hd ih =>
      exact ((ih h).trans (List.suffix_cons d more)).trans (List.suffix_cons c _)
  | case4 => cases h
  | case5 => cases h
  | case6 c tail hc hu =>
      cases h
      exact List.suffix_refl _

theorem suffix_closed {cs rest : List Char} (h : closed cs = some rest) : rest <:+ cs := by
  unfold closed at h
  split at h
  · cases h
    exact List.suffix_refl _
  · cases h

theorem suffix_afterImaginary {cs rest : List Char} (h : afterImaginary cs = some rest) :
    rest <:+ cs := by
  unfold afterImaginary at h
  split at h
  · exact (suffix_closed h).trans (List.suffix_cons _ _)
  · exact (suffix_closed h).trans (List.suffix_cons _ _)
  · exact suffix_closed h

/-- One part of a number after another. -/
theorem suffix_bind {first next : List Char → Option (List Char)} {cs rest : List Char}
    (hfirst : ∀ {a b}, first a = some b → b <:+ a) (hnext : ∀ {a b}, next a = some b → b <:+ a)
    (h : (first cs).bind next = some rest) : rest <:+ cs := by
  obtain ⟨middle, hmiddle, hrest⟩ := Option.bind_eq_some_iff.mp h
  exact (hnext hrest).trans (hfirst hmiddle)

theorem suffix_digitsThenImaginary {cs rest : List Char}
    (h : (afterDigits isAsciiDigit cs).bind afterImaginary = some rest) : rest <:+ cs :=
  suffix_bind suffix_afterDigits suffix_afterImaginary h

theorem suffix_afterExponent {cs rest : List Char} (h : afterExponent cs = some rest) :
    rest <:+ cs := by
  unfold afterExponent at h
  split at h
  · rename_i e more
    split at h
    · -- An exponent: its mark, perhaps a sign, and digits.
      have hmark : more <:+ e :: more := List.suffix_cons e more
      split at h
      · rename_i d r
        split at h
        · have hsign : r <:+ '+' :: d :: r := ⟨['+', d], rfl⟩
          exact ((suffix_digitsThenImaginary h).trans hsign).trans hmark
        · cases h
      · rename_i d r
        split at h
        · have hsign : r <:+ '-' :: d :: r := ⟨['-', d], rfl⟩
          exact ((suffix_digitsThenImaginary h).trans hsign).trans hmark
        · cases h
      · cases h
      · cases h
      · rename_i d r _ _ _ _
        split at h
        · exact ((suffix_digitsThenImaginary h).trans (List.suffix_cons d r)).trans hmark
        · exact suffix_closed h
      · exact suffix_closed h
    · exact suffix_afterImaginary h
  · cases h
    exact List.suffix_refl _

theorem suffix_afterFraction {cs rest : List Char} (h : afterFraction cs = some rest) :
    rest <:+ cs := by
  unfold afterFraction at h
  split at h
  · rename_i d more
    split at h
    · exact (suffix_bind suffix_afterDigits suffix_afterExponent h).trans (List.suffix_cons d more)
    · exact suffix_afterExponent h
  · cases h
    exact List.suffix_refl _

theorem suffix_afterBased {ok : Char → Bool} {cs rest : List Char}
    (h : afterBased ok cs = some rest) : rest <:+ cs := by
  unfold afterBased at h
  split at h
  · split at h
    · refine suffix_bind suffix_afterDigits ?_ h
      intro a b hb
      split at hb
      · cases hb
      · exact suffix_closed hb
    · cases h
  · cases h

theorem suffix_afterDecimal {cs rest : List Char} (h : afterDecimal cs = some rest) :
    rest <:+ cs := by
  unfold afterDecimal at h
  obtain ⟨middle, hmiddle, hrest⟩ := Option.bind_eq_some_iff.mp h
  refine List.IsSuffix.trans ?_ (suffix_afterDigits hmiddle)
  simp only at hrest
  split at hrest
  · rename_i more
    exact (suffix_afterFraction hrest).trans (List.suffix_cons '.' more)
  · exact suffix_afterExponent hrest
  · exact suffix_afterExponent hrest
  · exact suffix_afterImaginary hrest
  · exact suffix_afterImaginary hrest
  · split at hrest
    · cases hrest
    · exact suffix_closed hrest

/-- **What follows a number is an end of the text.** -/
theorem suffix_afterNumber {cs rest : List Char} (h : afterNumber cs = some rest) : rest <:+ cs := by
  unfold afterNumber at h
  split at h
  · exact (suffix_afterFraction h).trans (List.suffix_cons '.' _)
  · exact (suffix_afterBased h).trans ⟨['0', 'x'], rfl⟩
  · exact (suffix_afterBased h).trans ⟨['0', 'X'], rfl⟩
  · exact (suffix_afterBased h).trans ⟨['0', 'o'], rfl⟩
  · exact (suffix_afterBased h).trans ⟨['0', 'O'], rfl⟩
  · exact (suffix_afterBased h).trans ⟨['0', 'b'], rfl⟩
  · exact (suffix_afterBased h).trans ⟨['0', 'B'], rfl⟩
  · exact suffix_afterDecimal h

/-! ## §3. Literals. -/

/-- The letters of a literal stand before a quote. -/
theorem literalLetters_go {seen cs : List Char} {n m : Nat}
    (h : literalLetters.go seen cs n = some m) :
    ∃ q rest, cs.drop (m - n) = q :: rest ∧ n ≤ m ∧ q ≠ '\n' := by
  fun_induction literalLetters.go seen cs n with
  | case1 => cases h
  | case2 seen c more n hquote =>
      cases h
      refine ⟨c, more, ?_, Nat.le_refl _, ?_⟩
      · rw [Nat.sub_self]
        rfl
      · rintro rfl
        exact absurd hquote (by decide)
  | case3 seen c more n hquote small fits hfits ih =>
      obtain ⟨q, rest, hdrop, hle, hq⟩ := ih h
      refine ⟨q, rest, ?_, by omega, hq⟩
      rw [show m - n = (m - (n + 1)) + 1 from by omega]
      exact hdrop
  | case4 => cases h

theorem drop_literalLetters {cs : List Char} {n : Nat} (h : literalLetters cs = some n) :
    ∃ q rest, cs.drop n = q :: rest ∧ q ≠ '\n' := by
  obtain ⟨q, rest, hdrop, -, hq⟩ := literalLetters_go h
  exact ⟨q, rest, hdrop, hq⟩

/-- A literal that has used up the front of a text: what it holds, last
character first, and the lines it has moved to. -/
structure BodyRead (q : Char) (seen cs text rest : List Char) (line last : Nat) : Prop where
  front : ∃ used, text = used.reverse ++ seen ∧ cs = used ++ rest ∧ used.getLast? = some q
  line_le : line ≤ last
  room_le : last + room rest ≤ line + room cs

/-- A literal that is read may have one more character in front. -/
theorem BodyRead.cons {q c : Char} {seen cs text rest : List Char} {line next last : Nat}
    (h : BodyRead q (c :: seen) cs text rest next last) (hle : line ≤ next)
    (hroom : next + room cs ≤ line + room (c :: cs)) :
    BodyRead q seen (c :: cs) text rest line last := by
  obtain ⟨⟨used, htext, hcs, hlast⟩, hline, hrest⟩ := h
  refine ⟨⟨c :: used, ?_, ?_, ?_⟩, Nat.le_trans hle hline, Nat.le_trans hrest hroom⟩
  · rw [htext, List.reverse_cons, List.append_assoc, List.singleton_append]
  · rw [hcs, List.cons_append]
  · rw [List.getLast?_cons, hlast]
    rfl

/-- **The body of a literal is the front of the text, up to a quote.** -/
theorem bodyRead_literalBody {q : Char} {triple : Bool} {seen cs text rest : List Char}
    {line last : Nat} (h : literalBody q triple seen line cs = some (text, rest, last)) :
    BodyRead q seen cs text rest line last := by
  fun_induction literalBody q triple seen line cs with
  | case1 => cases h
  | case2 seen line c more ih =>
      -- A backslash and what it escapes.
      have hnext := nextLine_add_room c more line
      have hbackslash : room ('\\' :: c :: more) = room (c :: more) := room_cons_of_ne (by decide) _
      exact ((ih h).cons (le_nextLine c more line) (Nat.le_of_eq hnext)).cons (Nat.le_refl line)
        (by omega)
  | case3 => cases h
  | case4 seen line c hc _ a b more hab _ _ =>
      cases h
      rw [Bool.and_eq_true, beq_iff_eq, beq_iff_eq] at hab
      refine ⟨⟨[c, a, b], rfl, rfl, ?_⟩, Nat.le_refl _, ?_⟩
      · rw [hab.2]
        rfl
      · exact Nat.add_le_add_left (room_le_of_suffix ⟨[c, a, b], rfl⟩) _
  | case5 seen line c hc _ a b more hab _ _ ih =>
      exact (ih h).cons (Nat.le_refl line)
        (Nat.add_le_add_left (room_le_of_suffix (List.suffix_cons c _)) _)
  | case6 => cases h
  | case7 seen line c more _ _ hc _ =>
      cases h
      rw [beq_iff_eq] at hc
      subst hc
      exact ⟨⟨[c], rfl, rfl, rfl⟩, Nat.le_refl _,
        Nat.add_le_add_left (room_le_of_suffix (List.suffix_cons c _)) _⟩
  | case8 => cases h
  | case9 seen line c more _ _ _ _ ih =>
      exact (ih h).cons (le_nextLine c more line) (Nat.le_of_eq (nextLine_add_room c more line))

/-- A literal at the front of a text. -/
structure LiteralRead (q : Char) (cs text rest : List Char) (line last : Nat) : Prop where
  front : cs = text ++ rest
  ends : text.getLast? = some q
  line_le : line ≤ last
  room_le : last + room rest ≤ line + room cs

/-- Letters and opening quotes before a body. -/
theorem BodyRead.literal {q : Char} {opening body text rest : List Char} {line last : Nat}
    (h : BodyRead q opening.reverse body text rest line last) :
    LiteralRead q (opening ++ body) text.reverse rest line last := by
  obtain ⟨⟨used, htext, hbody, hlast⟩, hline, hroom⟩ := h
  have hreverse : text.reverse = opening ++ used := by
    rw [htext, List.reverse_append, List.reverse_reverse, List.reverse_reverse]
  refine ⟨?_, ?_, hline, ?_⟩
  · rw [hreverse, hbody, List.append_assoc]
  · rw [hreverse, List.getLast?_append, hlast]
    rfl
  · exact Nat.le_trans hroom (Nat.add_le_add_left (room_le_of_suffix (List.suffix_append _ _)) _)

/-- Quotes with nothing between them. -/
theorem literalRead_empty (q : Char) (front rest : List Char) (line : Nat) :
    LiteralRead q (front ++ [q, q] ++ rest) (front ++ [q, q]) rest line line :=
  ⟨rfl, by simp, Nat.le_refl _,
    Nat.add_le_add_left (room_le_of_suffix (List.suffix_append _ _)) _⟩

/-- A literal between single quotes. -/
theorem literalRead_single {q : Char} {front body text rest : List Char} {line last : Nat}
    (h : literal?.single line q front body = some (text, rest, last)) :
    LiteralRead q (front ++ q :: body) text rest line last := by
  obtain ⟨⟨found, _, _⟩, hbody, heq⟩ := Option.map_eq_some_iff.mp h
  cases heq
  have hread : BodyRead q (front ++ [q]).reverse body found rest line last := by
    rw [List.reverse_append]
    exact bodyRead_literalBody hbody
  have hliteral := hread.literal
  rw [List.append_assoc, List.singleton_append] at hliteral
  exact hliteral

/-- **A literal is the front of the text, and ends in its quote.** -/
theorem literalRead {letters line last : Nat} {cs text rest : List Char}
    (h : literal? letters cs line = some (text, rest, last)) :
    ∃ q more, cs.drop letters = q :: more ∧ LiteralRead q cs text rest line last := by
  have hcs : cs = cs.take letters ++ cs.drop letters := (List.take_append_drop letters cs).symm
  unfold literal? at h
  simp only at h
  split at h
  · rename_i q a b more hdrop
    refine ⟨q, a :: b :: more, hdrop, ?_⟩
    rw [hcs, hdrop]
    split at h
    · -- Tripled quotes.
      rename_i hquotes
      rw [Bool.and_eq_true, beq_iff_eq, beq_iff_eq] at hquotes
      obtain ⟨rfl, rfl⟩ := hquotes
      obtain ⟨⟨found, tail, final⟩, hbody, heq⟩ := Option.map_eq_some_iff.mp h
      cases heq
      have hread : BodyRead b (cs.take letters ++ [b, b, b]).reverse more found tail line final := by
        rw [List.reverse_append]
        exact bodyRead_literalBody hbody
      have hliteral := hread.literal
      rw [List.append_assoc] at hliteral
      exact hliteral
    · split at h
      · -- Two quotes and no third: an empty literal.
        rename_i hquote
        rw [beq_iff_eq] at hquote
        subst hquote
        cases h
        have hempty := literalRead_empty a (cs.take letters) (b :: more) line
        rw [List.append_assoc] at hempty
        exact hempty
      · exact literalRead_single h
  · -- At the very end of the text, where no third quote can stand.
    rename_i q a hdrop
    refine ⟨q, [a], hdrop, ?_⟩
    rw [hcs, hdrop]
    split at h
    · rename_i hquote
      rw [beq_iff_eq] at hquote
      subst hquote
      cases h
      have hempty := literalRead_empty a (cs.take letters) [] line
      rw [List.append_nil] at hempty
      exact hempty
    · exact literalRead_single h
  · cases h

/-! ## §4. Single tokens. -/

/-- A scan that has come so far: its tokens are on allowed lines, and so is all
that is ahead. -/
structure State.Fits (L : Nat → Prop) (s : State) (cs : List Char) : Prop where
  ahead : Ahead L s.line cs
  tokens : ∀ t ∈ s.tokens, t.Fits L
  clean : '\r' ∉ cs

namespace State

/-- Going on on the same line. -/
theorem Fits.suffix {s : State} {cs rest : List Char} (h : s.Fits L cs) (hs : rest <:+ cs) :
    s.Fits L rest :=
  ⟨h.ahead.suffix hs, h.tokens, fun hmem => h.clean (hs.subset hmem)⟩

/-- Going on on another line. -/
theorem Fits.moveTo {s : State} {cs rest : List Char} (h : s.Fits L cs) (hs : rest <:+ cs)
    {line : Nat} (hline : s.line ≤ line) (hroom : line + room rest ≤ s.line + room cs) :
    { s with line := line }.Fits L rest :=
  ⟨h.ahead.later hline hroom, h.tokens, fun hmem => h.clean (hs.subset hmem)⟩

/-- Brackets and indentations do not matter. -/
theorem Fits.of_same {s t : State} {cs : List Char} (h : s.Fits L cs) (hline : t.line = s.line)
    (htokens : t.tokens = s.tokens) : t.Fits L cs := by
  refine ⟨?_, ?_, h.clean⟩
  · rw [hline]
    exact h.ahead
  · rw [htokens]
    exact h.tokens

/-- A token that is no literal, on the line reached. -/
theorem Fits.push {s : State} {cs : List Char} (h : s.Fits L cs) {kind : Kind}
    (hkind : kind ≠ .literal) (text : String) : (s.push kind text).Fits L cs := by
  refine ⟨h.ahead, ?_, h.clean⟩
  intro t ht
  rcases Array.mem_push.mp ht with ht | rfl
  · exact h.tokens t ht
  · exact ⟨h.ahead.here, fun hliteral => absurd hliteral hkind,
      fun hliteral => absurd hliteral hkind⟩

end State

/-- A step of a scan goes on with a property, or breaks off with the tokens that
it has so far. -/
def Proceeds {α : Type} (s : State) (P : α → Prop) : Except Tokens α → Prop
  | .ok a => P a
  | .error broken => broken.all = s.tokens

/-- An operator or a bracket. -/
theorem fits_operator {s : State} {c : Char} {more : List Char} (h : s.Fits L (c :: more)) :
    Proceeds s (fun r => r.1.Fits L r.2) (operator s c more) := by
  have hfixed : Kind.fixed ≠ .literal := by decide
  have hmore : more <:+ c :: more := List.suffix_cons c more
  unfold operator
  simp only
  split
  · exact (h.push hfixed _).suffix ((List.drop_suffix 2 more).trans hmore)
  split
  · exact (h.push hfixed _).suffix ((List.drop_suffix 1 more).trans hmore)
  split
  · -- An opening bracket; too many of them break the scan off.
    split
    · rfl
    · have hopened : { s with opened := (c, s.line) :: s.opened }.Fits L (c :: more) :=
        h.of_same rfl rfl
      exact (hopened.push hfixed _).suffix hmore
  split
  · -- A closing bracket has to fit the one that is open.
    split
    · rename_i o l outer _
      split
      · have hclosed : { s with opened := outer }.Fits L (c :: more) := h.of_same rfl rfl
        exact (hclosed.push hfixed _).suffix hmore
      · rfl
    · rfl
  split
  · exact (h.push hfixed _).suffix hmore
  · rfl

/-- A literal. -/
theorem fits_literal {s : State} {cs text rest : List Char} {letters last : Nat}
    (h : s.Fits L cs) (hletters : literalLetters cs = some letters)
    (hread : literal? letters cs s.line = some (text, rest, last)) :
    { s with
      tokens := s.tokens.push ⟨.literal, String.ofList text, s.line, last, s.opened.length⟩
      line := last }.Fits L rest := by
  obtain ⟨q, tail, hdrop, hliteral⟩ := literalRead hread
  obtain ⟨q', tail', hdrop', hq⟩ := drop_literalLetters hletters
  have hsame : q = q' := by
    rw [hdrop] at hdrop'
    exact (List.cons.inj hdrop').1
  subst hsame
  have hsuffix : rest <:+ cs := ⟨text, hliteral.front.symm⟩
  refine ⟨h.ahead.later hliteral.line_le hliteral.room_le, ?_,
    fun hmem => h.clean (hsuffix.subset hmem)⟩
  intro t ht
  rcases Array.mem_push.mp ht with ht | rfl
  · exact h.tokens t ht
  · refine ⟨h.ahead.here, fun _ k hk => ?_, fun _ hmem => h.clean ?_⟩
    · -- The line feeds of the literal lie within the room of the text.
      have hcount := count_le_room hliteral.ends hq rest
      rw [← hliteral.front] at hcount
      rw [String.toList_ofList] at hk
      exact h.ahead k (Nat.le_trans hk hcount)
    · rw [String.toList_ofList] at hmem
      rw [hliteral.front]
      exact List.mem_append_left rest hmem

/-- **One token, and what is left after it.** -/
theorem fits_one {s : State} {c : Char} {more : List Char} (h : s.Fits L (c :: more)) :
    Proceeds s (fun r => r.1.Fits L r.2) (one s c more) := by
  unfold one
  simp only
  split
  · rename_i letters hletters
    split
    · rename_i text tail last hread
      exact fits_literal h hletters hread
    · rfl
  split
  · have hword : (c :: more).dropWhile extendsName <:+ c :: more := List.dropWhile_suffix _
    split
    · exact (h.push (by decide) _).suffix hword
    split
    · exact (h.push (by decide) _).suffix hword
    · rfl
  split
  · split
    · rename_i tail hnumber
      exact (h.push (by decide) _).suffix (suffix_afterNumber hnumber)
    · rfl
  · exact fits_operator h

/-! ## §5. Layout and the whole scan. -/

/-- The blanks at the start of a line, perhaps over several lines. -/
theorem measure_at {m m' : Measure} {joined line last : Nat} {cs rest : List Char}
    (h : measure m joined line cs = .at m' rest last) :
    rest <:+ cs ∧ line ≤ last ∧ last + room rest ≤ line + room cs := by
  have hblank : ∀ {c : Char} {tail : List Char} {l : Nat},
      rest <:+ tail ∧ l ≤ last ∧ last + room rest ≤ l + room tail →
      rest <:+ c :: tail ∧ l ≤ last ∧ last + room rest ≤ l + room (c :: tail) := by
    intro c tail l ⟨hs, hl, hroom⟩
    have htail := room_le_of_suffix (List.suffix_cons c tail)
    exact ⟨hs.trans (List.suffix_cons c tail), hl, by omega⟩
  fun_induction measure m joined line cs with
  | case1 m joined line tail ih => exact hblank (ih h)
  | case2 m joined line tail ih => exact hblank (ih h)
  | case3 m joined line tail ih => exact hblank (ih h)
  | case4 => cases h
  | case5 m joined line tail hne ih =>
      -- A joined line: the next one is there, for the text goes on.
      obtain ⟨hs, hl, hroom⟩ := ih h
      have htail : tail ≠ [] := by
        rintro rfl
        exact hne rfl
      have hline : room ('\\' :: '\n' :: tail) = room tail + 1 := by
        rw [room_cons_of_ne (by decide), room_newline htail]
      exact ⟨hs.trans ⟨['\\', '\n'], rfl⟩, by omega, by omega⟩
  | case6 => cases h
  | case7 m joined line tail =>
      cases h
      exact ⟨List.suffix_refl _, Nat.le_refl _, Nat.le_refl _⟩

/-- Steps of indentation out. -/
theorem fits_closeIndents {m : Measure} {s : State} {cs : List Char} (h : s.Fits L cs)
    (indents : List Measure) : (closeIndents m s indents).Fits L cs := by
  induction indents generalizing s with
  | nil => exact h.of_same rfl rfl
  | cons i rest ih =>
      rw [closeIndents]
      split
      · exact ih (h.push (by decide) "")
      · exact h.of_same rfl rfl

/-- The indentation of a line. -/
theorem fits_layout {m : Measure} {s : State} {cs : List Char} (h : s.Fits L cs) :
    Proceeds s (State.Fits L · cs) (layout m s) := by
  unfold layout
  simp only
  split
  · split
    · exact h
    · rfl
  split
  · -- A step in.
    split
    · rfl
    split
    · rfl
    · have hindent : { s with indents := m :: s.indents }.Fits L cs := h.of_same rfl rfl
      exact hindent.push (by decide) ""
  · split
    · exact fits_closeIndents h s.indents
    · rfl

/-- To the end of a line, and over its line feed. -/
theorem room_after_line (cs : List Char) (line : Nat) :
    nextLine '\n' ((cs.dropWhile (· != '\n')).drop 1) line
        + room ((cs.dropWhile (· != '\n')).drop 1) ≤ line + room cs := by
  have hsuffix := room_le_of_suffix (List.dropWhile_suffix (l := cs) (· != '\n'))
  cases hrest : cs.dropWhile (· != '\n') with
  | nil => exact Nat.add_le_add_left (Nat.zero_le _) line
  | cons d more =>
      have hd : d = '\n' := by
        have hhead := List.head?_dropWhile_not (· != '\n') cs
        rw [hrest] at hhead
        simpa using hhead
      subst hd
      have hnext := nextLine_add_room '\n' more line
      rw [hrest] at hsuffix
      rw [List.drop_one, List.tail_cons]
      omega

/-- All tokens are on allowed lines. -/
def AllFit (L : Nat → Prop) (tokens : Tokens) : Prop := ∀ t ∈ tokens.all, t.Fits L

/-- A scan that breaks off has the tokens so far. -/
theorem Proceeds.allFit {α : Type} {P : α → Prop} {s : State} {cs : List Char} {broken : Tokens}
    (hp : Proceeds s P (.error broken)) (h : s.Fits L cs) : AllFit L broken := by
  intro t ht
  rw [show broken.all = s.tokens from hp] at ht
  exact h.tokens t ht

section

variable {fuel : Nat} (ih : ∀ (fresh : Bool) {s : State} {cs : List Char}, s.Fits L cs →
  AllFit L (run fuel fresh s cs))

include ih

/-- Step: the start of a line. -/
theorem fits_run_fresh {s : State} {cs : List Char} (h : s.Fits L cs) :
    AllFit L (run (fuel + 1) true s cs) := by
  unfold run
  split
  · exact h.tokens
  · exact h.tokens
  · rename_i m rest line hmeasure
    obtain ⟨hs, hline, hroom⟩ := measure_at hmeasure
    have hat : { s with line := line }.Fits L rest := h.moveTo hs hline hroom
    simp only
    split
    · -- The end of the text.
      split
      · have hlaid := fits_layout (m := ⟨0, 0⟩) hat
        split
        · rename_i t hlayout
          rw [hlayout] at hlaid
          exact (State.Fits.push hlaid (by decide) "").tokens
        · rename_i broken hlayout
          rw [hlayout] at hlaid
          exact hlaid.allFit hat
      · exact hat.tokens
    · rename_i c more
      split
      · -- A comment or an empty line.
        have hafter : ((c :: more).dropWhile (· != '\n')).drop 1 <:+ c :: more :=
          (List.drop_suffix _ _).trans (List.dropWhile_suffix _)
        exact ih true (hat.moveTo hafter (le_nextLine _ _ _) (room_after_line _ _))
      · split
        · have hlaid := fits_layout (m := m) hat
          split
          · rename_i t hlayout
            rw [hlayout] at hlaid
            exact ih false hlaid
          · rename_i broken hlayout
            rw [hlayout] at hlaid
            exact hlaid.allFit hat
        · exact ih false hat

/-- Step: a character inside a line. -/
theorem fits_run_inside {s : State} {c : Char} {more : List Char} (h : s.Fits L (c :: more)) :
    AllFit L (run (fuel + 1) false s (c :: more)) := by
  have hmore : more <:+ c :: more := List.suffix_cons c more
  unfold run
  split
  · exact ih false (h.suffix hmore)
  split
  · exact ih false (h.suffix ((List.dropWhile_suffix _).trans hmore))
  split
  · -- The end of a line.
    rename_i hc
    rw [beq_iff_eq] at hc
    subst hc
    have hroom := Nat.le_of_eq (nextLine_add_room '\n' more s.line)
    simp only
    split
    · exact ih true ((h.push (by decide) "").moveTo hmore (le_nextLine _ _ _) hroom)
    · exact ih true (h.moveTo hmore (le_nextLine _ _ _) hroom)
  split
  · -- A backslash joins the next line to this one.
    rename_i hc
    rw [beq_iff_eq] at hc
    subst hc
    split
    · rename_i rest
      split
      · exact h.tokens
      · rename_i hne
        have htail : rest ≠ [] := by
          rintro rfl
          exact hne rfl
        refine ih false (h.moveTo ⟨['\\', '\n'], rfl⟩ (Nat.le_succ _) ?_)
        rw [room_cons_of_ne (by decide), room_newline htail]
        omega
    · exact h.tokens
  · have hnext := fits_one h
    split
    · rename_i t rest hone
      rw [hone] at hnext
      exact ih false hnext
    · rename_i broken hone
      rw [hone] at hnext
      exact hnext.allFit h

end

/-- **Run: every token of a scan is on allowed lines.** -/
theorem fits_run (fuel : Nat) (fresh : Bool) {s : State} {cs : List Char} (h : s.Fits L cs) :
    AllFit L (run fuel fresh s cs) := by
  induction fuel generalizing fresh s cs with
  | zero => exact h.tokens
  | succ fuel ih =>
      cases fresh with
      | true => exact fits_run_fresh ih h
      | false =>
          cases cs with
          | nil => exact h.tokens
          | cons c more => exact fits_run_inside ih h

/-! ## §6. Texts. -/

/-- A text without carriage returns has its line feeds already. -/
theorem unifyNewlines_of_clean {cs : List Char} (h : '\r' ∉ cs) : unifyNewlines cs = cs := by
  fun_induction unifyNewlines cs with
  | case1 => rfl
  | case2 rest ih => exact absurd List.mem_cons_self h
  | case3 rest _ ih => exact absurd List.mem_cons_self h
  | case4 c rest _ _ ih => rw [ih fun hmem => h (List.mem_cons_of_mem c hmem)]

/-- No carriage return is left once line endings are unified. -/
theorem not_mem_unifyNewlines (cs : List Char) : '\r' ∉ unifyNewlines cs := by
  fun_induction unifyNewlines cs with
  | case1 => exact List.not_mem_nil
  | case2 rest ih => exact fun hmem => (List.mem_cons.mp hmem).elim (fun h => by cases h) ih
  | case3 rest _ ih => exact fun hmem => (List.mem_cons.mp hmem).elim (fun h => by cases h) ih
  | case4 c rest _ hc ih =>
      intro hmem
      rcases List.mem_cons.mp hmem with heq | hmem
      · exact hc heq.symm
      · exact ih hmem

/-- The text that is scanned has room for the line feeds of the text. -/
theorem room_append_newline (cs : List Char) : room (cs ++ ['\n']) = cs.count '\n' := by
  rw [room, List.dropLast_concat]

/-- **The tokens of a text are on the lines from its first one to its last.** -/
theorem fits_scan {line : Nat} {text : List Char} (hclean : '\r' ∉ text)
    (h : ∀ k ≤ text.count '\n', L (line + k)) : AllFit L (scan line text) := by
  have hempty : ∀ t ∈ (#[] : Array Token), t.Fits L := fun t ht => absurd ht (Array.not_mem_empty t)
  unfold scan
  simp only [unifyNewlines_of_clean hclean]
  split
  · refine fits_run _ _ ⟨fun k hk => h k (Nat.le_trans hk ?_), hempty, hclean⟩
    exact (List.dropLast_sublist text).count_le '\n'
  · refine fits_run _ _ ⟨fun k hk => h k ?_, hempty, ?_⟩
    · rwa [room_append_newline] at hk
    · intro hmem
      rcases List.mem_append.mp hmem with hmem | hmem
      · exact hclean hmem
      · exact absurd hmem (by decide)

end Token

end CodeAudit.Source
