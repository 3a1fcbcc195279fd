/-
  CodeAudit.Proofs.Source.Literals
  ────────────────────────────────
  **TREES INSIDE LITERALS.**

  An interpolated text holds expressions, which are read on the lines on
  which they stand in the literal.  Going through a literal uses up its line
  feeds (`Later`), so every expression in it starts and ends on a line that
  the literal spans, and the trees are on allowed lines (`linesIn_node`)
  once the reader of expressions keeps to them (`Compiles`).
-/
import CodeAudit.Proofs.Source.Readers
import CodeAudit.Source.Grammar.Expressions

namespace CodeAudit.Source.Literal

open CodeAudit.Text

variable {L : Nat → Prop}

/-! ## §1. Going through a literal. -/

/-- The lines that a text spans are allowed, and it holds no carriage return. -/
structure Span (L : Nat → Prop) (line : Nat) (cs : List Char) : Prop where
  lines : ∀ k ≤ feeds cs, L (line + k)
  clean : '\r' ∉ cs

/-- From a place in a text to a later one: the line feeds between them are the
lines between them at most. -/
structure Later (line : Nat) (cs : List Char) (last : Nat) (rest : List Char) : Prop where
  line_le : line ≤ last
  feeds_le : last + feeds rest ≤ line + feeds cs
  subset : rest ⊆ cs

theorem Later.refl (line : Nat) (cs : List Char) : Later line cs line cs :=
  ⟨Nat.le_refl _, Nat.le_refl _, List.Subset.refl _⟩

theorem Later.trans {line next last : Nat} {cs rest more : List Char} (h : Later line cs next rest)
    (h' : Later next rest last more) : Later line cs last more :=
  ⟨Nat.le_trans h.line_le h'.line_le, Nat.le_trans h'.feeds_le h.feeds_le,
    fun _ hc => h.subset (h'.subset hc)⟩

/-- An end of the text, on the same line. -/
theorem later_of_suffix {cs rest : List Char} (h : rest <:+ cs) (line : Nat) :
    Later line cs line rest :=
  ⟨Nat.le_refl _, Nat.add_le_add_left (h.sublist.count_le '\n') line, h.subset⟩

/-- What is later spans fewer lines. -/
theorem Span.later {line last : Nat} {cs rest : List Char} (h : Span L line cs)
    (hl : Later line cs last rest) : Span L last rest := by
  obtain ⟨hline, hfeeds, hsubset⟩ := hl
  refine ⟨fun k hk => ?_, fun hmem => h.clean (hsubset hmem)⟩
  have hat := h.lines (last - line + k) (by omega)
  rwa [show line + (last - line + k) = last + k from by omega] at hat

/-- A part of a text spans some of its lines. -/
theorem Span.part {line : Nat} {cs part : List Char} (h : Span L line cs) (hs : part.Sublist cs) :
    Span L line part :=
  ⟨fun k hk => h.lines k (Nat.le_trans hk (hs.count_le '\n')), fun hmem => h.clean (hs.subset hmem)⟩

/-- A text behind a front with so many line feeds. -/
theorem later_append (line : Nat) (front rest : List Char) :
    Later line (front ++ rest) (line + feeds front) rest := by
  refine ⟨Nat.le_add_right _ _, ?_, List.subset_append_right front rest⟩
  unfold feeds
  rw [List.count_append]
  omega

/-! ## §2. Pieces of an interpolated text. -/

@[simp] theorem feeds_append (a b : List Char) : feeds (a ++ b) = feeds a + feeds b :=
  List.count_append

theorem feeds_cons (c : Char) (a : List Char) : feeds (c :: a) = feeds [c] + feeds a := by
  rw [← List.singleton_append, feeds_append]

@[simp] theorem feeds_reverse (a : List Char) : feeds a.reverse = feeds a := List.count_reverse

/-- A front of a text, and what follows the character behind it. -/
theorem feeds_front (front back : List Char) :
    feeds front + feeds ((front ++ back).drop (front.length + 1)) ≤ feeds (front ++ back) := by
  have hdrop : (front ++ back).drop (front.length + 1) = back.drop 1 := by
    rw [← List.drop_drop, List.drop_left]
  have hless : feeds (back.drop 1) ≤ feeds back :=
    ((List.drop_suffix 1 back).sublist).count_le '\n'
  rw [hdrop, feeds_append]
  omega

/-- The name in an escape, and what follows its closing brace. -/
theorem feeds_name (more : List Char) :
    feeds (more.takeWhile (· != '\x7d')) +
        feeds (more.drop ((more.takeWhile (· != '\x7d')).length + 1)) ≤ feeds more := by
  have h := feeds_front (more.takeWhile (· != '\x7d')) (more.dropWhile (· != '\x7d'))
  rwa [List.takeWhile_append_dropWhile] at h

/-- Text up to a brace: its line feeds are used up, and what follows is an end
of the text. -/
theorem plainText_spec {raw nested doubled : Bool} {fuel : Nat} {seen cs text rest : List Char}
    (h : plainText raw nested fuel seen cs = some (text, rest, doubled)) :
    rest <:+ cs ∧ feeds text + feeds rest ≤ feeds seen + feeds cs := by
  fun_induction plainText raw nested fuel seen cs with
  | case1 seen cs =>
      cases h
      rw [feeds_reverse]
      exact ⟨List.suffix_refl _, Nat.le_refl _⟩
  | case2 fuel seen =>
      cases h
      rw [feeds_reverse]
      exact ⟨List.suffix_refl _, Nat.le_refl _⟩
  | case3 fuel seen more hraw name close ih =>
      -- An escape by name is kept whole, braces and all.
      rw [hraw] at ih
      obtain ⟨hs, hfeeds⟩ := ih h
      have hclose : feeds close = 0 := by
        show feeds (if name.length < more.length then ['\x7d'] else []) = 0
        split <;> rfl
      have hname : feeds name + feeds (more.drop (name.length + 1)) ≤ feeds more := feeds_name more
      have hopen : feeds ('\x7b' :: 'N' :: '\\' :: seen) = feeds seen := rfl
      have hfront : feeds ('\\' :: 'N' :: '\x7b' :: more) = feeds more := rfl
      rw [feeds_append, feeds_append, feeds_reverse, hclose, hopen] at hfeeds
      rw [hfront]
      refine ⟨hs.trans ((List.drop_suffix _ more).trans ⟨['\\', 'N', '\x7b'], rfl⟩), ?_⟩
      omega
  | case4 fuel seen c more hc hnested hN =>
      cases h
      rw [feeds_reverse]
      exact ⟨List.suffix_refl _, Nat.le_refl _⟩
  | case5 fuel seen c more hc hnested hhead hN =>
      cases h
      have hdrop : feeds (more.drop 1) ≤ feeds more :=
        ((List.drop_suffix 1 more).sublist).count_le '\n'
      rw [feeds_reverse, feeds_cons c seen, feeds_cons c more]
      exact ⟨(List.drop_suffix 1 more).trans (List.suffix_cons c more), by omega⟩
  | case6 => cases h
  | case7 fuel seen c more hc hnested hhead hclose hN =>
      cases h
      rw [feeds_reverse]
      exact ⟨List.suffix_refl _, Nat.le_refl _⟩
  | case8 fuel seen d more hraw hd hc hN ih =>
      rw [hraw] at h ih
      simp only [hd, if_true] at h
      obtain ⟨hs, hfeeds⟩ := ih h
      rw [feeds_cons '\\' seen] at hfeeds
      rw [feeds_cons '\\' (d :: more)]
      exact ⟨hs.trans (List.suffix_cons _ _), by omega⟩
  | case9 fuel seen d more hraw hd hc hN ih =>
      rw [hraw] at h ih
      simp only [hd] at h
      obtain ⟨hs, hfeeds⟩ := ih h
      rw [feeds_cons d, feeds_cons '\\' seen] at hfeeds
      rw [feeds_cons '\\' (d :: more), feeds_cons d more]
      exact ⟨hs.trans ⟨['\\', d], rfl⟩, by omega⟩
  | case10 fuel seen c more hc hN hd ih =>
      split at h
      · exact (hd _ _ rfl rfl rfl).elim
      · obtain ⟨hs, hfeeds⟩ := ih h
        rw [feeds_cons c seen] at hfeeds
        rw [feeds_cons c more]
        exact ⟨hs.trans (List.suffix_cons c more), by omega⟩

/-- An expression is the front of a text. -/
theorem expression_spec {cs source rest : List Char} (h : expression cs = some (source, rest)) :
    cs = source ++ rest := by
  obtain ⟨n, -, heq⟩ := Option.map_eq_some_iff.mp h
  cases heq
  exact (List.take_append_drop n cs).symm

/-- What follows a conversion is an end of the text. -/
theorem suffix_afterConversion {cs rest : List Char} (h : afterConversion cs = some rest) :
    rest <:+ cs := by
  unfold afterConversion at h
  split at h
  · simp only at h
    split at h
    · cases h
      exact (List.drop_suffix _ _).trans (List.suffix_cons _ _)
    · cases h
  · cases h
    exact List.suffix_refl _

/-- Behind a front of a text. -/
theorem later_drop {cs front : List Char} (h : front <+: cs) (line : Nat) :
    Later line cs (line + feeds front) (cs.drop front.length) := by
  obtain ⟨back, rfl⟩ := h
  rw [List.drop_left]
  exact later_append line front back

/-! ## §3. Slots and parts. -/

/-- A reader of expressions that keeps to the lines on which they stand. -/
def Compiles (L : Nat → Prop) (compile : Nat → List Char → Except Nat Node) : Prop :=
  ∀ line source n, Span L line source → compile line source = .ok n → n.LinesIn L

/-- A literal can be read. -/
structure Context.Fits (L : Nat → Prop) (ctx : Context) : Prop where
  first : L ctx.first
  compile : Compiles L ctx.compile

/-- Finishing the part under way adds a constant at most. -/
theorem Gathered.allIn_flush {g : Gathered} {line : Nat} (hline : L line) (h : AllIn L g.parts) :
    AllIn L (g.flush line).parts := by
  unfold Gathered.flush
  split
  · exact h
  · exact .cons (.on hline .nil) h

theorem Gathered.allIn_all {g : Gathered} {line : Nat} (hline : L line) (h : AllIn L g.parts) :
    AllIn L (g.all line) := by
  intro n hn
  exact g.allIn_flush hline h n (List.mem_reverse.mp hn)

/-- The parts found with so much fuel are on allowed lines. -/
def PartsIn (L : Nat → Prop) (ctx : Context) (fuel : Nat) : Prop :=
  ∀ level line g cs g' rest last, AllIn L g.parts → Span L line cs →
    parts ctx level fuel line g cs = .ok (g', rest, last) →
    AllIn L g'.parts ∧ Later line cs last rest

/-- The slots found with so much fuel are on allowed lines. -/
def SlotsIn (L : Nat → Prop) (ctx : Context) (fuel : Nat) : Prop :=
  ∀ level line cs shown n rest last, Span L line cs →
    slot ctx level fuel line cs = .ok (shown, n, rest, last) →
    n.LinesIn L ∧ Later line cs last rest

variable {ctx : Context} {fuel : Nat}

/-- What follows a value and what is shown beside it. -/
theorem later_shown (source cs : List Char) (line : Nat) :
    let r := match cs with
      | '=' :: more =>
          (source ++ '=' :: more.takeWhile isAsciiBlank,
            more.drop (more.takeWhile isAsciiBlank).length,
            line + feeds (more.takeWhile isAsciiBlank))
      | _ => ([], cs, line)
    Later line cs r.2.2 r.2.1 := by
  intro r
  unfold r
  split
  · rename_i more
    exact (later_of_suffix (List.suffix_cons '=' more) line).trans
      (later_drop (List.takeWhile_prefix isAsciiBlank) line)
  · exact Later.refl _ _

/-- Step: a slot is an expression, perhaps a conversion, and perhaps a format
that is made of parts itself. -/
theorem slotsIn_succ (hctx : ctx.Fits L) (hparts : PartsIn L ctx fuel) :
    SlotsIn L ctx (fuel + 1) := by
  intro level line cs shown n rest last hspan h
  unfold slot at h
  split at h
  · cases h
  split at h
  · cases h
  rename_i source after hsource
  split at h
  · cases h
  -- The expression is the front of the slot, so it starts on the slot's line.
  have hcs : cs = source ++ after := expression_spec hsource
  subst hcs
  have hsourceSpan : Span L line source := hspan.part (List.sublist_append_left source after)
  have hafter : Later line (source ++ after) (line + feeds source) after :=
    later_append line source after
  cases hvalue : ctx.compile line source with
  | error e =>
      rw [hvalue] at h
      cases h
  | ok value =>
      have hvalueIn : value.LinesIn L := hctx.compile line source value hsourceSpan hvalue
      rw [hvalue] at h
      simp only [bind, Except.bind] at h
      have hlater := hafter.trans (later_shown source after (line + feeds source))
      split at h
      · cases h
      · -- A format: its parts up to the closing brace.
        rename_i format hconversion
        have hformat : Later line (source ++ after) _ format :=
          hlater.trans (later_of_suffix
            ((List.suffix_cons ':' format).trans (suffix_afterConversion hconversion)) _)
        split at h
        · cases h
        · cases hinner : parts ctx (level + 1) fuel _ ⟨[], []⟩ format with
          | error e =>
              rw [hinner] at h
              cases h
          | ok r =>
              obtain ⟨g, tail, final⟩ := r
              obtain ⟨hg, htail⟩ := hparts (level + 1) _ ⟨[], []⟩ format g tail final .nil
                (hspan.later hformat) hinner
              rw [hinner] at h
              simp only at h
              split at h
              · rename_i tail'
                cases h
                have hformatIn : (Node.interpolated ctx.first (g.all ctx.first)).LinesIn L :=
                  .on hctx.first (g.allIn_all hctx.first hg)
                exact ⟨.on hctx.first (.cons hvalueIn (.one hformatIn)),
                  (hformat.trans htail).trans (later_of_suffix (List.suffix_cons _ _) _)⟩
              · cases h
      · rename_i tail hconversion
        cases h
        have htail : Later line (source ++ after) _ rest :=
          hlater.trans (later_of_suffix
            ((List.suffix_cons _ rest).trans (suffix_afterConversion hconversion)) _)
        exact ⟨.on hctx.first (.one hvalueIn), htail⟩
      · cases h

/-- Step: parts are text and slots in turn. -/
theorem partsIn_succ (hctx : ctx.Fits L) (hparts : PartsIn L ctx fuel)
    (hslots : SlotsIn L ctx fuel) : PartsIn L ctx (fuel + 1) := by
  intro level line g cs g' rest last hg hspan h
  unfold parts at h
  split at h
  · cases h
  rename_i text after doubled htext
  -- The text up to the next slot, with the line feeds in it.
  obtain ⟨hsuffix, hfeeds⟩ := plainText_spec htext
  have hafter : Later line cs (line + feeds text) after :=
    ⟨Nat.le_add_right _ _, by have : feeds ([] : List Char) = 0 := rfl; omega, hsuffix.subset⟩
  split at h
  · cases h
  rename_i out _
  simp only at h
  have hadd : AllIn L (g.add out).parts := hg
  split at h
  · obtain ⟨hg', hlater⟩ := hparts level _ _ after g' rest last hadd (hspan.later hafter) h
    exact ⟨hg', hafter.trans hlater⟩
  split at h
  · -- A slot, and then the parts behind it.
    rename_i inner
    have hinner : Later line cs (line + feeds text) inner :=
      hafter.trans (later_of_suffix (List.suffix_cons _ inner) _)
    cases hslot : slot ctx level fuel (line + feeds text) inner with
    | error e =>
        rw [hslot] at h
        cases h
    | ok r =>
        obtain ⟨shown, n, tail, next⟩ := r
        obtain ⟨hn, htail⟩ := hslots level _ inner shown n tail next (hspan.later hinner) hslot
        have hflushed := ((g.add out).add (shown.map .char)).allIn_flush hctx.first hadd
        rw [hslot] at h
        obtain ⟨hg', hlater⟩ := hparts level next _ tail g' rest last (.cons hn hflushed)
          (hspan.later (hinner.trans htail)) h
        exact ⟨hg', (hinner.trans htail).trans hlater⟩
  · cases h
    exact ⟨hadd, hafter⟩

/-- **All parts of an interpolated text are on allowed lines.** -/
theorem partsIn (hctx : ctx.Fits L) (fuel : Nat) : PartsIn L ctx fuel ∧ SlotsIn L ctx fuel := by
  induction fuel with
  | zero =>
      refine ⟨?_, ?_⟩
      · intro level line g cs g' rest last hg _ h
        unfold parts at h
        cases h
        exact ⟨hg, Later.refl _ _⟩
      · intro level line cs shown n rest last _ h
        unfold slot at h
        cases h
  | succ fuel ih => exact ⟨partsIn_succ hctx ih.1 ih.2, slotsIn_succ hctx ih.1⟩

/-! ## §4. A run of literals. -/

/-- What stands between the quotes is part of the literal. -/
theorem sublist_body (text : List Char) : (shape text).body.Sublist text :=
  ((List.take_sublist _ _).trans (List.drop_sublist _ _)).trans (List.dropWhile_sublist _)

/-- The body of a literal spans lines of the literal. -/
theorem span_body {t : Token} (ht : t.Fits L) (hkind : t.kind = .literal) :
    Span L t.line (shape t.text.toList).body :=
  Span.part ⟨ht.spans hkind, ht.clean hkind⟩ (sublist_body t.text.toList)

variable {compile : Nat → List Char → Except Nat Node} {here first : Nat}

/-- Step: one more literal of a run adds parts on allowed lines. -/
theorem allIn_step (hcompile : Compiles L compile) (hfirst : L first) {r r' : Run} {t : Token}
    (ht : t.Fits L) (hkind : t.kind = .literal) (hr : AllIn L r.gathered.parts)
    (h : r.step compile here first t = .ok r') : AllIn L r'.gathered.parts := by
  unfold Run.step at h
  simp only at h
  split at h
  · cases h
  split at h
  · cases h
  split at h
  · cases h
  split at h
  · cases h
  split at h
  · -- An interpolated literal: its body is taken apart.
    cases hparts : parts ⟨compile, here, first, (shape t.text.toList).raw⟩ 0
        ((shape t.text.toList).body.length + 1) t.line r.gathered (shape t.text.toList).body with
    | error e =>
        rw [hparts] at h
        cases h
    | ok found =>
        obtain ⟨g, rest, last⟩ := found
        rw [hparts] at h
        cases h
        exact ((partsIn ⟨hfirst, hcompile⟩ _).1 0 t.line r.gathered _ g rest last hr
          (span_body ht hkind) hparts).1
  · cases h
    exact hr

/-- Run: so do all literals of a run. -/
theorem allIn_run (hcompile : Compiles L compile) (hfirst : L first) {run : List Token}
    (hrun : ∀ t ∈ run, t.Fits L ∧ t.kind = .literal) {r r' : Run} (hr : AllIn L r.gathered.parts)
    (h : run.foldlM (Run.step compile here first) r = .ok r') : AllIn L r'.gathered.parts := by
  induction run generalizing r with
  | nil =>
      cases h
      exact hr
  | cons t rest ih =>
      obtain ⟨ht, hkind⟩ := hrun t List.mem_cons_self
      rw [List.foldlM_cons] at h
      cases hstep : Run.step compile here first r t with
      | error e =>
          rw [hstep] at h
          cases h
      | ok next =>
          rw [hstep] at h
          exact ih (fun u hu => hrun u (List.mem_cons_of_mem t hu))
            (allIn_step hcompile hfirst ht hkind hr hstep) h

/-- **The tree of a run of literals is on allowed lines.** -/
theorem linesIn_node (hcompile : Compiles L compile) (hfirst : L first) {run : List Token}
    (hrun : ∀ t ∈ run, t.Fits L ∧ t.kind = .literal) {n : Node}
    (h : node compile here first run = .ok n) : n.LinesIn L := by
  unfold node at h
  cases hfold : run.foldlM (Run.step compile here first) ⟨⟨[], []⟩, false, none⟩ with
  | error e =>
      rw [hfold] at h
      cases h
  | ok r =>
      have hparts : AllIn L r.gathered.parts := allIn_run hcompile hfirst hrun .nil hfold
      rw [hfold] at h
      simp only [bind, Except.bind] at h
      split at h
      · cases h
        exact .on hfirst .nil
      split at h
      · cases h
        exact .on hfirst (r.gathered.allIn_all hfirst hparts)
      · cases h
        exact .on hfirst .nil

end CodeAudit.Source.Literal

/-! ## §5. The rule for literals. -/

namespace CodeAudit.Source.Grammar.Finds

open Reader Literal

variable {L : Nat → Prop} {g : Rules}

/-- An expression inside a literal is read in brackets of its own. -/
theorem compiles_expression (hg : AllFind L g) :
    Compiles L fun line source =>
      let tokens := Token.scan line ('(' :: (source ++ [')']))
      complete (g .starExpressions) (noMemory tokens) tokens := by
  intro line source n hspan h
  have hclean : '\r' ∉ '(' :: (source ++ [')']) := by
    simpa using hspan.clean
  have hcount : ('(' :: (source ++ [')'])).count '\n' = feeds source := by
    simp [feeds]
  have hfit : Token.AllFit L (Token.scan line ('(' :: (source ++ [')']))) := by
    refine Token.fits_scan hclean fun k hk => hspan.lines k ?_
    rwa [hcount] at hk
  exact ok_of_complete (hg .starExpressions) hfit h

theorem literals (hg : AllFind L g) : Finds L (Node.LinesIn L) (Grammar.literals g) := by
  refine .bind (many1_ne_nil (.kind .literal)) fun run hrun => ?_
  obtain ⟨hne, hrun⟩ := hrun
  refine .bind .furthest fun here _ => ?_
  obtain ⟨t, rest, rfl⟩ := List.exists_cons_of_ne_nil hne
  have hfirst : L t.line := (hrun t List.mem_cons_self).1.line
  simp only
  split
  · rename_i n hnode
    exact .pure (linesIn_node (compiles_expression hg) hfirst hrun hnode)
  · exact .mistake _

end CodeAudit.Source.Grammar.Finds
