/-
  CodeAudit.Proofs.Source.Outcomes
  ────────────────────────────────
  **WHICH TOKENS READERS TAKE.**

  `Takes ts K p i j` says that the reader `p`, at the token `i`, finds its
  construct and ends at the token `j`; `Misses ts K p i` says that it is not
  there.  Both are about readings that do not look for mistakes, and both
  keep a property `K` of what is remembered.  What is found hardly matters
  to a reader; where it does, `Gives` says something about it.

  There is one rule for each way in which readers are put together, as there
  is for the lines of what they find.
-/
import CodeAudit.Source.Parse

namespace CodeAudit.Source.Grammar

open Reader

variable {α β : Type}

/-! ## §1. Outcomes. -/

/-- At a token the reader finds a value with a property, and ends at another token. -/
def Gives (ts : Tokens) (K : Memory → Prop) (p : Reads α) (i j : Nat) (P : α → Prop) : Prop :=
  ∀ s : Place Memory, s.position = i → K s.memory →
    ∃ a t, p ⟨ts, false⟩ s = .found a t ∧ P a ∧ t.position = j ∧ K t.memory

/-- At a token the reader finds something, and ends at another token. -/
abbrev Takes (ts : Tokens) (K : Memory → Prop) (p : Reads α) (i j : Nat) : Prop :=
  Gives ts K p i j fun _ => True

/-- At a token the reader finds nothing. -/
def Misses (ts : Tokens) (K : Memory → Prop) (p : Reads α) (i : Nat) : Prop :=
  ∀ s : Place Memory, s.position = i → K s.memory →
    ∃ t, p ⟨ts, false⟩ s = .missed t ∧ K t.memory

/-- The token that stands at a place, as far as the grammar looks at it. -/
def Shows (ts : Tokens) (i : Nat) (x : Kind × String) : Prop :=
  ∃ t, ts.all[i]? = some t ∧ t.kind = x.1 ∧ t.text = x.2

theorem Shows.lt_size {ts : Tokens} {i : Nat} {x : Kind × String} (h : Shows ts i x) :
    i < ts.all.size := by
  obtain ⟨t, ht, -⟩ := h
  exact (Array.getElem?_eq_some_iff.mp ht).1

variable {ts : Tokens} {K : Memory → Prop} {i j k : Nat} {P : α → Prop} {Q : β → Prop}

theorem Gives.mono {p : Reads α} (h : Gives ts K p i j P) {P' : α → Prop} (hP : ∀ a, P a → P' a) :
    Gives ts K p i j P' := by
  intro s hs hK
  obtain ⟨a, t, hp, ha, ht⟩ := h s hs hK
  exact ⟨a, t, hp, hP a ha, ht⟩

theorem Gives.takes {p : Reads α} (h : Gives ts K p i j P) : Takes ts K p i j :=
  h.mono fun _ _ => trivial

/-! ## §2. Sequence and choice. -/

theorem Gives.pure {a : α} (h : P a) : Gives ts K (Pure.pure a) i i P :=
  fun s hs hK => ⟨a, s, rfl, h, hs, hK⟩

theorem Takes.pure {a : α} : Takes ts K (Pure.pure a : Reads α) i i := Gives.pure trivial

theorem Misses.miss : Misses ts K (Reader.miss : Reads α) i := fun s _ hK => ⟨s, rfl, hK⟩

theorem Gives.bind {p : Reads α} {f : α → Reads β} (hp : Gives ts K p i j P)
    (hf : ∀ a, P a → Gives ts K (f a) j k Q) : Gives ts K (p >>= f) i k Q := by
  intro s hs hK
  obtain ⟨a, t, hfound, ha, ht, hKt⟩ := hp s hs hK
  show ∃ b u, Reader.bind p f ⟨ts, false⟩ s = .found b u ∧ _
  unfold Reader.bind
  rw [hfound]
  exact hf a ha t ht hKt

/-- A sequence misses where its front does. -/
theorem Misses.bind {p : Reads α} (hp : Misses ts K p i) (f : α → Reads β) :
    Misses ts K (p >>= f) i := by
  intro s hs hK
  obtain ⟨t, hmissed, hKt⟩ := hp s hs hK
  refine ⟨t, ?_, hKt⟩
  show Reader.bind p f ⟨ts, false⟩ s = _
  unfold Reader.bind
  rw [hmissed]

/-- A sequence misses where what follows its front does. -/
theorem Gives.bind_misses {p : Reads α} {f : α → Reads β} (hp : Gives ts K p i j P)
    (hf : ∀ a, P a → Misses ts K (f a) j) : Misses ts K (p >>= f) i := by
  intro s hs hK
  obtain ⟨a, t, hfound, ha, ht, hKt⟩ := hp s hs hK
  show ∃ u, Reader.bind p f ⟨ts, false⟩ s = .missed u ∧ _
  unfold Reader.bind
  rw [hfound]
  exact hf a ha t ht hKt

/-- The first alternative is taken where it is there. -/
theorem Gives.orElse {p : Reads α} (hp : Gives ts K p i j P) (q : Reads α) :
    Gives ts K (p <|> q) i j P := by
  intro s hs hK
  obtain ⟨a, t, hfound, ht⟩ := hp s hs hK
  refine ⟨a, t, ?_, ht⟩
  show Reader.orElse p (fun _ => q) ⟨ts, false⟩ s = _
  unfold Reader.orElse
  rw [hfound]

/-- Otherwise the second one counts. -/
theorem Misses.orElse {p q : Reads α} (hp : Misses ts K p i) (hq : Gives ts K q i j P) :
    Gives ts K (p <|> q) i j P := by
  intro s hs hK
  obtain ⟨t, hmissed, hKt⟩ := hp s hs hK
  show ∃ a u, Reader.orElse p (fun _ => q) ⟨ts, false⟩ s = .found a u ∧ _
  unfold Reader.orElse
  rw [hmissed]
  exact hq { t with position := s.position } hs hKt

theorem Misses.orElse_misses {p q : Reads α} (hp : Misses ts K p i) (hq : Misses ts K q i) :
    Misses ts K (p <|> q) i := by
  intro s hs hK
  obtain ⟨t, hmissed, hKt⟩ := hp s hs hK
  show ∃ u, Reader.orElse p (fun _ => q) ⟨ts, false⟩ s = .missed u ∧ _
  unfold Reader.orElse
  rw [hmissed]
  exact hq { t with position := s.position } hs hKt

/-- An alternative that looks for a mistake misses. -/
theorem Misses.diagnosed (p : Reads α) : Misses ts K (Reader.diagnosed p) i :=
  fun s _ hK => ⟨s, rfl, hK⟩

/-- What is not begun leaves the choice to what follows. -/
theorem Misses.commit {p : Reads α} {f : α → Reads β} {q : Reads β} (hp : Misses ts K p i)
    (hq : Misses ts K q i) : Misses ts K (Reader.commit p f q) i := by
  intro s hs hK
  obtain ⟨t, hmissed, hKt⟩ := hp s hs hK
  unfold Reader.commit
  rw [hmissed]
  exact hq { t with position := s.position } hs hKt

theorem Gives.perhaps {p : Reads α} (hp : Gives ts K p i j P) :
    Takes ts K (Reader.perhaps p) i j := by
  intro s hs hK
  obtain ⟨a, t, hfound, -, ht⟩ := hp s hs hK
  unfold Reader.perhaps
  rw [hfound]
  exact ⟨some a, t, rfl, trivial, ht⟩

theorem Misses.perhaps {p : Reads α} (hp : Misses ts K p i) :
    Takes ts K (Reader.perhaps p) i i := by
  intro s hs hK
  obtain ⟨t, hmissed, hKt⟩ := hp s hs hK
  unfold Reader.perhaps
  rw [hmissed]
  exact ⟨none, { t with position := s.position }, rfl, trivial, hs, hKt⟩

theorem Gives.ahead {p : Reads α} (hp : Gives ts K p i j P) : Takes ts K (Reader.ahead p) i i := by
  intro s hs hK
  obtain ⟨a, t, hfound, -, -, hKt⟩ := hp s hs hK
  unfold Reader.ahead
  rw [hfound]
  exact ⟨(), { t with position := s.position }, rfl, trivial, hs, hKt⟩

theorem Misses.ahead {p : Reads α} (hp : Misses ts K p i) : Misses ts K (Reader.ahead p) i := by
  intro s hs hK
  obtain ⟨t, hmissed, hKt⟩ := hp s hs hK
  unfold Reader.ahead
  rw [hmissed]
  exact ⟨t, rfl, hKt⟩

theorem Misses.notAhead {p : Reads α} (hp : Misses ts K p i) :
    Takes ts K (Reader.notAhead p) i i := by
  intro s hs hK
  obtain ⟨t, hmissed, hKt⟩ := hp s hs hK
  unfold Reader.notAhead
  rw [hmissed]
  exact ⟨(), { t with position := s.position }, rfl, trivial, hs, hKt⟩

/-! ## §3. Repetition. -/

/-- One construct after the other, and then something else. -/
inductive Chain (ts : Tokens) (K : Memory → Prop) (p : Reads α) : Nat → Nat → Prop where
  | done {i : Nat} (h : Misses ts K p i) : Chain ts K p i i
  | more {i j k : Nat} (h : Takes ts K p i j) (hlt : i < j) (rest : Chain ts K p j k) :
      Chain ts K p i k

/-- No more constructs than tokens. -/
theorem Chain.repeatUpTo {p : Reads α} (h : Chain ts K p i k) {n : Nat} (hn : k < n + i) :
    Takes ts K (Reader.repeatUpTo p n) i k := by
  induction h generalizing n with
  | @done i hmiss =>
      cases n with
      | zero => omega
      | succ n =>
          intro s hs hK
          obtain ⟨t, hmissed, hKt⟩ := hmiss s hs hK
          unfold Reader.repeatUpTo
          simp only [hmissed]
          exact ⟨[], { t with position := s.position }, rfl, trivial, hs, hKt⟩
  | @more i j k htake hlt rest ih =>
      cases n with
      | zero =>
          -- The end of a chain is not before its start.
          have hle : ∀ {a b : Nat}, Chain ts K p a b → a ≤ b := by
            intro a b hab
            induction hab with
            | done => exact Nat.le_refl _
            | more _ h _ ih => omega
          have := hle rest
          omega
      | succ n =>
          intro s hs hK
          obtain ⟨a, t, hfound, -, ht, hKt⟩ := htake s hs hK
          obtain ⟨as, u, hrest, -, hu⟩ := ih (n := n) (by omega) t ht hKt
          unfold Reader.repeatUpTo
          simp only [hfound, hrest]
          rw [if_neg (by omega)]
          exact ⟨a :: as, u, rfl, trivial, hu⟩

theorem Chain.many {p : Reads α} (h : Chain ts K p i k) (hk : k ≤ ts.all.size) :
    Takes ts K (Reader.many p) i k :=
  fun s hs hK => h.repeatUpTo (n := ts.all.size + 1) (by omega) s hs hK

/-- None at all. -/
theorem Misses.many {p : Reads α} (h : Misses ts K p i) :
    Gives ts K (Reader.many p) i i (· = []) := by
  intro s hs hK
  obtain ⟨t, hmissed, hKt⟩ := h s hs hK
  refine ⟨[], { t with position := s.position }, ?_, rfl, hs, hKt⟩
  show Reader.repeatUpTo p (ts.all.size + 1) ⟨ts, false⟩ s = _
  unfold Reader.repeatUpTo
  simp only [hmissed]

/-- Once, and then more. -/
theorem Gives.many1 {p : Reads α} (hp : Gives ts K p i j P) (h : Chain ts K p j k)
    (hk : k ≤ ts.all.size) : Takes ts K (Reader.many1 p) i k :=
  .bind hp fun _ _ => .bind (h.many hk) fun _ _ => .pure trivial

/-- Once only. -/
theorem Gives.many1_once {p : Reads α} (hp : Gives ts K p i j P) (h : Misses ts K p j) :
    Gives ts K (Reader.many1 p) i j fun as => ∃ a, as = [a] ∧ P a := by
  refine .bind hp fun a ha => .bind h.many fun rest hrest => .pure ⟨a, ?_, ha⟩
  rw [hrest]

theorem Misses.many1 {p : Reads α} (hp : Misses ts K p i) : Misses ts K (Reader.many1 p) i :=
  hp.bind _

/-- Once, and then more behind separators. -/
theorem Gives.separated {p : Reads α} {separator : Reads β} (hp : Gives ts K p i j P)
    (h : Chain ts K (do let _ ← separator; p) j k) (hk : k ≤ ts.all.size) :
    Takes ts K (Reader.separated p separator) i k :=
  .bind hp fun _ _ => .bind (h.many hk) fun _ _ => .pure trivial

/-- Once, and no separator. -/
theorem Gives.separated_once {p : Reads α} {separator : Reads β} (hp : Gives ts K p i j P)
    (h : Misses ts K separator j) : Takes ts K (Reader.separated p separator) i j :=
  .bind hp fun _ _ => .bind (h.bind _).many fun _ _ => .pure trivial

theorem Misses.separated {p : Reads α} {separator : Reads β} (hp : Misses ts K p i) :
    Misses ts K (Reader.separated p separator) i :=
  hp.bind _

/-! ## §4. Tokens. -/

theorem gives_look {t : Token} (h : ts.all[i]? = some t) : Gives ts K look i i (· = t) := by
  intro s hs hK
  subst hs
  refine ⟨t, { s with seen := max s.seen (s.position + 1) }, ?_, rfl, rfl, hK⟩
  unfold look
  simp only [h]

theorem gives_takeIf {ok : Token → Bool} {t : Token} (h : ts.all[i]? = some t) (hok : ok t = true) :
    Gives ts K (takeIf ok) i (i + 1) (· = t) := by
  intro s hs hK
  obtain ⟨a, u, hlook, rfl, hu, hKu⟩ := gives_look (K := K) h s hs hK
  refine ⟨a, { u with position := u.position + 1 }, ?_, rfl, by rw [← hu], hKu⟩
  unfold takeIf
  simp only [hlook, hok, if_true]

theorem misses_takeIf {ok : Token → Bool} {t : Token} (h : ts.all[i]? = some t)
    (hok : ok t = false) : Misses ts K (takeIf ok) i := by
  intro s hs hK
  obtain ⟨a, u, hlook, rfl, hu, hKu⟩ := gives_look (K := K) h s hs hK
  refine ⟨u, ?_, hKu⟩
  unfold takeIf
  simp only [hlook, hok, Bool.false_eq_true, if_false]

namespace Shows

variable {x : Kind × String} {text : String} {texts : List String}

theorem takes_word (h : Shows ts i (.fixed, text)) : Takes ts K (word text) i (i + 1) := by
  obtain ⟨t, ht, hkind, htext⟩ := h
  exact (gives_takeIf ht (by simp [hkind, htext])).takes

/-- A token of another kind or with another text. -/
theorem misses_other {kind : Kind} (h : Shows ts i x) (hx : x ≠ (kind, text)) :
    Misses ts K (takeIf fun t => t.kind == kind && t.text == text) i := by
  obtain ⟨t, ht, hkind, htext⟩ := h
  refine misses_takeIf ht ?_
  rw [Bool.and_eq_false_iff, beq_eq_false_iff_ne, beq_eq_false_iff_ne, hkind, htext]
  by_cases hsame : x.1 = kind
  · exact .inr fun heq => hx (Prod.ext hsame heq)
  · exact .inl hsame

theorem misses_word (h : Shows ts i x) (hx : x ≠ (.fixed, text)) : Misses ts K (word text) i :=
  h.misses_other hx

theorem takes_oneOf (h : Shows ts i (.fixed, text)) (htexts : texts.contains text = true) :
    Takes ts K (oneOf texts) i (i + 1) := by
  obtain ⟨t, ht, hkind, htext⟩ := h
  exact (gives_takeIf ht (by simp [hkind, htext, List.contains_iff_mem.mp htexts])).takes

theorem misses_oneOf (h : Shows ts i x) (hx : ∀ text ∈ texts, x ≠ (.fixed, text)) :
    Misses ts K (oneOf texts) i := by
  obtain ⟨t, ht, hkind, htext⟩ := h
  refine misses_takeIf ht ?_
  rw [Bool.and_eq_false_iff, beq_eq_false_iff_ne, hkind, htext]
  by_cases hsame : x.1 = .fixed
  · refine .inr (Bool.eq_false_iff.mpr fun hmem => ?_)
    exact hx x.2 (List.contains_iff_mem.mp hmem) (Prod.ext hsame rfl)
  · exact .inl hsame

theorem misses_soft (h : Shows ts i x) (hx : x ≠ (.name, text)) : Misses ts K (soft text) i :=
  h.misses_other hx

theorem gives_kind {kind : Kind} (h : Shows ts i (kind, text)) :
    Gives ts K (Reader.kind kind) i (i + 1) fun t => t.kind = kind ∧ t.text = text := by
  obtain ⟨t, ht, hkind, htext⟩ := h
  exact (gives_takeIf ht (by simp [hkind])).mono fun a ha => ha ▸ ⟨hkind, htext⟩

theorem misses_kind {kind : Kind} (h : Shows ts i x) (hx : x.1 ≠ kind) :
    Misses ts K (Reader.kind kind) i := by
  obtain ⟨t, ht, hkind, -⟩ := h
  exact misses_takeIf ht (by simpa [hkind] using hx)

theorem takes_here (h : Shows ts i x) : Takes ts K here i i := by
  obtain ⟨t, ht, -⟩ := h
  exact .bind (gives_look ht) fun _ _ => .pure trivial

theorem takes_required (h : Shows ts i (.fixed, text)) :
    Takes ts K (required text) i (i + 1) := by
  have hword : Takes ts K (word text) i (i + 1) := h.takes_word
  obtain ⟨t, ht, hkind, htext⟩ := h
  refine .bind (gives_look ht) fun a ha => ?_
  rw [ha, hkind, htext, beq_self_eq_true, beq_self_eq_true]
  exact hword

theorem takes_nameText (h : Shows ts i (.name, text)) : Takes ts K nameText i (i + 1) :=
  .bind h.gives_kind fun _ _ => .pure trivial

theorem takes_ident (h : Shows ts i (.name, text)) : Takes ts K ident i (i + 1) :=
  .bind h.gives_kind fun _ _ => .pure trivial

theorem misses_ident (h : Shows ts i x) (hx : x.1 ≠ .name) : Misses ts K ident i :=
  (h.misses_kind hx).bind _

end Shows

theorem takes_endLine : Takes ts K endLine i i := fun s hs hK => ⟨_, s, rfl, trivial, hs, hK⟩

theorem takes_furthest : Takes ts K furthest i i := fun s hs hK => ⟨_, s, rfl, trivial, hs, hK⟩

end CodeAudit.Source.Grammar
