/-
  CodeAudit.Proofs.Source.Remembering
  ───────────────────────────────────
  **REMEMBERED RULES DO WHAT THEY WOULD DO ANYWAY.**

  The rules of the grammar call each other down to some depth, and some of
  them take over what was remembered at a place.  What a rule does without
  memory does not change any more once the depth is great enough: it is
  settled.  Memory that holds nothing but what is settled changes nothing,
  and it stays that way.

  To say at once what rules do with and without memory, a `World` is any way
  of tying the rules together in which a settled outcome of a definition is
  the outcome of its rule.

    • `plain`, `remembered` — the two worlds,
    • `Settles.intro` — what the definition of a rule does in all worlds from
      a depth on, the rule does from the next depth on,
    • `settles_misses` — rules that miss if each other do,
    • `ok_of_takes` — a text is read if its grammar takes its tokens.
-/
import CodeAudit.Proofs.Source.Outcomes

namespace CodeAudit.Source.Grammar

open Reader

/-! ## §1. Rules without memory. -/

/-- The rules, calling each other at most `n` deep and remembering nothing. -/
def forgetful : Nat → Rules
  | 0 => fun _ => miss
  | n + 1 => fun r env s => define (forgetful n) r env s

/-- What a reader does at a token: it ends at another one, or misses. -/
def Does {α : Type} (ts : Tokens) (K : Memory → Prop) (p : Reads α) (i : Nat) : Option Nat → Prop
  | some j => Takes ts K p i j
  | none => Misses ts K p i

/-- A reader does one thing only. -/
theorem Does.unique {α : Type} {ts : Tokens} {K : Memory → Prop} {p : Reads α} {i : Nat}
    {o o' : Option Nat} (h : Does ts K p i o) (h' : Does ts K p i o') {m : Memory} (hm : K m) :
    o = o' := by
  cases o with
  | some j =>
      obtain ⟨a, t, hfound, -, ht, -⟩ := h ⟨i, 0, m⟩ rfl hm
      cases o' with
      | some j' =>
          obtain ⟨a', t', hfound', -, ht', -⟩ := h' ⟨i, 0, m⟩ rfl hm
          rw [hfound] at hfound'
          cases hfound'
          rw [← ht, ← ht']
      | none =>
          obtain ⟨t', hmissed, -⟩ := h' ⟨i, 0, m⟩ rfl hm
          rw [hfound] at hmissed
          cases hmissed
  | none =>
      obtain ⟨t, hmissed, -⟩ := h ⟨i, 0, m⟩ rfl hm
      cases o' with
      | some j' =>
          obtain ⟨a', t', hfound', -⟩ := h' ⟨i, 0, m⟩ rfl hm
          rw [hmissed] at hfound'
          cases hfound'
      | none => rfl

/-- What a rule does without memory from some depth on. -/
def Settled (ts : Tokens) (r : Rule) (i : Nat) (o : Option Nat) : Prop :=
  ∃ N, ∀ n, N ≤ n → Does ts (fun _ => True) (forgetful n r) i o

variable {ts : Tokens} {r : Rule} {i N : Nat} {o : Option Nat}

theorem Settled.unique {o' : Option Nat} (h : Settled ts r i o) (h' : Settled ts r i o') :
    o = o' := by
  obtain ⟨N, h⟩ := h
  obtain ⟨N', h'⟩ := h'
  exact (h (max N N') (Nat.le_max_left _ _)).unique (h' (max N N') (Nat.le_max_right _ _))
    (m := #[]) trivial

/-! ## §2. Sound memory. -/

/-- Everything that is remembered is settled. -/
def Sound (ts : Tokens) (m : Memory) : Prop :=
  ∀ i es, m[i]? = some es → ∀ e ∈ es, Settled ts e.rule i (e.outcome.map (·.2))

/-- A remembered outcome of a rule is an entry of the memory. -/
theorem settled_of_outcomeOf? {es : List Entry} {outcome : Option (r.Result × Nat)}
    (h : outcomeOf? r es = some outcome)
    (hes : ∀ e ∈ es, Settled ts e.rule i (e.outcome.map (·.2))) :
    Settled ts r i (outcome.map (·.2)) := by
  induction es with
  | nil => cases h
  | cons e rest ih =>
      unfold outcomeOf? at h
      split at h
      · rename_i hr
        subst hr
        cases h
        exact hes e List.mem_cons_self
      · exact ih h fun d hd => hes d (List.mem_cons_of_mem e hd)

/-- Remembering what is settled. -/
theorem sound_remember {m : Memory} (hm : Sound ts m) {e : Entry}
    (he : Settled ts e.rule i (e.outcome.map (·.2))) : Sound ts (remember m i e) := by
  intro k es hk d hd
  have hmodify : (remember m i e)[k]? = if i = k then m[k]?.map (e :: ·) else m[k]? :=
    Array.getElem?_modify
  rw [hmodify] at hk
  split at hk
  · rename_i hik
    subst hik
    obtain ⟨old, hold, rfl⟩ := Option.map_eq_some_iff.mp hk
    rcases List.mem_cons.mp hd with rfl | hd
    · exact he
    · exact hm i old hold d hd
  · exact hm k es hk d hd

theorem sound_noMemory (ts : Tokens) : Sound ts (noMemory ts) := by
  intro i es hes e he
  obtain ⟨-, rfl⟩ := Array.mem_replicate.mp (Array.mem_of_getElem? hes)
  exact absurd he List.not_mem_nil

/-- **Remembering a settled outcome changes nothing.** -/
theorem Does.remembering {p : Reads r.Result} (hsettled : Settled ts r i o)
    (hp : Does ts (Sound ts) p i o) : Does ts (Sound ts) (remembering r p) i o := by
  -- What memory has of the rule at this token is what is settled.
  have hmemory : ∀ (m : Memory) (outcome : Option (r.Result × Nat)), Sound ts m →
      outcomeOf? r (m[i]?.getD []) = some outcome → o = outcome.map (·.2) := by
    intro m outcome hm houtcome
    refine hsettled.unique (settled_of_outcomeOf? houtcome ?_)
    cases hes : m[i]? with
    | none => exact List.forall_mem_nil _
    | some es => exact hm i es hes
  cases o with
  | some j =>
      intro s hs hm
      obtain ⟨a, t, hfound, -, ht, hmt⟩ := hp s hs hm
      subst hs
      unfold Grammar.remembering
      simp only
      split
      · rename_i b after hout
        have hafter := Option.some.inj (hmemory _ _ hm hout)
        exact ⟨b, { s with position := after }, rfl, trivial, hafter.symm, hm⟩
      · rename_i hout
        cases hmemory _ _ hm hout
      · rw [hfound]
        refine ⟨a, _, rfl, trivial, ht, sound_remember hmt ?_⟩
        rw [← ht] at hsettled
        exact hsettled
  | none =>
      intro s hs hm
      obtain ⟨t, hmissed, hmt⟩ := hp s hs hm
      subst hs
      unfold Grammar.remembering
      simp only
      split
      · rename_i b after hout
        cases hmemory _ _ hm hout
      · exact ⟨s, rfl, hm⟩
      · rw [hmissed]
        exact ⟨_, rfl, sound_remember hmt hsettled⟩

/-! ## §3. Worlds. -/

/-- A way of tying the rules together. -/
structure World (ts : Tokens) where
  /-- What holds of the memory at all times. -/
  keeps : Memory → Prop
  rules : Nat → Rules
  start : ∀ r i, Misses ts keeps (rules 0 r) i
  step : ∀ n r i o, Settled ts r i o → Does ts keeps (define (rules n) r) i o →
    Does ts keeps (rules (n + 1) r) i o

/-- The world without memory. -/
def World.plain (ts : Tokens) : World ts where
  keeps := fun _ => True
  rules := forgetful
  start := fun _ _ => .miss
  step := fun _ _ _ _ _ h => h

/-- The world with memory. -/
def World.remembered (ts : Tokens) : World ts where
  keeps := Sound ts
  rules := Grammar.rules
  start := fun _ _ => .miss
  step := by
    intro n r i o hsettled h
    show Does ts (Sound ts) (if r.remembered then remembering r (define (Grammar.rules n) r)
      else define (Grammar.rules n) r) i o
    by_cases hr : r.remembered = true
    · rw [if_pos hr]
      exact h.remembering hsettled
    · rw [if_neg hr]
      exact h

/-- From a depth on, a rule does the same in all worlds. -/
def Settles (ts : Tokens) (N : Nat) (r : Rule) (i : Nat) (o : Option Nat) : Prop :=
  ∀ (w : World ts) (n : Nat), N ≤ n → Does ts w.keeps (w.rules n r) i o

theorem Settles.mono {M : Nat} (h : Settles ts N r i o) (hM : N ≤ M) : Settles ts M r i o :=
  fun w n hn => h w n (Nat.le_trans hM hn)

/-- **What the definition of a rule does in all worlds from a depth on, the rule does
from the next depth on.** -/
theorem Settles.intro (h : ∀ (w : World ts) (n : Nat), N ≤ n →
    Does ts w.keeps (define (w.rules n) r) i o) : Settles ts (N + 1) r i o := by
  have hplain : Settled ts r i o := by
    refine ⟨N + 1, fun n hn => ?_⟩
    obtain ⟨m, rfl⟩ : ∃ m, n = m + 1 := ⟨n - 1, by omega⟩
    exact h (World.plain ts) m (by omega)
  intro w n hn
  obtain ⟨m, rfl⟩ : ∃ m, n = m + 1 := ⟨n - 1, by omega⟩
  exact w.step m r i o hplain (h w m (by omega))

/-- **Rules that miss at a token if each other do.** -/
theorem settles_misses {rules : List Rule}
    (h : ∀ (K : Memory → Prop) (g : Rules), (∀ r ∈ rules, Misses ts K (g r) i) →
      ∀ r ∈ rules, Misses ts K (define g r) i) :
    ∀ r ∈ rules, Settles ts 0 r i none := by
  have hplain : ∀ n, ∀ r ∈ rules, Misses ts (fun _ => True) (forgetful n r) i := by
    intro n
    induction n with
    | zero => exact fun r _ => .miss
    | succ n ih => exact h _ (forgetful n) ih
  have hworld : ∀ (w : World ts) (n : Nat), ∀ r ∈ rules, Misses ts w.keeps (w.rules n r) i := by
    intro w n
    induction n with
    | zero => exact fun r _ => w.start r i
    | succ n ih =>
        intro r hr
        have hsettled : Settled ts r i none := ⟨0, fun n _ => hplain n r hr⟩
        exact w.step n r i none hsettled (h w.keeps (w.rules n) ih r hr)
  exact fun r hr w n _ => hworld w n r hr

/-! ## §4. Whole texts. -/

/-- **A text is read if the grammar takes its tokens.** -/
theorem ok_of_takes {α : Type} {p : Reads α} {j : Nat} (h : Takes ts (Sound ts) p 0 j) :
    ∃ a, complete p (noMemory ts) ts = .ok a := by
  obtain ⟨a, t, hfound, -⟩ := h ⟨0, 0, noMemory ts⟩ rfl (sound_noMemory ts)
  refine ⟨a, ?_⟩
  unfold complete
  rw [hfound]

end CodeAudit.Source.Grammar
