/-
  CodeAudit.Proofs.Totals
  ───────────────────────
  **COUNTERS AS WHOLE NUMBERS.**

  The metrics of an audit are loosely typed, but an audit starts them all at
  a whole number and only ever adds whole numbers.  `Totals` is what they
  denote: one whole number per counter.  On metrics that denote totals,
  adding never fails and is addition:

      (ofTotals t).count c n  =  .ok (ofTotals (t + n at c))

  Everything that is said about sums of metrics is said about `Totals`.
-/
import CodeAudit.Audit.Metrics
import Mathlib.Algebra.BigOperators.Group.List.Basic
import Mathlib.Algebra.Ring.Int.Defs
import Mathlib.Algebra.Group.Pi.Basic
import Mathlib.Data.List.Nodup

namespace CodeAudit.Audit

open CodeAudit.Data CodeAudit.Source

/-! ## §1. The keys of the counters. -/

namespace Counter

/-- Every counter is among the metrics. -/
theorem mem_all (c : Counter) : c ∈ all := by cases c <;> decide

/-- No two counters of the list share a key. -/
theorem nodup_keys : (all.map key).Nodup := by decide

/-- Counters are told apart by their keys. -/
theorem key_injective : Function.Injective key := by
  intro c d h
  exact List.inj_on_of_nodup_map nodup_keys (mem_all c) (mem_all d) h

/-- Keys compare as counters do. -/
theorem key_inj {c d : Counter} : c.key = d.key ↔ c = d := key_injective.eq_iff

end Counter

/-! ## §2. Totals. -/

/-- A whole number for each counter. -/
abbrev Totals := Counter → Int

namespace Totals

/-- The amounts that a list of counts adds up to. -/
def of (counts : List (Counter × Int)) : Totals :=
  (counts.map fun p => Pi.single p.1 p.2).sum

@[simp] theorem of_nil : of [] = 0 := rfl

@[simp] theorem of_cons (c : Counter) (n : Int) (rest : List (Counter × Int)) :
    of ((c, n) :: rest) = Pi.single c n + of rest := by
  simp [of]

@[simp] theorem of_append (a b : List (Counter × Int)) : of (a ++ b) = of a + of b := by
  simp [of]

/-- A counter that is not among the counts gets nothing. -/
theorem of_apply_eq_zero {counts : List (Counter × Int)} {c : Counter}
    (h : c ∉ counts.map (·.1)) : of counts c = 0 := by
  induction counts with
  | nil => rfl
  | cons p rest ih =>
      obtain ⟨d, n⟩ := p
      rw [List.map_cons, List.mem_cons, not_or] at h
      obtain ⟨hne, hrest⟩ := h
      rw [of_cons, Pi.add_apply, Pi.single_eq_of_ne hne, ih hrest, zero_add]

/-- A sum of totals is a sum for each counter. -/
theorem sum_apply (ts : List Totals) (c : Counter) : ts.sum c = (ts.map (· c)).sum := by
  induction ts with
  | nil => rfl
  | cons t rest ih => simp [ih]

end Totals

/-! ## §3. Metrics that denote totals. -/

namespace Metrics

/-- The metrics that hold the given totals. -/
def ofTotals (t : Totals) : Metrics := Counter.all.map fun c => (c.key, .int (t c))

/-- An audit starts with all totals at zero. -/
theorem zero_eq_ofTotals : zero = ofTotals 0 := rfl

/-- Reading a counter from the counters of a list. -/
theorem get?_map_key (v : Counter → Value) (c : Counter) (cs : List Counter) (hc : c ∈ cs) :
    Dict.get? (cs.map fun d => (d.key, v d)) c.key = some (v c) := by
  induction cs with
  | nil => cases hc
  | cons d rest ih =>
      by_cases h : c = d
      · subst h
        simp [Dict.get?]
      · have hb : (c.key == d.key) = false := by simpa [Counter.key_inj] using h
        have hrest : c ∈ rest := (List.mem_cons.mp hc).resolve_left h
        simpa [Dict.get?, List.lookup_cons, hb] using ih hrest

/-- Writing a counter changes the entry of that counter alone. -/
theorem put_map_key (v : Counter → Value) (c : Counter) (w : Value) (cs : List Counter)
    (hc : c ∈ cs) (hn : cs.Nodup) :
    Dict.put (cs.map fun d => (d.key, v d)) c.key w
      = cs.map fun d => (d.key, if d = c then w else v d) := by
  induction cs with
  | nil => cases hc
  | cons d rest ih =>
      obtain ⟨hd, hrest⟩ := List.nodup_cons.mp hn
      by_cases h : d = c
      · -- The keys are distinct, so the other entries stay as they are.
        subst h
        have hothers : ∀ e ∈ rest, (e.key, v e) = (e.key, if e = d then w else v e) := by
          intro e he
          have hne : e ≠ d := fun heq => hd (heq ▸ he)
          rw [if_neg hne]
        simp only [List.map_cons, Dict.put, beq_self_eq_true, if_true]
        rw [List.map_congr_left hothers]
      · have hb : (d.key == c.key) = false := by simpa [Counter.key_inj] using h
        have hc' : c ∈ rest := (List.mem_cons.mp hc).resolve_left (Ne.symm h)
        simp only [List.map_cons, Dict.put, hb, h, if_false, Bool.false_eq_true]
        rw [ih hc' hrest]

/-- No counter stands twice among the metrics. -/
theorem nodup_all : Counter.all.Nodup := List.Nodup.of_map _ Counter.nodup_keys

/-- Every counter is read back. -/
@[simp] theorem get?_ofTotals (t : Totals) (c : Counter) :
    Dict.get? (ofTotals t) c.key = some (.int (t c)) :=
  get?_map_key (fun d => .int (t d)) c Counter.all (Counter.mem_all c)

@[simp] theorem get_ofTotals (t : Totals) (c : Counter) :
    get (ofTotals t) c.key = .ok (.int (t c)) := by
  simp [get, Value.field]

/-- Writing a whole number at a counter. -/
theorem put_ofTotals (t : Totals) (c : Counter) (n : Int) :
    Dict.put (ofTotals t) c.key (.int n) = ofTotals (Function.update t c n) := by
  rw [ofTotals, put_map_key _ _ _ _ (Counter.mem_all c) nodup_all]
  refine List.map_congr_left fun d _ => ?_
  by_cases h : d = c
  · subst h
    simp
  · simp [h]

/-- Adding to a counter never fails and is addition. -/
@[simp] theorem count_ofTotals (t : Totals) (c : Counter) (n : Int) :
    count (ofTotals t) c n = .ok (ofTotals (t + Pi.single c n)) := by
  have hsum : Function.update t c (t c + n) = t + Pi.single c n := by
    funext d
    by_cases h : d = c
    · subst h
      simp
    · simp [h]
  show (do
    let old ← get (ofTotals t) c.key
    let new ← increase old n
    .ok (Dict.put (ofTotals t) c.key new)) = _
  rw [get_ofTotals]
  show Except.ok (Dict.put (ofTotals t) c.key (.int (t c + n))) = _
  rw [put_ofTotals, hsum]

end Metrics

end CodeAudit.Audit
