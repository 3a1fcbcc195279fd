/-
  CodeAudit.Proofs.Averages
  ─────────────────────────
  **AVERAGES ARE QUOTIENTS.**

  An average is zero where there are no functions, and otherwise a rounded
  quotient of two counters.  A quotient of whole numbers fails for a zero
  divisor, and beyond the greatest number of the format.  Below `2 ^ 1023` it
  does not (`divide_ok`), so up to that size an average is never the zero
  that stands in for a failure (`average_quotient`).
-/
import CodeAudit.Proofs.Conclusion

namespace CodeAudit.Number.Binary64

/-! ## §1. Quotients within the format. -/

/-- The leading digit of a quotient below a power of two. -/
theorem leadingDigit_lt {num den k : Nat} (hnum : num ≠ 0) (h : num < den * twoTo k) :
    leadingDigit num den < k := by
  have hguess : Nat.log2 num < Nat.log2 den + 1 + k := by
    rw [Nat.log2_lt hnum, Nat.pow_add]
    calc num < den * twoTo k := h
      _ ≤ 2 ^ (Nat.log2 den + 1) * 2 ^ k :=
        Nat.mul_le_mul_right _ (Nat.le_of_lt Nat.lt_log2_self)
  unfold leadingDigit
  simp only
  split
  · split
    · -- The guess is reached, so the power of two at it is below the other.
      rename_i hreached
      have hpow : twoTo ((Nat.log2 num : Int) - Nat.log2 den).toNat < twoTo k :=
        Nat.lt_of_mul_lt_mul_left (Nat.lt_of_le_of_lt hreached h)
      have hlt : ((Nat.log2 num : Int) - Nat.log2 den).toNat < k :=
        (Nat.pow_lt_pow_iff_right (by decide)).mp hpow
      omega
    · omega
  · split <;> omega

/-- **A quotient below `2 ^ 1023` is a finite number of the format.** -/
theorem ofFraction_finite (negative : Bool) {num den : Nat} (h : num < den * twoTo 1023) :
    ∃ m e, ofFraction negative num den = .finite negative m e := by
  unfold ofFraction
  by_cases hnum : num = 0
  · exact ⟨0, -1074, if_pos hnum⟩
  · have hexponent : max (leadingDigit num den - 52) (-1074) ≤ 970 := by
      have hdigit := leadingDigit_lt hnum h
      omega
    rw [if_neg hnum]
    simp only
    generalize max (leadingDigit num den - 52) (-1074) = exponent at hexponent ⊢
    generalize (if 0 ≤ exponent then roundDiv num (den * twoTo exponent.toNat)
      else roundDiv (num * twoTo (-exponent).toNat) den) = mantissa
    by_cases hmantissa : mantissa = twoTo 53
    · -- Rounding up to the next power of two raises the exponent by one.
      have hraised : ¬ exponent + 1 > 971 := by omega
      rw [if_pos hmantissa]
      exact ⟨_, _, if_neg hraised⟩
    · have hkept : ¬ exponent > 971 := by omega
      rw [if_neg hmantissa]
      exact ⟨_, _, if_neg hkept⟩

end CodeAudit.Number.Binary64

namespace CodeAudit.Audit

open CodeAudit.Data CodeAudit.Number CodeAudit.Source
open Metrics (ofTotals)

/-- Dividing whole numbers succeeds within the format. -/
theorem divide_ok {total functions : Int} (hpos : 0 < functions)
    (h : total.natAbs < functions.natAbs * twoTo 1023) :
    ∃ q, (Value.int total).divide (.int functions) = .ok q := by
  obtain ⟨m, e, hfinite⟩ :=
    Binary64.ofFraction_finite (decide (total < 0) != decide (functions < 0)) h
  refine ⟨.finite (decide (total < 0) != decide (functions < 0)) m e, ?_⟩
  show Value.Numeral.div (.whole total) (.whole functions) = _
  unfold Value.Numeral.div
  simp only
  rw [if_neg (by omega), hfinite]

/-! ## §2. Averages. -/

/-- Without functions an average is zero. -/
theorem average_of_none {t : Totals} (h : t .functions ≤ 0) (c : Counter) :
    average (ofTotals t) c = .int 0 := by
  have hnone : decide (0 < t .functions) = false := decide_eq_false (by omega)
  unfold average
  rw [Metrics.get_ofTotals, Metrics.get_ofTotals]
  simp only [Value.above_int, hnone]

/-- **With functions an average is the rounded quotient.** -/
theorem average_quotient {t : Totals} (hpos : 0 < t .functions) {c : Counter}
    (h : (t c).natAbs < (t .functions).natAbs * twoTo 1023) :
    ∃ q, (Value.int (t c)).divide (.int (t .functions)) = .ok q ∧
      average (ofTotals t) c = .real (q.roundTo 2) := by
  obtain ⟨q, hq⟩ := divide_ok hpos h
  have hsome : decide (0 < t .functions) = true := decide_eq_true hpos
  refine ⟨q, hq, ?_⟩
  unfold average
  rw [Metrics.get_ofTotals, Metrics.get_ofTotals]
  simp only [Value.above_int, hsome, hq]

/-- A report shows the average of a counter: zero without functions, and
otherwise the quotient within the format. -/
def ShowsAverage (report : Dict) (c : Counter) (key : String) : Prop :=
  ∃ total functions : Int,
    metric? report c.key = some (.int total) ∧
      metric? report Counter.functions.key = some (.int functions) ∧
      (functions ≤ 0 → metric? report key = some (.int 0)) ∧
      (0 < functions → total.natAbs < functions.natAbs * twoTo 1023 →
        ∃ q, (Value.int total).divide (.int functions) = .ok q ∧
          metric? report key = some (.real (q.roundTo 2)))

/-- The report of a standing shows an average that its summary holds. -/
theorem showsAverage_report {s : Standing} {t : Totals} {c : Counter} {key : String}
    (hcounter : ∀ d : Counter, Dict.get? s.summary d.key = some (.int (t d)))
    (hkey : Dict.get? s.summary key = some (average (ofTotals t) c)) :
    ShowsAverage s.report c key := by
  refine ⟨t c, t .functions, hcounter c, hcounter .functions, fun hnone => ?_, fun hpos h => ?_⟩
  · rw [metric?_report, hkey, average_of_none hnone]
  · obtain ⟨q, hq, haverage⟩ := average_quotient hpos h
    refine ⟨q, hq, ?_⟩
    rw [metric?_report, hkey, haverage]

end CodeAudit.Audit
