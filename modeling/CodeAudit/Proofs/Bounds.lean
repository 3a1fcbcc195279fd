/-
  CodeAudit.Proofs.Bounds
  ───────────────────────
  **NUMBERS AGAINST BOUNDS.**

  A metric is a whole number or a float, and it is held against whole bounds.
  The comparison never rounds: every number but `notANumber` has its point on
  the line of rational numbers with two ends, and it passes a bound if it lies
  to the right of it there.

    • `Place.lt_iff` — places are compared as points,
    • `above_eq`, `exceeds_iff` — when a value passes a bound,
    • `exceeds_of_le` — what passes a bound passes every lower one,
    • `AtMost.exceeds` — what lies further right passes as many bounds.
-/
import CodeAudit.Data.Operations
import Mathlib.Algebra.Order.Field.Basic
import Mathlib.Data.Rat.Cast.Order
import Mathlib.Order.WithBot

namespace CodeAudit.Number

/-! ## §1. The line. -/

namespace Fraction

/-- The rational number that a fraction denotes. -/
def toRat (q : Fraction) : ℚ := q.num / q.den

theorem toRat_ofInt (n : Int) : (ofInt n).toRat = n := by
  show ((n : ℚ) / ((1 : Nat) : ℚ)) = n
  rw [Nat.cast_one, div_one]

theorem lt_iff (a b : Fraction) : a.lt b = true ↔ a.toRat < b.toRat := by
  have ha : (0 : ℚ) < a.den := by exact_mod_cast a.den_pos
  have hb : (0 : ℚ) < b.den := by exact_mod_cast b.den_pos
  unfold lt toRat
  rw [decide_eq_true_eq, div_lt_div_iff₀ ha hb]
  norm_cast

end Fraction

/-- The rational numbers with an end on either side. -/
abbrev Line := WithBot (WithTop ℚ)

namespace Binary64.Place

/-- The point of a place. -/
def point : Place → Line
  | .below => ⊥
  | .at q => ((q.toRat : WithTop ℚ) : Line)
  | .above => ((⊤ : WithTop ℚ) : Line)

theorem lt_iff (p q : Place) : p.lt q = true ↔ p.point < q.point := by
  cases p <;> cases q
  case at.above a => exact iff_of_true rfl (WithBot.coe_lt_coe.mpr (WithTop.coe_lt_top a.toRat))
  all_goals simp [lt, point, Fraction.lt_iff]

end Binary64.Place

end CodeAudit.Number

namespace CodeAudit.Audit

open CodeAudit.Data

/-- Whether a value is a number. -/
def isNumber (v : Value) : Bool := v.numeral?.isSome

end CodeAudit.Audit

namespace CodeAudit.Data.Value

open CodeAudit.Number CodeAudit.Audit

/-! ## §2. Values on the line. -/

/-- The point of a value; none for what is no number. -/
def point? (v : Value) : Option Line := (v.numeral?.bind Numeral.place?).map Binary64.Place.point

/-- The point of a whole number. -/
def pointOf (n : Int) : Line := (((n : ℚ) : WithTop ℚ) : Line)

theorem point?_int (n : Int) : (Value.int n).point? = some (pointOf n) := by
  show some (((Fraction.ofInt n).toRat : WithTop ℚ) : Line) = _
  rw [Fraction.toRat_ofInt]
  rfl

theorem pointOf_lt {a b : Int} : pointOf a < pointOf b ↔ a < b := by
  simp [pointOf]

theorem pointOf_le {a b : Int} : pointOf a ≤ pointOf b ↔ a ≤ b := by
  simp [pointOf]

/-- Whether a value passes a bound; one that cannot be compared does not. -/
def exceeds (v : Value) (bound : Int) : Bool := (v.above bound).toOption.getD false

/-- A number can be held against every bound. -/
theorem above_eq {v : Value} (h : isNumber v = true) (bound : Int) :
    v.above bound = .ok (v.exceeds bound) := by
  obtain ⟨a, ha⟩ := Option.isSome_iff_exists.mp h
  simp only [exceeds, above, ha]
  rfl

/-- **A value passes a bound if and only if it lies to the right of it.** -/
theorem exceeds_iff (v : Value) (bound : Int) :
    v.exceeds bound = true ↔ ∃ x, v.point? = some x ∧ pointOf bound < x := by
  unfold exceeds above point?
  cases v.numeral? with
  | none => simp [Except.toOption]
  | some a =>
      have hbound : (Numeral.whole bound).place? = some (.at (.ofInt bound)) := rfl
      have hpoint : (Binary64.Place.at (.ofInt bound)).point = pointOf bound := by
        simp [Binary64.Place.point, pointOf, Fraction.toRat_ofInt]
      simp only [Except.toOption, Option.getD_some, Numeral.lt, hbound, Option.bind_some]
      cases a.place? with
      | none => simp
      | some p => simp [Binary64.Place.lt_iff, hpoint]

@[simp] theorem exceeds_int (n bound : Int) :
    (Value.int n).exceeds bound = decide (bound < n) := by
  rw [Bool.eq_iff_iff, exceeds_iff, point?_int, decide_eq_true_eq]
  simp [pointOf_lt]

/-- What passes a bound passes every lower one. -/
theorem exceeds_of_le {v : Value} {low high : Int} (h : low ≤ high)
    (hv : v.exceeds high = true) : v.exceeds low = true := by
  rw [exceeds_iff] at hv ⊢
  obtain ⟨x, hx, hlt⟩ := hv
  exact ⟨x, hx, lt_of_le_of_lt (pointOf_le.mpr h) hlt⟩

/-- Both are numbers, and the first is not greater than the second. -/
def AtMost (v w : Value) : Prop := ∃ x y, v.point? = some x ∧ w.point? = some y ∧ x ≤ y

theorem atMost_int {a b : Int} : AtMost (.int a) (.int b) ↔ a ≤ b := by
  simp [AtMost, point?_int, pointOf_le]

/-- **A greater number passes every bound that a smaller one passes.** -/
theorem AtMost.exceeds {v w : Value} (h : v.AtMost w) {bound : Int}
    (hv : v.exceeds bound = true) : w.exceeds bound = true := by
  obtain ⟨x, y, hx, hy, hxy⟩ := h
  rw [exceeds_iff] at hv ⊢
  obtain ⟨z, hz, hlt⟩ := hv
  rw [hx] at hz
  cases hz
  exact ⟨y, hy, lt_of_lt_of_le hlt hxy⟩

theorem above_int (n bound : Int) : (Value.int n).above bound = .ok (decide (bound < n)) := by
  rw [above_eq rfl, exceeds_int]

theorem under_int (n bound : Int) : (Value.int n).under bound = .ok (decide (n < bound)) := by
  show Except.ok (decide (n * ((1 : Nat) : Int) < bound * ((1 : Nat) : Int))) = _
  rw [Int.ofNat_one, Int.mul_one, Int.mul_one]

theorem equals_int (n k : Int) : (Value.int n).equals k = decide (n = k) := by
  show decide (n * ((1 : Nat) : Int) = k * ((1 : Nat) : Int)) = _
  rw [Int.ofNat_one, Int.mul_one, Int.mul_one]

end CodeAudit.Data.Value
