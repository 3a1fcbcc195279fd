/-
  CodeAudit.Number.Rounding
  ─────────────────────────
  **QUOTIENTS ROUNDED TO THE NEAREST WHOLE NUMBER.**

  Every number that a report prints is rounded exactly once, from an exact
  fraction.  `roundDiv` is that one rounding: the nearest whole number, and
  the even one of the two neighbours when the fraction lies half way.
-/

namespace CodeAudit.Number

/-! ## §1. Powers. -/

/-- A power of two. -/
def twoTo (n : Nat) : Nat := Nat.pow 2 n

/-- A power of ten. -/
def tenTo (n : Nat) : Nat := Nat.pow 10 n

/-- Powers of two are positive. -/
theorem twoTo_pos (n : Nat) : 0 < twoTo n := Nat.two_pow_pos n

/-! ## §2. Rounding a quotient. -/

/-- The whole number nearest to `num / den`; a tie goes to the even neighbour. -/
def roundDiv (num den : Nat) : Nat :=
  let whole := num / den
  let rest := num % den
  if 2 * rest < den then whole
  else if den < 2 * rest then whole + 1
  else whole + whole % 2

end CodeAudit.Number
