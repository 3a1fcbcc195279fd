/-
  CodeAudit.Number.Binary64
  ─────────────────────────
  **BINARY64 NUMBERS AS EXACT FRACTIONS.**

  A finite number is `± m · 2^e`.  Every operation computes the exact
  fraction of its operands and rounds it ONCE, to the nearest number with 53
  binary digits, ties to the even mantissa (`ofFraction`).  Comparison never
  rounds: two numbers are ordered as the fractions they denote, so a float
  and a whole number of any size compare exactly.
-/
import CodeAudit.Number.Rounding

namespace CodeAudit.Number

/-! ## §1. The numbers. -/

/-- A number of the binary64 format. -/
inductive Binary64 where
  /-- `± mantissa · 2 ^ exponent`; the mantissa has at most 53 binary digits
  and the exponent lies between -1074 and 971. -/
  | finite (negative : Bool) (mantissa : Nat) (exponent : Int)
  /-- Beyond the greatest finite number. -/
  | infinite (negative : Bool)
  /-- The result of an operation that has none. -/
  | notANumber
  deriving DecidableEq, Repr

/-- A fraction `num / den` with a positive denominator. -/
structure Fraction where
  num : Int
  den : Nat
  den_pos : 0 < den := by decide

namespace Fraction

/-- A whole number as a fraction. -/
def ofInt (n : Int) : Fraction := ⟨n, 1, by decide⟩

/-- Strictly smaller. -/
def lt (a b : Fraction) : Bool := decide (a.num * b.den < b.num * a.den)

/-- Equal as numbers. -/
def eq (a b : Fraction) : Bool := decide (a.num * b.den = b.num * a.den)

/-- The sum. -/
def add (a b : Fraction) : Fraction :=
  ⟨a.num * b.den + b.num * a.den, a.den * b.den, Nat.mul_pos a.den_pos b.den_pos⟩

/-- The product. -/
def mul (a b : Fraction) : Fraction :=
  ⟨a.num * b.num, a.den * b.den, Nat.mul_pos a.den_pos b.den_pos⟩

end Fraction

namespace Binary64

/-! ## §2. Rounding a fraction into the format. -/

/-- The position of the leading binary digit of `num / den`, both positive:
the greatest `k` with `2 ^ k ≤ num / den`. -/
def leadingDigit (num den : Nat) : Int :=
  let guess : Int := (Nat.log2 num : Int) - (Nat.log2 den : Int)
  let reached :=
    if 0 ≤ guess then den * twoTo guess.toNat ≤ num
    else den ≤ num * twoTo (-guess).toNat
  if reached then guess else guess - 1

/-- `num / den` rounded to the nearest number of the format, ties to even. -/
def ofFraction (negative : Bool) (num den : Nat) : Binary64 :=
  if num = 0 then .finite negative 0 (-1074)
  else
    let exponent := max (leadingDigit num den - 52) (-1074)
    let mantissa :=
      if 0 ≤ exponent then roundDiv num (den * twoTo exponent.toNat)
      else roundDiv (num * twoTo (-exponent).toNat) den
    let (mantissa, exponent) :=
      if mantissa = twoTo 53 then (twoTo 52, exponent + 1) else (mantissa, exponent)
    if exponent > 971 then .infinite negative
    else .finite negative mantissa exponent

/-- A signed fraction rounded into the format; zero is positive. -/
def ofRatio (q : Fraction) : Binary64 :=
  ofFraction (decide (q.num < 0)) q.num.natAbs q.den

/-- The nearest number to a whole number. -/
def ofInt (n : Int) : Binary64 := ofRatio (.ofInt n)

/-- The number `digits · 10 ^ power`, as decimal text denotes it. -/
def ofDecimal (negative : Bool) (digits : Nat) (power : Int) : Binary64 :=
  if digits = 0 then ofFraction negative 0 1
  else if power > 400 then .infinite negative
  else if power < -1200 - (Nat.log2 digits : Int) then ofFraction negative 0 1
  else if 0 ≤ power then ofFraction negative (digits * tenTo power.toNat) 1
  else ofFraction negative digits (tenTo (-power).toNat)

/-! ## §3. What a number denotes. -/

/-- The sign bit. -/
def isNegative : Binary64 → Bool
  | .finite negative _ _ => negative
  | .infinite negative => negative
  | .notANumber => false

/-- The exact value of a finite number. -/
def toFraction? : Binary64 → Option Fraction
  | .finite negative m e =>
      let size : Int := (m * twoTo e.toNat : Nat)
      some ⟨if negative then -size else size, twoTo (-e).toNat, twoTo_pos _⟩
  | _ => none

/-- Equal to zero, of either sign. -/
def isZero : Binary64 → Bool
  | .finite _ m _ => m == 0
  | _ => false

/-! ## §4. Arithmetic: exact, then one rounding. -/

/-- The sum. -/
def add (x y : Binary64) : Binary64 :=
  match x.toFraction?, y.toFraction? with
  | some a, some b =>
      if x.isZero && y.isZero then .finite (x.isNegative && y.isNegative) 0 (-1074)
      else ofRatio (a.add b)
  | some _, none => y
  | none, some _ => x
  | none, none => if x = y then x else .notANumber

/-- The product. -/
def mul (x y : Binary64) : Binary64 :=
  let negative := xor x.isNegative y.isNegative
  match x.toFraction?, y.toFraction? with
  | some a, some b => ofFraction negative (a.num.natAbs * b.num.natAbs) (a.den * b.den)
  | _, _ =>
      if x = .notANumber || y = .notANumber || x.isZero || y.isZero then .notANumber
      else .infinite negative

/-- The quotient; none when the divisor is zero. -/
def div (x y : Binary64) : Option Binary64 :=
  if y.isZero then none
  else
    let negative := xor x.isNegative y.isNegative
    some <| match x.toFraction?, y.toFraction? with
      | some a, some b => ofFraction negative (a.num.natAbs * b.den) (a.den * b.num.natAbs)
      | none, some _ => if x = .notANumber then x else .infinite negative
      | some _, none => if y = .notANumber then y else ofFraction negative 0 1
      | none, none => .notANumber

/-! ## §5. Order: exact, against any fraction. -/

/-- Where a number stands on the extended line: below, at or above all fractions. -/
inductive Place where
  | below
  | at (q : Fraction)
  | above

/-- The place of a number; none for `notANumber`. -/
def place? : Binary64 → Option Place
  | .finite n m e => (finite n m e).toFraction?.map .at
  | .infinite true => some .below
  | .infinite false => some .above
  | .notANumber => none

namespace Place

/-- Strictly smaller. -/
def lt : Place → Place → Bool
  | .below, .below => false
  | .below, _ => true
  | .at a, .at b => a.lt b
  | .at _, .above => true
  | _, _ => false

/-- The same place. -/
def eq : Place → Place → Bool
  | .below, .below => true
  | .at a, .at b => a.eq b
  | .above, .above => true
  | _, _ => false

end Place

/-! ## §6. Rounding to decimal places. -/

/-- The number nearest to the value rounded to `places` decimals; the decimal
rounding sees the exact value and sends an exact tie to the even digit. -/
def roundTo (places : Nat) (x : Binary64) : Binary64 :=
  match x.toFraction? with
  | some q =>
      ofFraction x.isNegative (roundDiv (q.num.natAbs * tenTo places) q.den) (tenTo places)
  | none => x

end Binary64

end CodeAudit.Number
