/-
  CodeAudit.Number.Shortest
  ─────────────────────────
  **THE FEWEST DECIMAL DIGITS THAT READ BACK.**

  The reals that round to `m · 2^e` form an interval around it, with its ends
  included exactly when `m` is even.  For 1, 2, … 17 digits the two
  neighbours of the value on that decimal grid are tested against the
  interval; the first grid with a hit wins, and of two hits the nearer one.
-/
import CodeAudit.Number.Binary64

namespace CodeAudit.Number

namespace Shortest

/-! ## §1. The decimal position of a value. -/

/-- The number of decimal digits of a natural number. -/
def digitCount (n : Nat) : Nat := (Nat.toDigits 10 n).length

/-- The power of ten of the leading decimal digit of `m · 2^e`, `m` positive.
A value below one is first multiplied by `10^350`, beyond the least one. -/
def leadingPower (m : Nat) (e : Int) : Int :=
  if 0 ≤ e then (digitCount (m * twoTo e.toNat) : Int) - 1
  else (digitCount (m * tenTo 350 / twoTo (-e).toNat) : Int) - 351

/-! ## §2. The search over grids. -/

/-- Compare `c · 10^u` with `n · 2^k`. -/
def compareScaled (c : Nat) (u : Int) (n : Nat) (k : Int) : Ordering :=
  compare (c * tenTo u.toNat * twoTo (-k).toNat) (n * twoTo k.toNat * tenTo (-u).toNat)

/-- Whether `c · 10^u` reads back as `m · 2^e`.  In units of `2^(e-2)` the
interval runs from `4m - 2` to `4m + 2`, and from `4m - 1` at a power of two,
where the numbers below stand twice as close. -/
def readsBack (m : Nat) (e : Int) (c : Nat) (u : Int) : Bool :=
  let low := if m = twoTo 52 ∧ e > -1074 then 4 * m - 1 else 4 * m - 2
  let overLow := compareScaled c u low (e - 2)
  let underHigh := compareScaled c u (4 * m + 2) (e - 2)
  if m % 2 = 0 then overLow != .lt && underHigh != .gt
  else overLow == .gt && underHigh == .lt

/-- The lower neighbour of `m · 2^e` on the grid of multiples of `10^u`. -/
def lowerNeighbour (m : Nat) (e u : Int) : Nat :=
  (m * twoTo e.toNat * tenTo (-u).toNat) / (twoTo (-e).toNat * tenTo u.toNat)

/-- Of the grid points `c` and `c + 1` around the value, the one that reads
back; of two, the nearer, and the even one when both are equally near. -/
def pick (m : Nat) (e : Int) (c : Nat) (u : Int) : Option Nat :=
  match readsBack m e c u, readsBack m e (c + 1) u with
  | true, true =>
      -- `c + 1/2` against the value, doubled
      match compareScaled (2 * c + 1) u (2 * m) e with
      | .lt => some (c + 1)
      | .gt => some c
      | .eq => some (c + c % 2)
  | true, false => some c
  | false, true => some (c + 1)
  | false, false => none

/-- The first grid with a hit, from `digits` digits on; 17 always suffice. -/
def search (m : Nat) (e top : Int) : Nat → Nat → Nat × Int
  | 0, digits =>
      let u := top - digits + 1
      (lowerNeighbour m e u, u)
  | more + 1, digits =>
      let u := top - digits + 1
      match pick m e (lowerNeighbour m e u) u with
      | some c => (c, u)
      | none => search m e top more (digits + 1)

/-! ## §3. The digits. -/

/-- Decimal digits and the position of the point: the value is
`0.d₁d₂… · 10^point`. -/
structure Digits where
  digits : List Char
  point : Int

/-- The shortest digits of `m · 2^e`; zero is the single digit `0`. -/
def digits (m : Nat) (e : Int) : Digits :=
  if m = 0 then ⟨['0'], 1⟩
  else
    let (c, u) := search m e (leadingPower m e) 17 1
    let all := Nat.toDigits 10 c
    let kept := (all.reverse.dropWhile (· == '0')).reverse
    ⟨kept, u + all.length⟩

end Shortest

/-! ## §4. How reports write a number. -/

namespace Binary64

/-- `n` zeros. -/
private def zeros (n : Nat) : List Char := List.replicate n '0'

/-- Digits with a point and no exponent; at least one digit stands on each
side of the point. -/
def positional (d : Shortest.Digits) : List Char :=
  if d.point ≤ 0 then '0' :: '.' :: (zeros (-d.point).toNat ++ d.digits)
  else
    let whole := d.point.toNat
    if d.digits.length ≤ whole then
      d.digits ++ zeros (whole - d.digits.length) ++ ['.', '0']
    else d.digits.take whole ++ '.' :: d.digits.drop whole

/-- Digits with an exponent of at least two digits and a sign. -/
def scientific (d : Shortest.Digits) : List Char :=
  let power := d.point - 1
  let size := Nat.toDigits 10 power.natAbs
  let size := if size.length < 2 then '0' :: size else size
  let head := match d.digits with
    | [] => []
    | [c] => [c]
    | c :: rest => c :: '.' :: rest
  head ++ 'e' :: (if power < 0 then '-' else '+') :: size

/-- The text of a number: the fewest digits that read back, positional while
the power of the leading digit lies from -4 to 15, else with an exponent. -/
def text : Binary64 → String
  | .finite negative m e =>
      let d := Shortest.digits m e
      let body := if -4 < d.point ∧ d.point ≤ 16 ∨ m = 0 then positional d else scientific d
      String.ofList (if negative then '-' :: body else body)
  | .infinite negative => if negative then "-inf" else "inf"
  | .notANumber => "nan"

/-- The text for pages.  Where `text` has an exponent it is written out, a whole
number then without a point; beyond two hundred digits the exponent stays. -/
def plainText : Binary64 → String
  | .finite negative m e =>
      let d := Shortest.digits m e
      let least := d.point - d.digits.length
      let body :=
        if m = 0 then positional d
        else if 200 < least.natAbs + d.digits.length then scientific d
        else if 16 < d.point then d.digits ++ zeros least.toNat
        else positional d
      String.ofList (if negative then '-' :: body else body)
  | x => x.text

/-- The text with exactly `places` decimals, at least one, rounded from the
exact value with ties to the even digit. -/
def fixed (places : Nat) (x : Binary64) : String :=
  match x.toFraction? with
  | some q =>
      let scaled := Nat.toDigits 10 (roundDiv (q.num.natAbs * tenTo places) q.den)
      let scaled := zeros (places + 1 - scaled.length) ++ scaled
      let whole := scaled.length - places
      let body := scaled.take whole ++ '.' :: scaled.drop whole
      String.ofList (if x.isNegative then '-' :: body else body)
  | none => x.text

end Binary64

end CodeAudit.Number
