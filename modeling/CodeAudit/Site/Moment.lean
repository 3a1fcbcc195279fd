/-
  CodeAudit.Site.Moment
  ─────────────────────
  **POINTS IN TIME.**

  A moment is a date and a time of day.  Moments are read and written in fixed
  forms, and counted in seconds so that two of them can be compared.
-/
import CodeAudit.Text.Blank

namespace CodeAudit.Site

/-- A date of the Gregorian calendar and a time of day. -/
structure Moment where
  year : Nat
  month : Nat
  day : Nat
  hour : Nat
  minute : Nat
  second : Nat
  deriving DecidableEq, Repr

namespace Moment

/-! ## §1. Counting. -/

/-- The days from the first of March of the year zero to a date, where the
years begin in March. -/
def days (m : Moment) : Nat :=
  let year := if m.month ≤ 2 then m.year - 1 else m.year
  let month := (m.month + 9) % 12
  365 * year + year / 4 - year / 100 + year / 400 + (153 * month + 2) / 5 + (m.day - 1)

/-- The seconds up to a moment. -/
def seconds (m : Moment) : Nat :=
  86400 * m.days + 3600 * m.hour + 60 * m.minute + m.second

/-! ## §2. Reading and writing. -/

/-- At least `width` decimal digits. -/
def padded (width n : Nat) : String :=
  let digits := Nat.toDigits 10 n
  String.ofList (List.replicate (width - digits.length) '0' ++ digits)

/-- The moment that six numbers give, in the order of the fields. -/
def ofNumbers? : List Nat → Option Moment
  | [year, month, day, hour, minute, second] => some ⟨year, month, day, hour, minute, second⟩
  | _ => none

/-- Read `YYYY-MM-DDTHH:MM:SS`. -/
def ofText? (s : String) : Option Moment := do
  let parts := Text.cutAt (fun c => c == '-' || c == 'T' || c == ':') s.toList
  ofNumbers? (← parts.mapM fun digits => (String.ofList digits).toNat?)

/-- Written `DD/MM/YYYY HH:MM`. -/
def text (m : Moment) : String :=
  padded 2 m.day ++ "/" ++ padded 2 m.month ++ "/" ++ padded 4 m.year ++ " " ++ padded 2 m.hour
    ++ ":" ++ padded 2 m.minute

end Moment

end CodeAudit.Site
