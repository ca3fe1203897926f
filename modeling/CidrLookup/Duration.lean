import CidrLookup.Numeral

/-!
# Durations and instants

Durations in nanoseconds and their shortest text in a fitting unit (`5s`, `1.5s`, `61.001s`,
`1ms`, `0ns`), and moments on a clock that never goes back.
-/

namespace CidrLookup

/-- A length of time. -/
structure Duration where
  nanos : Nat
deriving DecidableEq, Repr, Inhabited

namespace Duration

/-- So many seconds. -/
def ofSeconds (n : Nat) : Duration := ⟨n * 1000000000⟩

/-- So many milliseconds. -/
def ofMillis (n : Nat) : Duration := ⟨n * 1000000⟩

/-- The whole seconds in a duration. -/
def seconds (d : Duration) : Nat := d.nanos / 1000000000

/-- The whole milliseconds in a duration. -/
def millis (d : Duration) : Nat := d.nanos / 1000000

/-- The digits after a point: `n` written with `width` digits, less the zeros at the end. -/
def fraction (width n : Nat) : List Char :=
  let digits := Numeral.digits n
  let padded := List.replicate (width - digits.length) '0' ++ digits
  (padded.reverse.dropWhile (· = '0')).reverse

/-- A number of units of `10 ^ width` nanoseconds, with the unit. -/
def inUnit (width : Nat) (unit : String) (nanos : Nat) : String :=
  let whole := Numeral.digits (nanos / Nat.pow 10 width)
  match fraction width (nanos % Nat.pow 10 width) with
  | [] => .ofList (whole ++ unit.toList)
  | digits => .ofList (whole ++ '.' :: digits ++ unit.toList)

/-- The text of a duration, in the greatest unit that gives a whole part. -/
def format (d : Duration) : String :=
  if d.nanos ≥ 1000000000 then inUnit 9 "s" d.nanos
  else if d.nanos ≥ 1000000 then inUnit 6 "ms" d.nanos
  else if d.nanos ≥ 1000 then inUnit 3 "µs" d.nanos
  else inUnit 0 "ns" d.nanos

end Duration

/-- A moment, in nanoseconds since the clock's origin. -/
structure Instant where
  nanos : Nat
deriving DecidableEq, Repr, Inhabited

namespace Instant

/-- The time that has passed since an earlier moment; none since a later one. -/
def since (now earlier : Instant) : Duration :=
  ⟨now.nanos - earlier.nanos⟩

/-- The moment a duration after this one, as far as the clock's signed 64-bit seconds reach. -/
def after? (start : Instant) (d : Duration) : Option Instant :=
  let moment : Instant := ⟨start.nanos + d.nanos⟩
  if moment.nanos / 1000000000 < 9223372036854775808 then some moment else none

end Instant

end CidrLookup
