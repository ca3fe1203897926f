/-!
# Numerals

Unsigned decimal numerals with an upper bound: one or more ASCII digits, after at most one plus
sign where the reader allows it. A reader looks at one character at a time, so in a text with two
faults the first one counts.
-/

namespace CidrLookup.Numeral

/-- Why a text is no numeral below the bound. -/
inductive Fault where
  | empty
  | invalidDigit
  | tooLarge
  | tooSmall
deriving DecidableEq, Repr

/-- The wording of a fault. -/
def Fault.message : Fault → String
  | .empty => "cannot parse integer from empty string"
  | .invalidDigit => "invalid digit found in string"
  | .tooLarge => "number too large to fit in target type"
  | .tooSmall => "number too small to fit in target type"

/-- The value of a decimal digit. -/
def digit? (c : Char) : Option Nat :=
  if c.isDigit then some (c.toNat - '0'.toNat) else none

/-- The value of `digits` written after `acc`, every value on the way being at most `max`. -/
def value (max : Nat) (acc : Nat) : List Char → Except Fault Nat
  | [] => .ok acc
  | c :: digits =>
    match digit? c with
    | none => .error .invalidDigit
    | some d => if acc * 10 + d ≤ max then value max (acc * 10 + d) digits else .error .tooLarge

/-- Digits without a sign; there is at least one. -/
def unsigned (max : Nat) : List Char → Except Fault Nat
  | [] => .error .invalidDigit
  | digits => value max 0 digits

/-- A numeral of at most `max`, with an optional plus sign. -/
def parse (max : Nat) : List Char → Except Fault Nat
  | [] => .error .empty
  | '+' :: digits => unsigned max digits
  | digits => unsigned max digits

/-- A numeral of a signed range that reaches from `-max - 1` to `max`, with an optional sign. -/
def parseSigned (max : Nat) : List Char → Except Fault Int
  | '-' :: digits =>
    match unsigned (max + 1) digits with
    | .ok n => .ok (-(n : Int))
    | .error .tooLarge => .error .tooSmall
    | .error fault => .error fault
  | text => (parse max text).map Int.ofNat

/-- The decimal digits of a number, without leading zeros. -/
def digits (n : Nat) : List Char :=
  Nat.toDigits 10 n

/-- The greatest value of 32 bits. -/
def maxWord : Nat := 4294967295

/-- The greatest value of 64 bits. -/
def maxLong : Nat := 18446744073709551615

/-- The greatest value of 64 bits with a sign. -/
def maxSigned : Nat := 9223372036854775807

end CidrLookup.Numeral
