import CidrLookup.Text.Escaped

/-!
# Quoted text

A text between double quotes, as error messages and inspection output show it. The quote, the
backslash and four controls have a short escape; any other character that would not show as
itself is written by its number in hexadecimal.
-/

namespace CidrLookup.Text

/-- The digits of a number in lower-case hexadecimal. -/
def hexDigits (n : Nat) : List Char :=
  Nat.toDigits 16 n

/-- One character of a quoted text. -/
def quotedChar (c : Char) : List Char :=
  match c with
  | '"' => ['\\', '"']
  | '\\' => ['\\', '\\']
  | '\n' => ['\\', 'n']
  | '\r' => ['\\', 'r']
  | '\t' => ['\\', 't']
  | '\x00' => ['\\', '0']
  | c => if isEscaped c then ['\\', 'u', '\x7b'] ++ hexDigits c.toNat ++ ['\x7d'] else [c]

/-- A text in quotes, with escapes. -/
def quoted (text : String) : String :=
  .ofList ('"' :: text.toList.flatMap quotedChar ++ ['"'])

/-! ## Byte strings -/

/-- Two lower-case hexadecimal digits. -/
def hexByte (b : UInt8) : List Char :=
  [Nat.digitChar (b.toNat / 16), Nat.digitChar (b.toNat % 16)]

/-- One byte of a quoted byte string: printable ASCII shows as itself. -/
def quotedByte (b : UInt8) : List Char :=
  match Char.ofNat b.toNat with
  | '"' => ['\\', '"']
  | '\\' => ['\\', '\\']
  | '\n' => ['\\', 'n']
  | '\r' => ['\\', 'r']
  | '\t' => ['\\', 't']
  | '\x00' => ['\\', '0']
  | c => if 0x20 ≤ b && b < 0x7F then [c] else '\\' :: 'x' :: hexByte b

/-- A byte string in quotes after the letter b, with escapes. -/
def quotedBytes (bytes : List UInt8) : String :=
  .ofList ('b' :: '"' :: bytes.flatMap quotedByte ++ ['"'])

end CidrLookup.Text
