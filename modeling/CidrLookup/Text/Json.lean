import CidrLookup.Numeral
import CidrLookup.Text.Quoted

/-!
# JSON text

The written form of JSON values, built from the inside out: an object is made of keys and values
that are written already, in the order in which they are given and without blanks between tokens.
In a string the quote and the backslash are escaped and so are controls; characters outside ASCII
stand for themselves.
-/

namespace CidrLookup.Text.Json

/-- One character of a string. -/
def escapeChar (c : Char) : List Char :=
  match c with
  | '"' => ['\\', '"']
  | '\\' => ['\\', '\\']
  | '\n' => ['\\', 'n']
  | '\r' => ['\\', 'r']
  | '\t' => ['\\', 't']
  | '\x08' => ['\\', 'b']
  | '\x0c' => ['\\', 'f']
  | c => if c.toNat < 0x20 then ['\\', 'u', '0', '0'] ++ hexByte (.ofNat c.toNat) else [c]

/-- A string. -/
def string (text : String) : List Char :=
  '"' :: text.toList.flatMap escapeChar ++ ['"']

/-- A number. -/
def number (n : Nat) : List Char :=
  Numeral.digits n

/-- A key with its value. -/
def member (key : String) (value : List Char) : List Char :=
  string key ++ ':' :: value

/-- An object. -/
def object (members : List (String × List Char)) : List Char :=
  '\x7b' :: List.intercalate [','] (members.map fun (key, value) => member key value) ++ ['\x7d']

end CidrLookup.Text.Json
