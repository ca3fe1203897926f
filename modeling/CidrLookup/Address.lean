import CidrLookup.Bytes
import CidrLookup.Numeral
import CidrLookup.ProtocolError

/-!
# Addresses

IPv4 addresses and their dotted-quad text. A text is an address when it is four groups of one to
three decimal digits, single dots between them, no group above 255; leading zeros are allowed, so
one address has several texts and `normalize` picks the one without them.
-/

namespace CidrLookup

/-- An IPv4 address: 32 bits, the first group of the text in the highest eight. -/
structure Address where
  bits : UInt32
deriving DecidableEq, Repr, Inhabited

namespace Address

/-! ## Octets -/

/-- The address of four groups. -/
def ofOctets (a b c d : UInt8) : Address :=
  ⟨Bytes.word a b c d⟩

/-- The four groups of an address. -/
def octets (address : Address) : List UInt8 :=
  Bytes.ofWord address.bits

/-! ## Text -/

/-- The value of one group. -/
def octet? (group : List Char) : Option UInt8 :=
  if group.length ≤ 3 then
    match Numeral.unsigned 255 group with
    | .ok n => some (.ofNat n)
    | .error _ => none
  else none

/-- The address that a text spells, if it spells one. -/
def parse? (text : String) : Option Address :=
  match (text.toList.splitOn '.').map octet? with
  | [some a, some b, some c, some d] => some (ofOctets a b c d)
  | _ => none

/-- The address that a text spells; the error quotes the text. -/
def parse (text : String) : Except ProtocolError Address :=
  match parse? text with
  | some address => .ok address
  | none => .error (.invalidAddress text)

/-- The dotted quad of an address, without leading zeros. -/
def format (address : Address) : String :=
  .ofList (List.intercalate ['.'] (address.octets.map fun octet => Numeral.digits octet.toNat))

/-- The text of the address that a text spells, without leading zeros. -/
def normalize (text : String) : Except ProtocolError String :=
  (parse text).map format

instance : ToString Address := ⟨format⟩

end Address

end CidrLookup
