import CidrLookup.Address

/-!
# Ranges

Address ranges in CIDR notation: a network address and the number of leading bits that the
addresses of the range share with it. Bits of the network address past the mask are kept as they
were given and do not matter for membership.
-/

namespace CidrLookup

/-- An address range. A mask longer than 32 bits counts as 32. -/
structure Cidr where
  network : Address
  maskLen : UInt32
deriving DecidableEq, Repr, Inhabited

namespace Cidr

/-- A range whose mask fits an address. -/
def make (network : Address) (maskLen : UInt32) : Except ProtocolError Cidr :=
  if maskLen > 32 then .error (.invalidMaskLength maskLen) else .ok ⟨network, maskLen⟩

/-- The mask as a word: its leading `maskLen` bits are set. -/
def netmask (range : Cidr) : UInt32 :=
  if range.maskLen = 0 then 0 else 0xFFFFFFFF <<< (32 - min range.maskLen 32)

/-- Whether the address agrees with the network address on the bits of the mask. -/
def contains (range : Cidr) (address : Address) : Bool :=
  address.bits &&& range.netmask = range.network.bits &&& range.netmask

/-! ## Text -/

/-- The network address, a slash and the mask length. -/
def format (range : Cidr) : String :=
  .ofList (range.network.format.toList ++ '/' :: Numeral.digits range.maskLen.toNat)

instance : ToString Cidr := ⟨format⟩

/-- The range that a text spells. The mask length must be a numeral before the address is looked
at, and it is compared with 32 after that. -/
def parse (text : String) : Except ProtocolError Cidr :=
  match text.toList.span (· ≠ '/') with
  | (address, _ :: length) =>
    match Numeral.parse Numeral.maxWord length with
    | .ok n => do make (← Address.parse (.ofList address)) (.ofNat n)
    | .error _ => .error (.invalidAddress text)
  | (_, []) => .error (.invalidAddress text)

end Cidr

end CidrLookup
