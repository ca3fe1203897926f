import CidrLookup.Address

/-!
# Socket addresses

Literal IPv4 and IPv6 addresses as hosts are given by, and their canonical text with a port. A
literal IPv4 host has no leading zeros in its groups. A literal IPv6 host has eight groups of one
to four hexadecimal digits, the last two possibly as a dotted quad; one run of zero groups may be
left out as `::`.
-/

namespace CidrLookup

/-- An address of either family. -/
inductive HostAddress where
  | v4 (address : Address)
  | v6 (groups : List UInt16)
deriving DecidableEq, Repr

/-- An address and a port. -/
structure SocketAddress where
  host : HostAddress
  port : UInt16
deriving DecidableEq, Repr

namespace HostAddress

/-! ## Reading -/

/-- A literal IPv4 host: a dotted quad without leading zeros. -/
def v4? (text : List Char) : Option Address :=
  match Address.parse? (.ofList text) with
  | some address => if address.format.toList = text then some address else none
  | none => none

/-- The value of a hexadecimal digit. -/
def hexDigit? (c : Char) : Option Nat :=
  if c.isDigit then some (c.toNat - '0'.toNat)
  else if 'a' ≤ c ∧ c ≤ 'f' then some (c.toNat - 'a'.toNat + 10)
  else if 'A' ≤ c ∧ c ≤ 'F' then some (c.toNat - 'A'.toNat + 10)
  else none

/-- A group of one to four hexadecimal digits. -/
def group? (text : List Char) : Option UInt16 :=
  if text = [] ∨ text.length > 4 then none
  else (text.mapM hexDigit?).map fun digits => .ofNat (digits.foldl (· * 16 + ·) 0)

/-- The two groups that a dotted quad stands for. -/
def groupsOfV4 (address : Address) : List UInt16 :=
  [(address.bits >>> 16).toUInt16, address.bits.toUInt16]

/-- Groups between colons; the last of them may be a dotted quad where `quad` allows it. -/
def groups? (quad : Bool) : List (List Char) → Option (List UInt16)
  | [] => some []
  | [last] =>
    match group? last with
    | some g => some [g]
    | none => if quad then (v4? last).map groupsOfV4 else none
  | g :: more => do return (← group? g) :: (← groups? quad more)

/-- The groups of one side of `::`; the side may be empty. -/
def side? (quad : Bool) (text : List Char) : Option (List UInt16) :=
  if text = [] then some [] else groups? quad (text.splitOn ':')

/-- Cuts a text at its first `::`. -/
def cutAtGap : List Char → Option (List Char × List Char)
  | ':' :: ':' :: rest => some ([], rest)
  | c :: rest => (cutAtGap rest).map fun (left, right) => (c :: left, right)
  | [] => none

/-- A literal IPv6 host. -/
def v6? (text : List Char) : Option (List UInt16) :=
  match cutAtGap text with
  | none => do
    let groups ← groups? true (text.splitOn ':')
    if groups.length = 8 then some groups else none
  | some (left, right) => do
    let left ← side? false left
    let right ← side? true right
    if left.length + right.length ≤ 7 then
      some (left ++ List.replicate (8 - left.length - right.length) 0 ++ right)
    else none

/-- The address that a literal host is. -/
def parse? (text : List Char) : Option HostAddress :=
  match v4? text with
  | some address => some (v4 address)
  | none => (v6? text).map v6

/-! ## Writing -/

/-- Groups in hexadecimal with colons between them. -/
def joinGroups (groups : List UInt16) : List Char :=
  List.intercalate [':'] (groups.map fun g => Nat.toDigits 16 g.toNat)

/-- The length of the run of zeros at the front. -/
def zeroRun (groups : List UInt16) : Nat :=
  (groups.takeWhile (· = 0)).length

/-- Where the longest run of zeros starts, and its length; the first of several. -/
def longestRun : (start : Nat) → List UInt16 → Nat × Nat
  | _, [] => (0, 0)
  | start, g :: more =>
    let here := zeroRun (g :: more)
    let later := longestRun (start + 1) more
    if here ≥ later.2 then (start, here) else later

/-- The canonical text of an IPv6 address. -/
def formatV6 (groups : List UInt16) : List Char :=
  match groups with
  | [0, 0, 0, 0, 0, 0xFFFF, high, low] =>
    "::ffff:".toList ++ (Address.mk ((high.toUInt32 <<< 16) ||| low.toUInt32)).format.toList
  | _ =>
    let (start, length) := longestRun 0 groups
    if length > 1 then
      joinGroups (groups.take start) ++ [':', ':'] ++ joinGroups (groups.drop (start + length))
    else joinGroups groups

end HostAddress

/-- The canonical text of an address and a port. -/
def SocketAddress.format (address : SocketAddress) : String :=
  let port := Numeral.digits address.port.toNat
  match address.host with
  | .v4 host => .ofList (host.format.toList ++ ':' :: port)
  | .v6 groups => .ofList ('[' :: HostAddress.formatV6 groups ++ [']', ':'] ++ port)

end CidrLookup
