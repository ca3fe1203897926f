import CidrLookup.Message
import CidrLookup.Wire

/-!
# Message decoding

Reading a message back. The version is looked at first, then the kind, the fields in their order,
the mask length of an answer, and at last that nothing follows.
-/

namespace CidrLookup.Message

open Wire (Parser)

/-- The kind of a message, from the two bytes in front; another version is refused. -/
def readHeader : Parser Kind := do
  let version ← Wire.byte "protocol_version"
  if version ≠ protocolVersion then throw (.versionMismatch version)
  let tag ← Wire.byte "variant"
  Kind.ofTag tag

/-- As many metadata pairs as `count` says. -/
def readPairs (limit : Nat) : (count : Nat) → Parser Metadata
  | 0 => pure []
  | count + 1 => do
    let key ← Wire.text limit "meta key"
    let value ← Wire.text limit "meta value"
    return (key, value) :: (← readPairs limit count)

/-- The range of an answer, whose mask must fit an address. -/
def readRange : Parser Cidr := do
  let network ← Wire.word "prefix"
  let maskLen ← Wire.word "mask_len"
  Cidr.make ⟨network⟩ maskLen

/-- The fields of a message of the given kind. -/
def readFields (limit : Nat) : Kind → Parser Message
  | .established => do
    let rateLimit ← Wire.word "rate_limit"
    let treeSize ← Wire.word "tree_size"
    let cacheTtl ← Wire.word "cache_ttl"
    let peerTtl ← Wire.word "peer_ttl"
    let banner ← Wire.text limit "banner"
    return established ⟨rateLimit, treeSize, cacheTtl, peerTtl, banner⟩
  | .identify => return identify (← Wire.text limit "id")
  | .request => do
    let address ← Wire.word "ip_address"
    let count ← Wire.byte "meta_count"
    return request ⟨address⟩ (← readPairs limit count.toNat)
  | .found => do
    let address ← Wire.word "ip_address"
    return found ⟨address⟩ (← readRange)
  | .notFound => return notFound ⟨← Wire.word "ip_address"⟩
  | .failure => do
    let code ← Wire.byte "code"
    return failure code (← Wire.text limit "message")

/-- The message that the bytes are, all of them; no text in it may be longer than `limit`. -/
def decode (limit : Nat) (bytes : Bytes) : Except ProtocolError Message :=
  Prod.fst <$> StateT.run (do
    let kind ← readHeader
    let message ← readFields limit kind
    Wire.finish
    return message) bytes

end CidrLookup.Message
