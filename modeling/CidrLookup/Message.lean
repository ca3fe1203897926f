import CidrLookup.Cidr

/-!
# Messages

The messages of the lookup protocol. The service opens with its parameters; a client may name
itself and then sends lookups; the service answers each with the range the address lies in, or
that there is none, or gives up on the connection with an error.
-/

namespace CidrLookup

/-- What the service tells about itself when a connection is accepted. -/
structure ServiceInfo where
  /-- Requests allowed per five seconds. -/
  rateLimit : UInt32
  /-- Number of ranges the service knows. -/
  treeSize : UInt32
  /-- Seconds between two refreshes of the ranges. -/
  cacheTtl : UInt32
  /-- Seconds a connection may stay idle. -/
  peerTtl : UInt32
  banner : String
deriving DecidableEq, Repr, Inhabited

/-- Pairs of key and value that go with a lookup, in their order on the wire. -/
abbrev Metadata := List (String × String)

/-- A message of the lookup protocol. -/
inductive Message where
  | established (info : ServiceInfo)
  | identify (token : String)
  | request (address : Address) (metadata : Metadata)
  | found (address : Address) (range : Cidr)
  | notFound (address : Address)
  | failure (code : UInt8) (text : String)
deriving DecidableEq, Repr

/-! ## Kinds -/

/-- The kinds of message. -/
inductive Message.Kind where
  | established
  | identify
  | request
  | found
  | notFound
  | failure
deriving DecidableEq, Repr

namespace Message.Kind

/-- The byte that stands for a kind. -/
def tag : Kind → UInt8
  | established => 0
  | identify => 1
  | request => 2
  | found => 3
  | notFound => 4
  | failure => 5

/-- The kind that a byte stands for. -/
def ofTag : UInt8 → Except ProtocolError Kind
  | 0 => .ok established
  | 1 => .ok identify
  | 2 => .ok request
  | 3 => .ok found
  | 4 => .ok notFound
  | 5 => .ok failure
  | n => .error (.unknownKind n)

theorem ofTag_tag (kind : Kind) : ofTag kind.tag = .ok kind := by
  cases kind <;> rfl

/-- The name of a kind in the protocol. -/
def name : Kind → String
  | established => "Established"
  | identify => "Identify"
  | request => "Request"
  | found => "ResponseOkFound"
  | notFound => "ResponseOkNotFound"
  | failure => "ResponseError"

end Message.Kind

/-! ## Reasons of a failure -/

/-- What the code of a failure means. -/
inductive FailureReason where
  | malformedPayload
  | rateLimited
  | versionMismatch
  | invalidKind
  | internal
  | unknown (code : UInt8)
deriving DecidableEq, Repr

namespace FailureReason

/-- The meaning of a code. -/
def ofCode : UInt8 → FailureReason
  | 0 => malformedPayload
  | 1 => rateLimited
  | 2 => versionMismatch
  | 3 => invalidKind
  | 255 => internal
  | n => unknown n

/-- The code of a reason. -/
def code : FailureReason → UInt8
  | malformedPayload => 0
  | rateLimited => 1
  | versionMismatch => 2
  | invalidKind => 3
  | internal => 255
  | unknown n => n

/-- The wording of a reason. -/
def describe : FailureReason → String
  | malformedPayload => "malformed payload"
  | rateLimited => "rate limited"
  | versionMismatch => "version mismatch"
  | invalidKind => "invalid variant"
  | internal => "internal error"
  | unknown n => s!"unknown error {n}"

end FailureReason

namespace Message

/-- The kind of a message. -/
def kind : Message → Kind
  | established _ => .established
  | identify _ => .identify
  | request .. => .request
  | found .. => .found
  | notFound _ => .notFound
  | failure .. => .failure

/-- A message in one line. The token of an identification is not shown. -/
def summary : Message → String
  | established info =>
    "Established(rate_limit=" ++ toString info.rateLimit ++ ", tree_size=" ++
      toString info.treeSize ++ ", cache_ttl=" ++ toString info.cacheTtl ++ ", peer_ttl=" ++
      toString info.peerTtl ++ ")"
  | identify _ => "Identify"
  | request address metadata =>
    let count := metadata.length
    s!"Request({address}, meta_count={count})"
  | found address range => s!"ResponseOkFound({address} in {range})"
  | notFound address => s!"ResponseOkNotFound({address})"
  | failure code text =>
    let reason := (FailureReason.ofCode code).describe
    s!"ResponseError({reason}: {text})"

/-- The shown form of an identification: how long its token is, not what it is. -/
def redactedIdentify (token : String) : String :=
  let size := token.utf8ByteSize
  "Identify \x7b id: <redacted:" ++ toString size ++ " bytes> \x7d"

end Message

end CidrLookup
