import CidrLookup.Message
import CidrLookup.Wire

/-!
# Message encoding

The written form of a message: version, kind, then the fields in order. A text that holds a NUL
and a request with more than 255 metadata pairs have none; the number of pairs is checked before
the texts.
-/

namespace CidrLookup.Message

open Wire (Writer)

/-- The two bytes in front of every message: version and kind. -/
def header (kind : Kind) : Bytes :=
  [protocolVersion, kind.tag]

/-- Adds the metadata pairs one after another. -/
def writePairs : Metadata → Writer Unit
  | [] => pure ()
  | (key, value) :: more => do
    Wire.writeText "meta key" key
    Wire.writeText "meta value" value
    writePairs more

/-- Adds the fields of a message. -/
def writeFields : Message → Writer Unit
  | established info => do
    Wire.write (Bytes.ofWord info.rateLimit)
    Wire.write (Bytes.ofWord info.treeSize)
    Wire.write (Bytes.ofWord info.cacheTtl)
    Wire.write (Bytes.ofWord info.peerTtl)
    Wire.writeText "banner" info.banner
  | identify token => Wire.writeText "id" token
  | request address metadata =>
    if metadata.length > maxMetadata then throw (.tooManyPairs metadata.length)
    else do
      Wire.write (Bytes.ofWord address.bits)
      Wire.write [UInt8.ofNat metadata.length]
      writePairs metadata
  | found address range => do
    Wire.write (Bytes.ofWord address.bits)
    Wire.write (Bytes.ofWord range.network.bits)
    Wire.write (Bytes.ofWord range.maskLen)
  | notFound address => Wire.write (Bytes.ofWord address.bits)
  | failure code text => do
    Wire.write [code]
    Wire.writeText "message" text

/-- Adds a message at the end of a buffer. After an error the buffer may hold a part of the
message. -/
def write (message : Message) : Writer Unit := do
  Wire.write (header message.kind)
  writeFields message

/-- The written form of a message. -/
def encode (message : Message) : Except ProtocolError Bytes :=
  match message.write.run.run [] with
  | (.ok (), bytes) => .ok bytes
  | (.error e, _) => .error e

end CidrLookup.Message
