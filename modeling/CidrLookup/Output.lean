import CidrLookup.Message
import CidrLookup.Session.Event
import CidrLookup.Text.Json
import CidrLookup.Text.Table

/-!
# Output

What the commands print: the answers to lookups, one row an address, and the parameters a service
announces. Each comes in four formats: JSON for programs, a table and a pretty form for people, and
the bare value.
-/

namespace CidrLookup

/-- How results are printed. -/
inductive OutputFormat where
  | json
  | table
  | pretty
  | raw
deriving DecidableEq, Repr

/-- The format unless another is wanted: a table on a terminal, else JSON. -/
def OutputFormat.default (terminal : Bool) : OutputFormat :=
  if terminal then .table else .json

namespace Output

/-- A text with a line end. -/
def line (text : String) : String :=
  text ++ "\n"

/-- Texts with a line end each. -/
def lines (texts : List String) : String :=
  String.join (texts.map line)

/-! ## Lookups -/

/-- One address of a lookup, as it was given, and the answer if there is one. -/
structure Row where
  text : String
  answer : Option Resolution
deriving DecidableEq, Repr

namespace Row

/-- What is known of an address. -/
inductive Status where
  | found
  | notFound
  | unresolved
deriving DecidableEq, Repr

/-- A status in words. -/
def Status.label : Status → String
  | found => "found"
  | notFound => "not found"
  | unresolved => "unresolved"

/-- A status as a value for programs. -/
def Status.key : Status → String
  | found => "found"
  | notFound => "not_found"
  | unresolved => "unresolved"

/-- What the answer says about the address. -/
def status (row : Row) : Status :=
  match row.answer with
  | some (.found ..) => .found
  | some (.notFound _) => .notFound
  | none => .unresolved

/-- The range that the address lies in. -/
def range? (row : Row) : Option Cidr :=
  row.answer.bind Resolution.range?

/-- The text of the range, or a dash. -/
def rangeText (row : Row) : String :=
  row.range?.elim "-" Cidr.format

/-- A row for programs; members about a range are there only if there is one. -/
def json (row : Row) : String :=
  let range := match row.range? with
    | none => []
    | some range =>
      [("cidr", Text.Json.string range.format),
        ("prefix", Text.Json.string range.network.format),
        ("mask_len", Text.Json.number range.maskLen.toNat)]
  .ofList (Text.Json.object ([("ip", Text.Json.string row.text),
    ("status", Text.Json.string row.status.key)] ++ range))

/-- A row in a sentence. -/
def sentence (row : Row) : String :=
  let status := row.status.label
  match row.range? with
  | some range => row.text ++ s!" {status} in {range}"
  | none => row.text ++ s!" {status}"

end Row

/-- The answers to a lookup. -/
def lookups (format : OutputFormat) (rows : List Row) : String :=
  match format with
  | .json => lines (rows.map Row.json)
  | .table => Text.Table.draw ⟨["IP", "STATUS", "RANGE"],
      rows.map fun row => [row.text, row.status.label, row.rangeText]⟩
  | .pretty => lines (rows.map Row.sentence)
  | .raw => lines (rows.map Row.rangeText)

/-! ## The service -/

/-- The parameters of a service; the time, in seconds, goes with the form for programs. -/
def service (format : OutputFormat) (endpoint : String) (info : ServiceInfo) (time : String) :
    String :=
  let rate := info.rateLimit
  let size := info.treeSize
  let cache := info.cacheTtl
  let peer := info.peerTtl
  match format with
  | .json => line <| .ofList <| Text.Json.object
      [("endpoint", Text.Json.string endpoint),
        ("protocol_version", Text.Json.number protocolVersion.toNat),
        ("rate_limit", Text.Json.number rate.toNat),
        ("tree_size", Text.Json.number size.toNat),
        ("cache_ttl", Text.Json.number cache.toNat),
        ("peer_ttl", Text.Json.number peer.toNat),
        ("banner", Text.Json.string info.banner),
        ("timestamp", Text.Json.string time)]
  | .table => Text.Table.draw ⟨["FIELD", "VALUE"],
      [["endpoint", endpoint], ["rate_limit", s!"{rate}"], ["tree_size", s!"{size}"],
        ["cache_ttl", s!"{cache}s"], ["peer_ttl", s!"{peer}s"], ["banner", info.banner]]⟩
  | .pretty =>
    lines ["Lookup Service:", "  Endpoint:   " ++ endpoint, s!"  Protocol:   v{protocolVersion}",
      s!"  Rate limit: {rate} per 5s", s!"  Ranges:     {size}", s!"  Cache TTL:  {cache}s",
      s!"  Peer TTL:   {peer}s"] ++
    if info.banner = "" then "" else line ("  Banner:     " ++ info.banner)
  | .raw => line info.banner

end Output

end CidrLookup
