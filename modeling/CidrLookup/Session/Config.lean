import CidrLookup.Duration
import CidrLookup.Record
import CidrLookup.Text.Quoted

/-!
# Session configuration

Where a session connects to, how it names itself, and its limits. The shown form of a
configuration gives the length of the token and not the token.
-/

namespace CidrLookup

/-- How records travel over a stream: the greatest payload and the timeouts of the stream. -/
structure StreamSettings where
  maxPayload : Nat
  readTimeout : Option Duration
  writeTimeout : Option Duration
deriving DecidableEq, Repr

/-- The configuration of a session. -/
structure Config where
  host : String
  port : UInt16
  /-- The token that names the client to the service, if it does so. -/
  identify : Option String
  /-- The most lookups that may be outstanding. -/
  maxPending : Nat
  /-- The greatest record payload, and the longest text in a message. -/
  maxFrame : Nat
  connectTimeout : Duration
  writeTimeout : Option Duration
deriving DecidableEq, Repr

namespace Config

/-- The port of the service unless another is given. -/
def defaultPort : UInt16 := 9595

/-- The timeout of a connection attempt unless another is given. -/
def defaultConnectTimeout : Duration := .ofSeconds 5

/-- The configuration for a service on this machine. -/
def default : Config where
  host := "127.0.0.1"
  port := defaultPort
  identify := none
  maxPending := 1024
  maxFrame := Record.defaultMaxPayload
  connectTimeout := defaultConnectTimeout
  writeTimeout := some (.ofSeconds 5)

/-- The settings of the stream that carries the session. Reads wait as long as it takes. -/
def streamSettings (config : Config) : StreamSettings where
  maxPayload := config.maxFrame
  readTimeout := none
  writeTimeout := config.writeTimeout

/-- How a token is shown: its length in bytes. -/
def redacted (token : String) : String :=
  let size := token.utf8ByteSize
  s!"<redacted:{size} bytes>"

/-- An optional value as shown. -/
def formatOption (format : α → String) : Option α → String
  | none => "None"
  | some a => "Some(" ++ format a ++ ")"

/-- A configuration in one line. -/
def format (config : Config) : String :=
  "SessionConfig \x7b host: " ++ Text.quoted config.host ++ ", port: " ++ toString config.port ++
    ", max_pending: " ++ toString config.maxPending ++ ", max_frame: " ++
    toString config.maxFrame ++ ", connect_timeout: " ++ config.connectTimeout.format ++
    ", write_timeout: " ++ formatOption Duration.format config.writeTimeout ++ ", identify: " ++
    (config.identify.elim "None" redacted) ++ " \x7d"

end Config

end CidrLookup
