import DevicePairing.Config.Address
import DevicePairing.Config.Tls

set_option autoImplicit false
set_option relaxedAutoImplicit false

namespace DevicePairing

open DevicePairing.Text

structure ClientConfig where
  tls : TlsConfig
  uri : Option String
  version : ProtocolVersion
  pairingTimeout : UInt64
  requestTimeout : UInt64
  deriving DecidableEq

namespace ClientConfig

def defaultPairingTimeout : UInt64 := 300000

def defaultRequestTimeout : UInt64 := 10000

def ofTls (tls : TlsConfig) : ClientConfig :=
  ⟨tls, none, .latest, defaultPairingTimeout, defaultRequestTimeout⟩

def withUri (c : ClientConfig) (uri : String) : ClientConfig := ⟨c.tls, some uri, c.version,
  c.pairingTimeout, c.requestTimeout⟩

def withVersion (c : ClientConfig) (version : ProtocolVersion) : ClientConfig :=
  ⟨c.tls, c.uri, version, c.pairingTimeout, c.requestTimeout⟩

def withPairingTimeout (c : ClientConfig) (ms : UInt64) : ClientConfig :=
  ⟨c.tls, c.uri, c.version, ms, c.requestTimeout⟩

def withRequestTimeout (c : ClientConfig) (ms : UInt64) : ClientConfig :=
  ⟨c.tls, c.uri, c.version, c.pairingTimeout, ms⟩

def toDocument (c : ClientConfig) : Json.Document :=
  .object
    [(some "tls", c.tls.toDocument),
      (some "uri", match c.uri with
        | none => .null
        | some s => .string (some s)),
      (some "protocol_version", .string (some c.version.name)),
      (some "pairing_timeout_ms", .natural c.pairingTimeout.toNat),
      (some "request_timeout_ms", .natural c.requestTimeout.toNat)]

def ofDocument? (d : Json.Document) : Option ClientConfig := do
  let names := ["tls", "uri", "protocol_version", "pairing_timeout_ms", "request_timeout_ms"]
  match ← Json.fieldsOf? names d with
  | [some tls, uri, version, pairing, request] => do
    let tls ← TlsConfig.ofDocument? tls
    let uri ← Json.orElse Json.optionalText? none uri
    let version ← Json.orElse Json.version? .latest version
    let pairing ← Json.orElse Json.uint64? defaultPairingTimeout pairing
    let request ← Json.orElse Json.uint64? defaultRequestTimeout request
    some ⟨tls, uri, version, pairing, request⟩
  | _ => none

def toJson (c : ClientConfig) : String := c.toDocument.toText

def ofJson (text : String) : Except ConfigError ClientConfig :=
  match (Json.Document.parse? text).bind ofDocument? with
  | some c => .ok c
  | none => .error (.parse "not a client configuration")

/-- The address before normalisation: the given one, or the one that the environment gives or
names a file of, or the usual one. -/
def rawAddress (c : ClientConfig) (environment : Option String) (files : Files) :
    Except ConfigError String :=
  match c.uri, environment with
  | some uri, _ => .ok uri
  | none, none => .ok Address.fallback
  | none, some value =>
    if files.isFile value then
      (files.readText value).mapError fun e =>
        .io (value ++ " (from " ++ Address.environmentVariable ++ "): " ++ e)
    else .ok value

def resolveUri (c : ClientConfig) (environment : Option String) (files : Files) :
    Except ConfigError String := do
  let raw ← c.rawAddress environment files
  Address.normalize raw

def outline (c : ClientConfig) : String :=
  Outline.record "ClientConfig"
    [("tls", c.tls.outline),
      ("uri", Outline.optionalText c.uri),
      ("protocol_version", c.version.name),
      ("pairing_timeout_ms", Outline.number c.pairingTimeout.toNat),
      ("request_timeout_ms", Outline.number c.requestTimeout.toNat)]

end ClientConfig

end DevicePairing
