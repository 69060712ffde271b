import DevicePairing.Error.Basic
import DevicePairing.Json.Printer
import DevicePairing.Json.Record

set_option autoImplicit false
set_option relaxedAutoImplicit false

namespace DevicePairing

structure ServiceConfig where
  sessionTtl : UInt64
  supportedVersions : List ProtocolVersion
  /-- The number of frames that a channel holds, unless it is too small. -/
  frameBuffer : UInt64
  deriving DecidableEq

namespace ServiceConfig

def standard : ServiceConfig := ⟨300000, [.v1, .v2], 8⟩

def withSessionTtl (c : ServiceConfig) (ms : UInt64) : ServiceConfig :=
  ⟨ms, c.supportedVersions, c.frameBuffer⟩

def toDocument (c : ServiceConfig) : Json.Document :=
  .object
    [(some "session_ttl_ms", .natural c.sessionTtl.toNat),
      (some "supported_versions",
        .array (c.supportedVersions.map fun v => .string (some v.name))),
      (some "frame_buffer", .natural c.frameBuffer.toNat)]

def ofDocument? (d : Json.Document) : Option ServiceConfig := do
  match ← Json.fieldsOf? ["session_ttl_ms", "supported_versions", "frame_buffer"] d with
  | [ttl, versions, buffer] => do
    let ttl ← Json.orElse Json.uint64? standard.sessionTtl ttl
    let versions ← Json.orElse Json.versions? standard.supportedVersions versions
    let buffer ← Json.orElse Json.uint64? standard.frameBuffer buffer
    some ⟨ttl, versions, buffer⟩
  | _ => none

def toJson (c : ServiceConfig) : String := c.toDocument.toText

def ofJson (text : String) : Except ConfigError ServiceConfig :=
  match (Json.Document.parse? text).bind ofDocument? with
  | some c => .ok c
  | none => .error (.parse "not a service configuration")

def offeredVersion (c : ServiceConfig) : ProtocolVersion :=
  if .v2 ∈ c.supportedVersions then .v2
  else if .v1 ∈ c.supportedVersions then .v1
  else .latest

/-- The number of items that a frame channel holds, at least two. -/
def channelCapacity (c : ServiceConfig) : Nat := max c.frameBuffer.toNat 2

end ServiceConfig

end DevicePairing
