import DevicePairing.Cbor.Record
import DevicePairing.Error.Basic
import DevicePairing.Text.Split

set_option autoImplicit false
set_option relaxedAutoImplicit false

namespace DevicePairing

open DevicePairing.Cbor

/-- The kinds of errors that cross a connection. -/
inductive ErrorCode where
  | transport
  | malformedFrame
  | unknownFrameType
  | sessionNotFound
  | sessionAlreadyResolved
  | unauthorized
  | timeout
  | protocolMismatch
  | rejected
  | codec
  | invalidRequest
  | invalidState
  deriving DecidableEq

namespace ErrorCode

def name : ErrorCode → String
  | .transport => "TRANSPORT"
  | .malformedFrame => "MALFORMED_FRAME"
  | .unknownFrameType => "UNKNOWN_FRAME_TYPE"
  | .sessionNotFound => "SESSION_NOT_FOUND"
  | .sessionAlreadyResolved => "SESSION_ALREADY_RESOLVED"
  | .unauthorized => "UNAUTHORIZED"
  | .timeout => "TIMEOUT"
  | .protocolMismatch => "PROTOCOL_MISMATCH"
  | .rejected => "REJECTED"
  | .codec => "CODEC"
  | .invalidRequest => "INVALID_REQUEST"
  | .invalidState => "INVALID_STATE"

def all : List ErrorCode :=
  [.transport, .malformedFrame, .unknownFrameType, .sessionNotFound, .sessionAlreadyResolved,
    .unauthorized, .timeout, .protocolMismatch, .rejected, .codec, .invalidRequest, .invalidState]

def wireCodec : Codec ErrorCode :=
  Codec.choice (all.map fun e => .constant e.name e) fun e => writeText e.name

end ErrorCode

/-- An error on its way across a connection. -/
structure WireError where
  code : ErrorCode
  message : String
  deriving DecidableEq

namespace WireError

def wireCodec : Codec WireError :=
  (Codec.record "struct WireError"
    (.field "code" ErrorCode.wireCodec <| .field "message" Codec.text .none)).convert
    (fun (code, message, ()) => ⟨code, message⟩)
    (fun e => (e.code, e.message, ()))

end WireError

namespace PairingError

def mismatchText (requested offered : ProtocolVersion) : String :=
  Text.Numeral.write requested.code.toNat ++ ":" ++ Text.Numeral.write offered.code.toNat

def toWire : PairingError → WireError
  | .transport detail => ⟨.transport, detail⟩
  | .malformedFrame detail => ⟨.malformedFrame, detail⟩
  | .unknownFrameType tag => ⟨.unknownFrameType, Text.Numeral.write tag.toNat⟩
  | .sessionNotFound session => ⟨.sessionNotFound, session⟩
  | .sessionAlreadyResolved session => ⟨.sessionAlreadyResolved, session⟩
  | .unauthorized detail => ⟨.unauthorized, detail⟩
  | .timeout => ⟨.timeout, ""⟩
  | .protocolMismatch requested offered => ⟨.protocolMismatch, mismatchText requested offered⟩
  | .rejected reason => ⟨.rejected, reason⟩
  | .codec detail => ⟨.codec, detail⟩
  | .config cause => ⟨.invalidRequest, cause.message⟩
  | .malformedExchangePayload payload => ⟨.invalidRequest, payload⟩
  | .invalidState detail => ⟨.invalidState, detail⟩

def octetOf? (s : List Char) : Option UInt8 := (Text.Numeral.read? 255 s).map UInt8.ofNat

/-- The mismatch that a text of two version numbers tells of. -/
def mismatchOf? (message : String) : Option PairingError := do
  let (requested, offered) ← Text.Split.atFirst? ':' message.toList
  let requested ← (octetOf? requested).bind ProtocolVersion.ofCode?
  let offered ← (octetOf? offered).bind ProtocolVersion.ofCode?
  some (.protocolMismatch requested offered)

/-- The error that came across a connection. What cannot be rebuilt becomes an error of the
nearest kind that takes any text. -/
def ofWire (e : WireError) : PairingError :=
  match e.code with
  | .transport => .transport e.message
  | .malformedFrame => .malformedFrame e.message
  | .unknownFrameType =>
    match octetOf? e.message.toList with
    | some tag => .unknownFrameType tag
    | none => .malformedFrame e.message
  | .sessionNotFound => .sessionNotFound e.message
  | .sessionAlreadyResolved => .sessionAlreadyResolved e.message
  | .unauthorized => .unauthorized e.message
  | .timeout => .timeout
  | .protocolMismatch =>
    (mismatchOf? e.message).getD (.codec ("protocol mismatch: " ++ e.message))
  | .rejected => .rejected e.message
  | .codec => .codec e.message
  | .invalidRequest => .codec e.message
  | .invalidState => .invalidState e.message

end PairingError

end DevicePairing
