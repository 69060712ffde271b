import DevicePairing.Error.Wire
import DevicePairing.SignedRequest
import DevicePairing.Text.Outline

set_option autoImplicit false
set_option relaxedAutoImplicit false

namespace DevicePairing.Connection

open DevicePairing
open DevicePairing.Cbor
open DevicePairing.Text

inductive CallMessage where
  | pairDevice (r : PairRequest)
  | pairingData (r : SignedRequest)
  | approve (r : SignedRequest)
  | reject (r : SignedRequest)
  deriving DecidableEq

def CallMessage.codec : Codec CallMessage :=
  Codec.choice
    [.wrapping "PairDevice" PairRequest.codec .pairDevice,
      .wrapping "GetPairingData" SignedRequest.codec .pairingData,
      .wrapping "ApprovePairing" SignedRequest.codec .approve,
      .wrapping "RejectPairing" SignedRequest.codec .reject]
    fun c =>
      match c with
      | .pairDevice r => writeVariant "PairDevice" (PairRequest.codec.write r)
      | .pairingData r => writeVariant "GetPairingData" (SignedRequest.codec.write r)
      | .approve r => writeVariant "ApprovePairing" (SignedRequest.codec.write r)
      | .reject r => writeVariant "RejectPairing" (SignedRequest.codec.write r)

inductive Reply where
  | opened (o : Opened)
  | pairingData (d : PairingData)
  | ack
  | error (e : WireError)
  deriving DecidableEq

namespace Reply

def codec : Codec Reply :=
  Codec.choice
    [.wrapping "Opened" Opened.codec .opened,
      .wrapping "PairingData" PairingData.codec .pairingData,
      .constant "Ack" .ack,
      .wrapping "Error" WireError.wireCodec .error]
    fun r =>
      match r with
      | .opened o => writeVariant "Opened" (Opened.codec.write o)
      | .pairingData d => writeVariant "PairingData" (PairingData.codec.write d)
      | .ack => writeText "Ack"
      | .error e => writeVariant "Error" (WireError.wireCodec.write e)

def outlineOpened (o : Opened) : String :=
  Outline.record "PairingOpened"
    [("session_id", Outline.text o.session),
      ("protocol_version", o.version.name),
      ("exchange_payload", Outline.optionalText o.exchangePayload)]

def outlineData (d : PairingData) : String :=
  Outline.record "GetPairingDataResponse"
    [("session_id", Outline.text d.session),
      ("exchange_payload", Outline.text d.exchangePayload),
      ("name", Outline.text d.name),
      ("description", Outline.text d.description),
      ("restrictions", Outline.text d.restrictions)]

def unexpected : Reply → PairingError
  | .opened o => .codec ("unexpected reply " ++ Outline.wrapped "Opened" (outlineOpened o))
  | .pairingData d => .codec ("unexpected reply " ++ Outline.wrapped "PairingData" (outlineData d))
  | .ack => .codec "unexpected reply Ack"
  | .error e => .ofWire e

def ofResult {α : Type} (make : α → Reply) : Except PairingError α → Reply
  | .ok a => make a
  | .error cause => .error cause.toWire

end Reply

/-- An item of the stream of a session. -/
inductive StreamRecord where
  | frame (octets : Bytes)
  | error (e : WireError)
  deriving DecidableEq

def StreamRecord.codec : Codec StreamRecord :=
  Codec.choice
    [.wrapping "Frame" Codec.octets .frame, .wrapping "Error" WireError.wireCodec .error]
    fun r =>
      match r with
      | .frame octets => writeVariant "Frame" (Codec.octets.write octets)
      | .error e => writeVariant "Error" (WireError.wireCodec.write e)

end DevicePairing.Connection
