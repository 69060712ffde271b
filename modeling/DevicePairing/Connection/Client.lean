import DevicePairing.Config.Client
import DevicePairing.Connection.Framing
import DevicePairing.Connection.Message
import DevicePairing.Transport.Basic

set_option autoImplicit false
set_option relaxedAutoImplicit false

namespace DevicePairing.Connection.Client

open DevicePairing
open DevicePairing.Connection
open DevicePairing.Transport (Call)

def connectError (address reason : String) : PairingError :=
  .transport ("connect " ++ address ++ ": " ++ reason)

def writeCall (c : CallMessage) : Except PairingError Bytes :=
  (writeRecord (CallMessage.codec.write c)).mapError fun f => .transport f.message

def decodeRecord {α : Type} (k : Cbor.Codec α) (content : Bytes) : Except PairingError α :=
  (k.decode content).mapError fun e => .codec e.message

def reply? : Finding → Option (Except PairingError Reply)
  | .pending => none
  | .record content =>
    some <| do
      match ← decodeRecord Reply.codec content with
      | .error e => .error (.ofWire e)
      | r => .ok r
  | .ended => some (.error (.transport "connection closed before reply"))
  | .fault f => some (.error (.transport f.message))

def expectOpened : Reply → Except PairingError Opened
  | .opened o => .ok o
  | r => .error r.unexpected

def expectPairingData : Reply → Except PairingError PairingData
  | .pairingData d => .ok d
  | r => .error r.unexpected

/-- Whether a reply tells that a decision was taken down. -/
def expectAck : Reply → Except PairingError Unit
  | .ack => .ok ()
  | r => .error r.unexpected

inductive StreamStep where
  | pending
  | finished
  | item (octets : Bytes)
  | failure (cause : PairingError)

def streamStep : Finding → StreamStep
  | .pending => .pending
  | .ended => .finished
  | .fault f => .failure (.transport f.message)
  | .record content =>
    match decodeRecord StreamRecord.codec content with
    | .ok (.frame octets) => .item octets
    | .ok (.error e) => .failure (.ofWire e)
    | .error cause => .failure cause

def unreachable {σ : Type} (address reason : String) : Transport σ where
  pairDevice := fun _ => Call.failing (connectError address reason)
  pairingData := fun _ => Call.failing (connectError address reason)
  approve := fun _ => Call.failing (connectError address reason)
  reject := fun _ => Call.failing (connectError address reason)

/-- The calls to the server that a configuration names, `reach` giving the calls to an address. -/
def ofConfig {σ : Type} (reach : (address : String) → Transport σ) (config : ClientConfig)
    (environment : Option String) (files : Files) : Except PairingError (Transport σ) :=
  match config.resolveUri environment files with
  | .ok address => .ok (reach address)
  | .error cause => .error (.config cause)

end DevicePairing.Connection.Client
