import DevicePairing.Connection.Framing
import DevicePairing.Connection.Message
import DevicePairing.Transport.Direct

set_option autoImplicit false
set_option relaxedAutoImplicit false

/-!
The server's side of a connection. The first record is the call; nothing after it is ever taken
for another one. After a session was opened, the items of its channel are passed on until the last
frame or an error, and anything that comes from the client, its end included, gives the session
up.
-/

namespace DevicePairing.Connection

open DevicePairing
open DevicePairing.Clock
open DevicePairing.Session (Receipt Service StreamItem)
open DevicePairing.Transport

/-- How far a connection has come. -/
inductive Stage where
  | receiving
  | streaming (channel : Nat)
  | closed
  deriving DecidableEq

structure ServerSide where
  reader : RecordReader
  ended : Bool
  written : List Bytes
  stage : Stage

namespace ServerSide

def accepted : ServerSide := ⟨.fresh, false, [], .receiving⟩

def push (c : ServerSide) (segment : Bytes) : ServerSide :=
  { c with reader := c.reader.push segment }

def finish (c : ServerSide) : ServerSide := { c with ended := true }

/-- The reply to a call and, when a session was opened, the channel to pass on. -/
def answer (m : CallMessage) (w : Environment Service) :
    (Reply × Option Nat) × Environment Service :=
  match m with
  | .pairDevice r =>
    match Direct.pairDevice r w with
    | (.ok (opened, channel), w) => ((.opened opened, some channel), w)
    | (.error cause, w) => ((.error cause.toWire, none), w)
  | .pairingData r =>
    let (result, w) := Direct.pairingData r w
    ((Reply.ofResult .pairingData result, none), w)
  | .approve r =>
    let (result, w) := Direct.approve r w
    ((Reply.ofResult (fun _ => .ack) result, none), w)
  | .reject r =>
    let (result, w) := Direct.reject r w
    ((Reply.ofResult (fun _ => .ack) result, none), w)

def close (c : ServerSide) (w : Environment Service) : ServerSide × Environment Service :=
  match c.stage with
  | .streaming channel => ({ c with stage := .closed }, w.dropReceiver channel)
  | _ => ({ c with stage := .closed }, w)

/-- The connection after a record was written, or none if the record is too long. -/
def write? (c : ServerSide) (content : Bytes) : Option ServerSide :=
  if content.length ≤ maxRecordLength then some { c with written := c.written ++ [content] }
  else none

/-- Writes a record and closes the connection, also when the record is too long. -/
def writeLast (c : ServerSide) (content : Bytes) (w : Environment Service) :
    ServerSide × Environment Service :=
  ((c.write? content).getD c).close w

def handle (c : ServerSide) (content : Bytes) (w : Environment Service) :
    ServerSide × Environment Service :=
  match CallMessage.codec.decode content with
  | .error e =>
    c.writeLast (Reply.codec.write (.error (PairingError.codec e.message).toWire)) w
  | .ok m =>
    match answer m w with
    | ((reply, none), w) => c.writeLast (Reply.codec.write reply) w
    | ((reply, some channel), w) =>
      let c := { c with stage := .streaming channel }
      match c.write? (Reply.codec.write reply) with
      | some c => (c, w)
      | none => c.close w

/-- The record that passes on an item, and whether it is the last one. An item is the last if it
is an error or its first octet is the tag of the last frame. -/
def passOn : StreamItem → StreamRecord × Bool
  | .ok octets => (.frame octets, octets.head? == some Frame.responseTag)
  | .error cause => (.error cause.toWire, true)

def forward? (c : ServerSide) (channel : Nat) (w : Environment Service) :
    Option (ServerSide × Environment Service) :=
  match w.receive channel with
  | (.pending, _) => none
  | (.closed, w) => some (c.close w)
  | (.item x, w) =>
    let (record, last) := passOn x
    match c.write? (StreamRecord.codec.write record) with
    | none => some (c.close w)
    | some c => some (if last then c.close w else (c, w))

/-- Closes the connection if anything came from the client, its end included. -/
def abandon? (c : ServerSide) (w : Environment Service) :
    Option (ServerSide × Environment Service) :=
  match c.reader.next c.ended with
  | (.pending, _) => none
  | (_, reader) => some ({ c with reader := reader }.close w)

/-- One step of a connection, if it can make one. Where an item waits and something came from the
client, either may count. -/
def step? (c : ServerSide) (preferClient : Bool) (w : Environment Service) :
    Option (ServerSide × Environment Service) :=
  match c.stage with
  | .closed => none
  | .receiving =>
    match c.reader.next c.ended with
    | (.pending, _) => none
    | (.record content, reader) => some ({ c with reader := reader }.handle content w)
    | (.ended, reader) => some ({ c with reader := reader }.close w)
    | (.fault f, reader) =>
      some ({ c with reader := reader }.writeLast
        (Reply.codec.write (.error (PairingError.transport f.message).toWire)) w)
  | .streaming channel =>
    if preferClient then (c.abandon? w).orElse fun _ => c.forward? channel w
    else (c.forward? channel w).orElse fun _ => c.abandon? w

end ServerSide

end DevicePairing.Connection
