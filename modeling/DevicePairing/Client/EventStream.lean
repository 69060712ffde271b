import DevicePairing.Clock.Environment
import DevicePairing.Credentials
import DevicePairing.Error.Refusal
import DevicePairing.Frame

set_option autoImplicit false
set_option relaxedAutoImplicit false

namespace DevicePairing.Client

open DevicePairing
open DevicePairing.Clock
open DevicePairing.Ed25519 (SecretKey)
open DevicePairing.Text

/-- What a new device is told. -/
inductive Event where
  | info (text : String)
  | response (r : PairResponse)
  deriving DecidableEq

/-- What is seen of a stream at a moment. -/
inductive Sight where
  | pending
  | ended
  | event (e : Except PairingError Event)

structure EventStream where
  session : String
  version : ProtocolVersion
  exchangePayload : Option String
  secret : SecretKey
  channel : Option Nat
  deadline : Nat

namespace EventStream

def isClosed (s : EventStream) : Bool := s.channel.isNone

/-- The event that a frame stands for. A response is for the session of the stream only. -/
def accept (s : EventStream) : Frame → Except PairingError Event
  | .info text => .ok (.info text)
  | .response r =>
    if r.session = s.session then .ok (.response r)
    else .error (.malformedFrame ("response for foreign session " ++ r.session))

def interpret (s : EventStream) : Session.StreamItem → Except PairingError Event
  | .error cause => .error cause
  | .ok octets =>
    match Frame.decode s.version octets with
    | .error e => .error e.toPairingError
    | .ok f => s.accept f

/-- The stream after an event: the first text of the first version is the exchange payload, and a
response or an error closes the stream. -/
def note (s : EventStream) : Except PairingError Event → EventStream
  | .ok (.info text) =>
    if s.version = .v1 ∧ s.exchangePayload = none then { s with exchangePayload := some text }
    else s
  | _ => { s with channel := none }

variable {σ : Type} [Tasks σ]

/-- Shows an event. The receiver is dropped when the stream is closed by it. -/
def emit (s : EventStream) (i : Nat) (e : Except PairingError Event) (w : Environment σ) :
    Sight × EventStream × Environment σ :=
  let s' := s.note e
  (.event e, s', if s'.isClosed then w.dropReceiver i else w)

def poll (s : EventStream) (w : Environment σ) : Sight × EventStream × Environment σ :=
  match s.channel with
  | none => (.ended, s, w)
  | some i =>
    match w.receive i with
    | (.item x, w) => s.emit i (s.interpret x) w
    | (.closed, w) =>
      s.emit i (.error (.transport "stream ended before the terminal frame")) w
    | (.pending, w) =>
      if s.deadline ≤ w.now then s.emit i (.error .timeout) w else (.pending, s, w)

def next (s : EventStream) (w : Environment σ) : Sight × EventStream × Environment σ :=
  let attempt : EventStream → Environment σ → Option Sight × EventStream × Environment σ :=
    fun s w =>
      match s.poll w with
      | (.pending, s, w) => (none, s, w)
      | (x, s, w) => (some x, s, w)
  match w.await (some s.deadline) attempt s with
  | (some x, s, w) => (x, s, w)
  | (none, s, w) => (.pending, s, w)

def queued (s : EventStream) (w : Environment σ) : Nat :=
  match s.channel.bind (Tasks.channel? w.system) with
  | none => 0
  | some c => c.queued.length

/-- Passes over texts that wait, up to some number of them, and tells what follows, if anything
does. -/
def pollResponse : (texts : Nat) → EventStream → Environment σ →
    Option (Except PairingError PairResponse) × EventStream × Environment σ
  | texts, s, w =>
    match s.poll w with
    | (.pending, s, w) => (none, s, w)
    | (.ended, s, w) => (some (.error (.transport "pairing stream already ended")), s, w)
    | (.event (.ok (.response r)), s, w) => (some (.ok r), s, w)
    | (.event (.error cause), s, w) => (some (.error cause), s, w)
    | (.event (.ok (.info _)), s, w) =>
      match texts with
      | 0 => (none, s, w)
      | texts + 1 => pollResponse texts s w

/-- The response of the session, when it is waited for. Texts are passed over. -/
def response (s : EventStream) (w : Environment σ) :
    Except PairingError PairResponse × EventStream × Environment σ :=
  match w.await (some s.deadline) (fun s w => pollResponse (s.queued w) s w) s with
  | (some r, s, w) => (r, s, w)
  | (none, s, w) => (.error .timeout, s, w)

def close (s : EventStream) (w : Environment σ) : EventStream × Environment σ :=
  match s.channel with
  | none => (s, w)
  | some i => ({ s with channel := none }, w.dropReceiver i)

def credentials (s : EventStream) (r : PairResponse) : Except PairingError Credentials :=
  if r.session ≠ s.session then
    .error (.invalidState
      ("response for session " ++ r.session ++ " used with session " ++ s.session))
  else
    match r.outcome with
    | .approved issued => (Credentials.ofIssued s.secret issued).mapError Refusal.toPairingError
    | .rejected reason => .error (.rejected reason)

def outline (s : EventStream) : String :=
  Outline.record "PairingStream"
    [("session_id", Outline.text s.session),
      ("version", s.version.name),
      ("exchange_payload", Outline.optionalText s.exchangePayload),
      ("closed", Outline.bool s.isClosed)]

end EventStream

end DevicePairing.Client
