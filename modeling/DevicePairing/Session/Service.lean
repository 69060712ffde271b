import DevicePairing.Config.Service
import DevicePairing.Exchange
import DevicePairing.Frame
import DevicePairing.Random
import DevicePairing.Session.Channel
import DevicePairing.Session.State
import DevicePairing.SignedRequest
import DevicePairing.Table

set_option autoImplicit false
set_option relaxedAutoImplicit false

/-!
The pairing service: the sessions that wait for a decision or were decided lately, the authorities
that sign for their nodes, and the channels to the new devices. Everyone may open a session; to see
or decide one takes a request that is signed with a key certified by the authority registered for
its node.
-/

namespace DevicePairing.Session

open DevicePairing

/-- A session as the service keeps it. -/
structure Entry where
  state : State
  request : PairRequest
  exchangePayload : String
  sender : Option Nat
  openedAt : Nat

/-- What the supervisor of a session waits for. -/
inductive Phase where
  | starting
  /-- It holds a sender and waits for the deadline or for the receiver to go. -/
  | watching (deadline : Nat)
  | lingering (deadline : Nat)
  | finished
  deriving DecidableEq

/-- The supervisor of a session, which ends it in time. -/
structure Supervisor where
  session : String
  channel : Nat
  phase : Phase

structure Service where
  config : ServiceConfig
  sessions : Table String Entry
  authorities : Table Bytes NodeAuthority
  channels : List Channel
  supervisors : List Supervisor

/-- What comes of opening a session. -/
structure Opening where
  opened : Opened
  channel : Nat
  service : Service
  entropy : Entropy

namespace Service

def create (config : ServiceConfig) : Service := ⟨config, [], [], [], []⟩

/-- The service with an authority for its node, in the place of an earlier one. -/
def register (s : Service) (a : NodeAuthority) : Service :=
  { s with authorities := s.authorities.put a.node a }

def stateOf? (s : Service) (session : String) : Option State :=
  (s.sessions.get? session).map Entry.state

def count (s : Service) : Nat := s.sessions.length

def modifyChannel (s : Service) (i : Nat) (f : Channel → Channel) : Service :=
  { s with channels := s.channels.modify i f }

def putEntry (s : Service) (session : String) (e : Entry) : Service :=
  { s with sessions := s.sessions.put session e }

def isReceiving (s : Service) (i : Nat) : Bool :=
  match s.channels[i]? with
  | some c => c.receiving
  | none => false

def releaseSender (s : Service) : Option Nat → Service
  | some i => s.modifyChannel i Channel.dropSender
  | none => s

/-- The service without a session, the sender of which is given up. -/
def remove (s : Service) (session : String) : Service :=
  let left := { s with sessions := s.sessions.erase session }
  match s.sessions.get? session with
  | some e => left.releaseSender e.sender
  | none => left

def checkOpening (s : Service) (r : PairRequest) : Except PairingError Unit :=
  if r.version ∉ s.config.supportedVersions then
    .error (.protocolMismatch r.version s.config.offeredVersion)
  else if !Ed25519.isPublicKey r.deviceKey then .error (.codec "invalid device public key")
  else .ok ()

/-- The channel of a new session, with the payload in it where the version sends it so. -/
def openingChannel (s : Service) (version : ProtocolVersion) (payload : String) :
    Except PairingError Channel :=
  let c := Channel.create s.config.channelCapacity
  match version with
  | .v1 => (c.sendNow (.ok (Frame.encode (.info payload)))).mapError .transport
  | .v2 => .ok c

/-- Opens a session for a new device. A name is drawn only when the request is accepted, and a
session that had the same name makes way. -/
def openSession (s : Service) (now : Nat) (entropy : Entropy) (r : PairRequest) :
    Except PairingError Opening := do
  s.checkOpening r
  let (random, entropy) := entropy.draw 16
  let session := sessionName random
  let payload := Exchange.payload session
  let channel ← s.openingChannel r.version payload
  let state ← State.created.transition .awaitingApproval
  let s := s.remove session
  let i := s.channels.length
  let exchangePayload :=
    match r.version with
    | .v1 => none
    | .v2 => some payload
  .ok
    { opened := ⟨session, r.version, exchangePayload⟩
      channel := i
      entropy := entropy
      service :=
        { s with
          sessions := s.sessions.put session ⟨state, r, payload, some i, now⟩
          channels := s.channels ++ [channel.addSender]
          supervisors := s.supervisors ++ [⟨session, i, .starting⟩] } }

def authorize (s : Service) (c : Certificate) : Except Refusal NodeAuthority :=
  match s.authorities.get? c.node with
  | none => .error .unknownNode
  | some a => do
    c.verify a.publicKey
    .ok a

def openAuthorized {α : Type} (s : Service) (k : Cbor.Codec α) (operation : Operation)
    (r : SignedRequest) : Except PairingError (α × NodeAuthority) := do
  let body ← r.openBody k operation
  let a ← (s.authorize r.certificate).mapError Refusal.toPairingError
  .ok (body, a)

/-- Whether the holder of a certificate may have a device certified as asked: for the same node,
and not without restrictions if it has some itself. -/
def checkGrant (c : Certificate) (b : ApprovalBody) : Except Refusal Unit :=
  if b.node ≠ c.node then .error .foreignNode
  else if !c.restrictions.isEmpty && b.restrictions.isEmpty then .error .unrestrictedGrant
  else .ok ()

def checkApproval (s : Service) (r : SignedRequest) :
    Except PairingError (ApprovalBody × NodeAuthority) := do
  let (body, a) ← s.openAuthorized ApprovalBody.codec .approvePairing r
  (checkGrant r.certificate body).mapError Refusal.toPairingError
  .ok (body, a)

def checkRejection (s : Service) (r : SignedRequest) : Except PairingError RejectionBody := do
  let (body, _) ← s.openAuthorized RejectionBody.codec .rejectPairing r
  .ok body

def describe (session : String) (e : Entry) : PairingData :=
  ⟨session, e.exchangePayload, e.request.name, e.request.description, e.request.restrictions⟩

/-- What the new device said about itself, for a session that waits. -/
def pairingData (s : Service) (r : SignedRequest) : Except PairingError PairingData := do
  let (body, _) ← s.openAuthorized LookupBody.codec .getPairingData r
  match s.sessions.get? body.session with
  | some e =>
    if e.state.isOpen then .ok (describe body.session e)
    else .error (.sessionNotFound body.session)
  | none => .error (.sessionNotFound body.session)

/-- The service after a session was moved to its end without a decision, with what was left of
its sender. -/
def expireEntry (s : Service) (session : String) (e : Entry) : Except PairingError Service := do
  let state ← e.state.transition .expired
  .ok ((s.putEntry session { e with state := state, sender := none }).releaseSender e.sender)

/-- Whether the new device of a session can still be told something. -/
def canSend (s : Service) (e : Entry) : Bool :=
  match e.sender with
  | some i => s.isReceiving i
  | none => false

/-- Moves a session that waits to a decision, which can be done once. The key to certify and the
session's sender are handed out. A session whose new device is gone expires instead. -/
def resolve (s : Service) (session : String) (r : Resolution) :
    Except PairingError (Key × Option Nat) × Service :=
  match s.sessions.get? session with
  | none => (.error (.sessionNotFound session), s)
  | some e =>
    match e.state with
    | .resolved _ => (.error (.sessionAlreadyResolved session), s)
    | .expired => (.error (.sessionNotFound session), s)
    | _ =>
      if s.canSend e then
        match e.state.transition (.resolved r) with
        | .error cause => (.error cause, s)
        | .ok state =>
          (.ok (e.request.deviceKey, e.sender),
            s.putEntry session { e with state := state, sender := none })
      else
        match s.expireEntry session e with
        | .error cause => (.error cause, s)
        | .ok s => (.error (.sessionNotFound session), s)

/-- Sends the last frame over the session's sender, which is given up then. -/
def deliver (s : Service) (sender : Option Nat) (response : PairResponse) :
    Except PairingError Unit × Service :=
  match sender with
  | none => (.error (.sessionNotFound response.session), s)
  | some i =>
    match (s.channels[i]?).bind fun c => c.send? (.ok (Frame.encode (.response response))) with
    | none => (.error (.sessionNotFound response.session), s.releaseSender (some i))
    | some c => (.ok (), (s.modifyChannel i fun _ => c).releaseSender (some i))

/-- Moves a session to a decision and tells its new device the outcome, which may depend on the
device's key. -/
def decide (s : Service) (session : String) (r : Resolution) (outcome : Key → Outcome) :
    Except PairingError Unit × Service :=
  match s.resolve session r with
  | (.error cause, s) => (.error cause, s)
  | (.ok (key, sender), s) => s.deliver sender ⟨session, outcome key⟩

def approve (s : Service) (issuedAt : UInt64) (r : SignedRequest) :
    Except PairingError Unit × Service :=
  match s.checkApproval r with
  | .error cause => (.error cause, s)
  | .ok (body, a) =>
    s.decide body.session .approved fun key =>
      .approved (a.issueCredentials issuedAt key body.deviceName body.restrictions)

def reject (s : Service) (r : SignedRequest) : Except PairingError Unit × Service :=
  match s.checkRejection r with
  | .error cause => (.error cause, s)
  | .ok body => s.decide body.session .rejected fun _ => .rejected body.reason

def outline (s : Service) : String :=
  Text.Outline.record "PairingService"
    [("sessions", Text.Outline.number s.count),
      ("authorities", Text.Outline.number s.authorities.length)]

end Service

end DevicePairing.Session
