import DevicePairing.Certificate
import DevicePairing.Version

set_option autoImplicit false
set_option relaxedAutoImplicit false

namespace DevicePairing

open DevicePairing.Cbor

/-- What a new device asks for. -/
structure PairRequest where
  name : String
  description : String
  restrictions : String
  deviceKey : Key
  version : ProtocolVersion
  deriving DecidableEq

def PairRequest.codec : Codec PairRequest :=
  (Codec.record "struct PairDeviceRequest"
    (.field "name" Codec.text <|
     .field "description" Codec.text <|
     .field "restrictions" Codec.text <|
     .field "device_public_key" Codec.key <|
     .field "protocol_version" ProtocolVersion.codec .none)).convert
    (fun (name, description, restrictions, deviceKey, version, ()) =>
      ⟨name, description, restrictions, deviceKey, version⟩)
    (fun r => (r.name, r.description, r.restrictions, r.deviceKey, r.version, ()))

structure Opened where
  session : String
  version : ProtocolVersion
  exchangePayload : Option String
  deriving DecidableEq

def Opened.codec : Codec Opened :=
  (Codec.record "struct PairingOpened"
    (.field "session_id" Codec.text <|
     .field "protocol_version" ProtocolVersion.codec <|
     .field "exchange_payload" (Codec.optional Codec.text) .none)).convert
    (fun (session, version, exchangePayload, ()) => ⟨session, version, exchangePayload⟩)
    (fun o => (o.session, o.version, o.exchangePayload, ()))

/-- A certificate with the key of the authority that signed it. -/
structure IssuedCredentials where
  certificate : Certificate
  authorityKey : Key
  deriving DecidableEq

def IssuedCredentials.codec : Codec IssuedCredentials :=
  (Codec.record "struct IssuedCredentials"
    (.field "certificate" Certificate.codec <|
     .field "authority_key" Codec.key .none)).convert
    (fun (certificate, authorityKey, ()) => ⟨certificate, authorityKey⟩)
    (fun i => (i.certificate, i.authorityKey, ()))

/-- How a session was decided. -/
inductive Outcome where
  | approved (issued : IssuedCredentials)
  | rejected (reason : String)
  deriving DecidableEq

def Outcome.reasonCodec : Codec String :=
  (Codec.record "struct variant PairingOutcome::Rejected"
    (.field "reason" Codec.text .none)).convert
    (fun (reason, ()) => reason)
    (fun reason => (reason, ()))

def Outcome.codec : Codec Outcome :=
  Codec.choice
    [.wrapping "Approved" IssuedCredentials.codec .approved,
      .withFields "Rejected" Outcome.reasonCodec .rejected]
    fun o =>
      match o with
      | .approved issued => writeVariant "Approved" (IssuedCredentials.codec.write issued)
      | .rejected reason => writeVariant "Rejected" (Outcome.reasonCodec.write reason)

/-- The last thing that a new device is told. -/
structure PairResponse where
  session : String
  outcome : Outcome
  deriving DecidableEq

namespace PairResponse

def codec : Codec PairResponse :=
  (Codec.record "struct PairDeviceResponse"
    (.field "session_id" Codec.text <|
     .field "outcome" Outcome.codec .none)).convert
    (fun (session, outcome, ()) => ⟨session, outcome⟩)
    (fun r => (r.session, r.outcome, ()))

def isApproved (r : PairResponse) : Bool :=
  match r.outcome with
  | .approved _ => true
  | .rejected _ => false

end PairResponse

/-- What an attesting device asks to see a pending session. -/
structure LookupBody where
  session : String
  deriving DecidableEq

def LookupBody.codec : Codec LookupBody :=
  (Codec.record "struct GetPairingDataRequest"
    (.field "session_id" Codec.text .none)).convert
    (fun (session, ()) => ⟨session⟩)
    (fun b => (b.session, ()))

/-- What an attesting device is told about a pending session. -/
structure PairingData where
  session : String
  exchangePayload : String
  name : String
  description : String
  restrictions : String
  deriving DecidableEq

def PairingData.codec : Codec PairingData :=
  (Codec.record "struct GetPairingDataResponse"
    (.field "session_id" Codec.text <|
     .field "exchange_payload" Codec.text <|
     .field "name" Codec.text <|
     .field "description" Codec.text <|
     .field "restrictions" Codec.text .none)).convert
    (fun (session, exchangePayload, name, description, restrictions, ()) =>
      ⟨session, exchangePayload, name, description, restrictions⟩)
    (fun d => (d.session, d.exchangePayload, d.name, d.description, d.restrictions, ()))

/-- What an attesting device asks to have a new device certified. -/
structure ApprovalBody where
  session : String
  node : Bytes
  deviceName : String
  restrictions : String
  deriving DecidableEq

def ApprovalBody.codec : Codec ApprovalBody :=
  (Codec.record "struct ApprovePairingRequest"
    (.field "session_id" Codec.text <|
     .field "node_id" Codec.octets <|
     .field "device_name" Codec.text <|
     .field "restrictions" Codec.text .none)).convert
    (fun (session, node, deviceName, restrictions, ()) =>
      ⟨session, node, deviceName, restrictions⟩)
    (fun b => (b.session, b.node, b.deviceName, b.restrictions, ()))

/-- What an attesting device asks to have a new device turned away. -/
structure RejectionBody where
  session : String
  reason : String
  deriving DecidableEq

def RejectionBody.codec : Codec RejectionBody :=
  (Codec.record "struct RejectPairingRequest"
    (.field "session_id" Codec.text <|
     .field "reason" Codec.text .none)).convert
    (fun (session, reason, ()) => ⟨session, reason⟩)
    (fun b => (b.session, b.reason, ()))

end DevicePairing
