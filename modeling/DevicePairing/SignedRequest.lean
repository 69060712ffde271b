import DevicePairing.Credentials

set_option autoImplicit false
set_option relaxedAutoImplicit false

namespace DevicePairing

open DevicePairing.Cbor
open DevicePairing.Ed25519 (Signature)

/-- A request signed with a certified key. -/
structure SignedRequest where
  operation : Operation
  certificate : Certificate
  body : Bytes
  signature : Bytes
  deriving DecidableEq

namespace SignedRequest

def codec : Codec SignedRequest :=
  (Codec.record "struct SignedRequest"
    (.field "op" Operation.codec <|
     .field "certificate" Certificate.codec <|
     .field "body" Codec.octets <|
     .field "signature" Codec.octets .none)).convert
    (fun (operation, certificate, body, signature, ()) =>
      ⟨operation, certificate, body, signature⟩)
    (fun r => (r.operation, r.certificate, r.body, r.signature, ()))

def domain : Bytes := Text.Utf8.ofString "PAIRING-REQUEST-v1:"

def signingMessage (operation : Operation) (body : Bytes) : Bytes :=
  domain ++ operation.code :: body

def sealBytes (c : Credentials) (operation : Operation) (body : Bytes) : SignedRequest :=
  ⟨operation, c.certificate, body, c.sign (signingMessage operation body)⟩

/-- A request signed by the holder of credentials, its body being written first. -/
def sealBody {α : Type} (k : Codec α) (c : Credentials) (operation : Operation) (body : α) :
    SignedRequest :=
  sealBytes c operation (k.write body)

/-- Whether the request is for the expected operation and signed with the certified key. The
certificate itself is not checked. -/
def checkSignature (r : SignedRequest) (expected : Operation) : Except Refusal Unit := do
  if r.operation ≠ expected then .error (.otherOperation r.operation expected)
  let key ← r.certificate.verifiedDeviceKey
  match Signature.ofBytes? r.signature with
  | none => .error .malformedRequestSignature
  | some s =>
    if Ed25519.verify key (signingMessage r.operation r.body) s then .ok ()
    else .error .requestSignatureInvalid

/-- The body of a request for the expected operation that was signed with the certified key. -/
def openBody {α : Type} (k : Codec α) (r : SignedRequest) (expected : Operation) :
    Except PairingError α := do
  (r.checkSignature expected).mapError Refusal.toPairingError
  (k.decode r.body).mapError fun e => .codec e.message

end SignedRequest

end DevicePairing
