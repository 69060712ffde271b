import DevicePairing.Message.Basic
import DevicePairing.Random
import DevicePairing.Text.Outline

set_option autoImplicit false
set_option relaxedAutoImplicit false

namespace DevicePairing

open DevicePairing.Cbor
open DevicePairing.Ed25519 (SecretKey)
open DevicePairing.Text

structure NodeAuthority where
  node : Bytes
  secret : SecretKey
  deriving DecidableEq

namespace NodeAuthority

def generate (node : Bytes) (entropy : Entropy) : NodeAuthority × Entropy :=
  (⟨node, ⟨entropy.drawKey.1⟩⟩, entropy.drawKey.2)

def publicKey (a : NodeAuthority) : Key := a.secret.publicKey

def issue (a : NodeAuthority) (issuedAt : UInt64) (deviceKey : Key)
    (deviceName restrictions : String) : Certificate :=
  let unsigned : Certificate := ⟨a.node, deviceName, restrictions, deviceKey, issuedAt, []⟩
  ⟨a.node, deviceName, restrictions, deviceKey, issuedAt,
    Ed25519.sign a.secret unsigned.signingMessage⟩

/-- The certificate of an authority for a device, with the authority's key. -/
def issueCredentials (a : NodeAuthority) (issuedAt : UInt64) (deviceKey : Key)
    (deviceName restrictions : String) : IssuedCredentials :=
  ⟨a.issue issuedAt deviceKey deviceName restrictions, a.publicKey⟩

def outline (a : NodeAuthority) : String :=
  Outline.record "NodeAuthority"
    [("node_id", Outline.octets a.node),
      ("public_key", Outline.text (fingerprint a.publicKey.octets))]

end NodeAuthority

structure Credentials where
  secret : SecretKey
  certificate : Certificate
  authorityKey : Key
  deriving DecidableEq

namespace Credentials

/-- Credentials whose certificate is good and is for the key of the device. -/
def ofIssued (secret : SecretKey) (issued : IssuedCredentials) : Except Refusal Credentials := do
  issued.certificate.verify issued.authorityKey
  if issued.certificate.deviceKey ≠ secret.publicKey then .error .foreignDeviceKey
  .ok ⟨secret, issued.certificate, issued.authorityKey⟩

/-- The credentials that an authority gives to a device without a pairing, the device's secret
key being given. -/
def enroll (a : NodeAuthority) (issuedAt : UInt64) (secret : SecretKey)
    (deviceName restrictions : String) : Credentials :=
  let issued := a.issueCredentials issuedAt secret.publicKey deviceName restrictions
  ⟨secret, issued.certificate, issued.authorityKey⟩

/-- The credentials that an authority gives to a device with a random key. -/
def enrollNew (a : NodeAuthority) (issuedAt : UInt64) (entropy : Entropy)
    (deviceName restrictions : String) : Credentials × Entropy :=
  (enroll a issuedAt ⟨entropy.drawKey.1⟩ deviceName restrictions, entropy.drawKey.2)

def sign (c : Credentials) (message : Bytes) : Bytes := Ed25519.sign c.secret message

def blobCodec : Codec Credentials :=
  (Codec.record "struct CredentialsBlob"
    (.field "device_key" Codec.key <|
     .field "certificate" Certificate.codec <|
     .field "authority_key" Codec.key .none)).convert
    (fun (seed, certificate, authorityKey, ()) => ⟨⟨seed⟩, certificate, authorityKey⟩)
    (fun c => (c.secret.seed, c.certificate, c.authorityKey, ()))

def toBytes (c : Credentials) : Bytes := blobCodec.write c

def ofBytes (b : Bytes) : Except PairingError Credentials := do
  let stored ← (blobCodec.decode b).mapError fun e => .codec e.message
  (ofIssued stored.secret ⟨stored.certificate, stored.authorityKey⟩).mapError
    Refusal.toPairingError

def outline (c : Credentials) : String :=
  Outline.record "Credentials"
    [("node_id", Outline.octets c.certificate.node),
      ("device_name", Outline.text c.certificate.deviceName),
      ("device", Outline.text c.certificate.fingerprint)]

end Credentials

end DevicePairing
