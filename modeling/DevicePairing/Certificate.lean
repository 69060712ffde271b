import DevicePairing.Cbor.Record
import DevicePairing.Ed25519.Signature
import DevicePairing.Error.Refusal

set_option autoImplicit false
set_option relaxedAutoImplicit false

namespace DevicePairing

open DevicePairing.Cbor
open DevicePairing.Ed25519 (Signature)

structure Certificate where
  node : Bytes
  deviceName : String
  restrictions : String
  deviceKey : Key
  issuedAt : UInt64
  signature : Bytes
  deriving DecidableEq

namespace Certificate

def codec : Codec Certificate :=
  (Codec.record "struct DeviceCertificate"
    (.field "node_id" Codec.octets <|
     .field "device_name" Codec.text <|
     .field "restrictions" Codec.text <|
     .field "device_public_key" Codec.key <|
     .field "issued_at" Codec.uint64 <|
     .field "signature" Codec.octets .none)).convert
    (fun (node, deviceName, restrictions, deviceKey, issuedAt, signature, ()) =>
      ⟨node, deviceName, restrictions, deviceKey, issuedAt, signature⟩)
    (fun c => (c.node, c.deviceName, c.restrictions, c.deviceKey, c.issuedAt, c.signature, ()))

def domain : Bytes := Text.Utf8.ofString "PAIRING-DEVICE-CERT-v1:"

/-- A field with the low thirty-two bits of its length before it. -/
def withLength (b : Bytes) : Bytes := Bytes.bigEndian 4 b.length ++ b

def signingMessage (c : Certificate) : Bytes :=
  domain ++ withLength c.node ++ withLength (Text.Utf8.ofString c.deviceName) ++
    withLength (Text.Utf8.ofString c.restrictions) ++ c.deviceKey.octets ++
    Bytes.bigEndian 8 c.issuedAt.toNat

/-- Whether the authority with the given key signed the certificate. -/
def verify (c : Certificate) (authorityKey : Key) : Except Refusal Unit :=
  if !Ed25519.isPublicKey authorityKey then .error .invalidAuthorityKey
  else
    match Signature.ofBytes? c.signature with
    | none => .error .malformedCertificateSignature
    | some s =>
      if Ed25519.verify authorityKey c.signingMessage s then .ok ()
      else .error .certificateSignatureInvalid

def verifiedDeviceKey (c : Certificate) : Except Refusal Key :=
  if Ed25519.isPublicKey c.deviceKey then .ok c.deviceKey else .error .invalidDeviceKey

end Certificate

/-- The hexadecimal digest by which people tell keys apart. -/
def fingerprint (b : Bytes) : String := Bytes.toHex (Digest.sha256 b)

def Certificate.fingerprint (c : Certificate) : String :=
  DevicePairing.fingerprint c.deviceKey.octets

end DevicePairing
