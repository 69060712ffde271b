import DevicePairing.Error.Basic
import DevicePairing.Operation

set_option autoImplicit false
set_option relaxedAutoImplicit false

namespace DevicePairing

/-- Why a caller lacks a right. -/
inductive Refusal where
  | invalidAuthorityKey
  | malformedCertificateSignature
  | certificateSignatureInvalid
  | invalidDeviceKey
  | otherOperation (signed used : Operation)
  | malformedRequestSignature
  | requestSignatureInvalid
  | unknownNode
  | foreignNode
  | unrestrictedGrant
  | foreignDeviceKey
  deriving DecidableEq

namespace Refusal

def detail : Refusal → String
  | .invalidAuthorityKey => "invalid authority key"
  | .malformedCertificateSignature => "malformed certificate signature"
  | .certificateSignatureInvalid => "certificate signature invalid"
  | .invalidDeviceKey => "invalid device key"
  | .otherOperation signed used =>
    "request signed for " ++ signed.name ++ ", used for " ++ used.name
  | .malformedRequestSignature => "malformed request signature"
  | .requestSignatureInvalid => "request signature invalid"
  | .unknownNode => "credentials are not valid for any known node"
  | .foreignNode => "credentials have no rights over the requested node"
  | .unrestrictedGrant => "restricted credentials cannot grant unrestricted access"
  | .foreignDeviceKey => "certificate does not bind this device key"

def toPairingError (r : Refusal) : PairingError := .unauthorized r.detail

end Refusal

end DevicePairing
