import DevicePairing.Transport.Basic

set_option autoImplicit false
set_option relaxedAutoImplicit false

namespace DevicePairing.Client

open DevicePairing
open DevicePairing.Clock
open DevicePairing.Transport (Call)

/-- A device that vouches for others. -/
structure Attester (σ : Type) where
  credentials : Credentials
  transport : Transport σ

namespace Attester

variable {σ : Type}

/-- Asks what the new device of a session says about itself. -/
def pairingData (a : Attester σ) (session : String) : Call σ PairingData :=
  a.transport.pairingData
    (SignedRequest.sealBody LookupBody.codec a.credentials .getPairingData ⟨session⟩)

def approve (a : Attester σ) (session : String) (node : Bytes)
    (deviceName restrictions : String) : Call σ Unit :=
  a.transport.approve
    (SignedRequest.sealBody ApprovalBody.codec a.credentials .approvePairing
      ⟨session, node, deviceName, restrictions⟩)

/-- Has the new device of a session turned away. -/
def reject (a : Attester σ) (session reason : String) : Call σ Unit :=
  a.transport.reject
    (SignedRequest.sealBody RejectionBody.codec a.credentials .rejectPairing ⟨session, reason⟩)

end Attester

end DevicePairing.Client
