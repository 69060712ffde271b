import DevicePairing.Cbor.Choice

set_option autoImplicit false
set_option relaxedAutoImplicit false

namespace DevicePairing

open DevicePairing.Cbor

/-- What a paired device asks for. -/
inductive Operation where
  /-- To see what a new device says about itself. -/
  | getPairingData
  | approvePairing
  | rejectPairing
  deriving DecidableEq

namespace Operation

def code : Operation → UInt8
  | .getPairingData => 1
  | .approvePairing => 2
  | .rejectPairing => 3

def name : Operation → String
  | .getPairingData => "GetPairingData"
  | .approvePairing => "ApprovePairing"
  | .rejectPairing => "RejectPairing"

def all : List Operation := [.getPairingData, .approvePairing, .rejectPairing]

def codec : Codec Operation :=
  Codec.choice (all.map fun o => .constant o.name o) fun o => writeText o.name

theorem code_injective {o o' : Operation} (h : o.code = o'.code) : o = o' := by
  revert h
  cases o <;> cases o' <;> decide

end Operation

end DevicePairing
