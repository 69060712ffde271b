import DevicePairing.Clock.Environment
import DevicePairing.SignedRequest

set_option autoImplicit false
set_option relaxedAutoImplicit false

namespace DevicePairing.Transport

open DevicePairing
open DevicePairing.Clock

/-- A call that is answered after some milliseconds. -/
structure Call (σ α : Type) where
  latency : Nat
  answer : Environment σ → Except PairingError α × Environment σ

namespace Call

variable {σ α : Type}

def atOnce (answer : Environment σ → Except PairingError α × Environment σ) : Call σ α :=
  ⟨0, answer⟩

def failing (cause : PairingError) : Call σ α := atOnce fun w => (.error cause, w)

/-- The call of a caller who waits for a limited time. An answer that comes in time counts, also
at the last moment. -/
def within (c : Call σ α) (limit : Nat) : Call σ α :=
  if c.latency ≤ limit then c else ⟨limit, fun w => (.error .timeout, w)⟩

def perform [Tasks σ] (c : Call σ α) (w : Environment σ) :
    Except PairingError α × Environment σ :=
  c.answer (w.sleepUntil (w.now + c.latency))

end Call

end Transport

open DevicePairing.Transport (Call)

/-- The calls of a pairing server. -/
structure Transport (σ : Type) where
  /-- Opens a session; the number is that of the channel to receive frames from. -/
  pairDevice : PairRequest → Call σ (Opened × Nat)
  pairingData : SignedRequest → Call σ PairingData
  approve : SignedRequest → Call σ Unit
  reject : SignedRequest → Call σ Unit

namespace Transport

/-- The calls of a caller who waits for a limited time. The frames of a session that was opened
are not waited for. -/
def within {σ : Type} (t : Transport σ) (limit : Nat) : Transport σ where
  pairDevice := fun r => (t.pairDevice r).within limit
  pairingData := fun r => (t.pairingData r).within limit
  approve := fun r => (t.approve r).within limit
  reject := fun r => (t.reject r).within limit

end Transport

end DevicePairing
