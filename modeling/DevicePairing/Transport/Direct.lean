import DevicePairing.Session.Supervisor
import DevicePairing.Transport.Basic

set_option autoImplicit false
set_option relaxedAutoImplicit false

namespace DevicePairing

open DevicePairing.Clock
open DevicePairing.Session
open DevicePairing.Transport (Call)

instance serviceTasks : Tasks Service where
  channel? := fun s i => s.channels[i]?
  modifyChannel := Service.modifyChannel
  settle := Service.settle
  wakeAt? := Service.wakeAt?
  waits := fun s => 2 * s.supervisors.length

namespace Transport.Direct

def pairDevice (r : PairRequest) (w : Environment Service) :
    Except PairingError (Opened × Nat) × Environment Service :=
  match w.system.openSession w.now w.entropy r with
  | .error cause => (.error cause, w)
  | .ok o => (.ok (o.opened, o.channel), { w with entropy := o.entropy, system := o.service })

def pairingData (r : SignedRequest) (w : Environment Service) :
    Except PairingError PairingData × Environment Service :=
  (w.system.pairingData r, w)

def approve (r : SignedRequest) (w : Environment Service) :
    Except PairingError Unit × Environment Service :=
  let (result, s) := w.system.approve w.issuedAt r
  (result, w.withSystem s)

def reject (r : SignedRequest) (w : Environment Service) :
    Except PairingError Unit × Environment Service :=
  let (result, s) := w.system.reject r
  (result, w.withSystem s)

end Transport.Direct

def Transport.direct : Transport Service where
  pairDevice := fun r => Call.atOnce (Transport.Direct.pairDevice r)
  pairingData := fun r => Call.atOnce (Transport.Direct.pairingData r)
  approve := fun r => Call.atOnce (Transport.Direct.approve r)
  reject := fun r => Call.atOnce (Transport.Direct.reject r)

end DevicePairing
