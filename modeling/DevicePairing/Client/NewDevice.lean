import DevicePairing.Client.EventStream
import DevicePairing.Config.Client
import DevicePairing.Transport.Basic

set_option autoImplicit false
set_option relaxedAutoImplicit false

namespace DevicePairing.Client

open DevicePairing
open DevicePairing.Clock
open DevicePairing.Ed25519 (SecretKey)

/-- What a new device says about itself. -/
structure Introduction where
  name : String
  description : String
  restrictions : String

def Introduction.request (i : Introduction) (deviceKey : Key) (version : ProtocolVersion) :
    PairRequest :=
  ⟨i.name, i.description, i.restrictions, deviceKey, version⟩

def streamOf (config : ClientConfig) (secret : SecretKey) (now : Nat) (opened : Opened)
    (channel : Nat) : EventStream :=
  ⟨opened.session, config.version, opened.exchangePayload, secret, some channel,
    now + config.pairingTimeout.toNat⟩

/-- Opens a session. A session of another version than the requested one is given up. -/
def pairDevice {σ : Type} [Tasks σ] (config : ClientConfig) (t : Transport σ)
    (i : Introduction) (w : Environment σ) : Except PairingError EventStream × Environment σ :=
  let (seed, w) := w.drawKey
  let secret : SecretKey := ⟨seed⟩
  let request := i.request secret.publicKey config.version
  let bounded := t.within config.requestTimeout.toNat
  match (bounded.pairDevice request).perform w with
  | (.error cause, w) => (.error cause, w)
  | (.ok (opened, channel), w) =>
    if opened.version ≠ config.version then
      (.error (.protocolMismatch config.version opened.version), w.dropReceiver channel)
    else (.ok (streamOf config secret w.now opened channel), w)

end DevicePairing.Client
