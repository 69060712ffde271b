import DevicePairing.Proofs.Message
import DevicePairing.Proofs.Session.Representation
import DevicePairing.Proofs.Signing

set_option autoImplicit false
set_option relaxedAutoImplicit false

/-!
What one signature is worth under the keys that sessions are opened with. A key that is not of small
order, as no key of a well-behaved device is, ties a signature to one operation and body as far as
the digest goes. But keys of small order are accepted as well, and the neutral one is good for
every message with one and the same signature.
-/

namespace DevicePairing

open DevicePairing.Ed25519 (Names SecretKey Signature challenge)

namespace Ed25519

def neutralKey : Key := Key.ofNat 1

private theorem encode_zero : encode 0 = neutralKey := by
  rw [← Point.Denotes.zero.compress]
  decide +kernel

private theorem names_neutralKey : Names neutralKey 0 := encode_zero ▸ names_encode 0

/-- A signature without a secret: the neutral point with the scalar zero. -/
def blank : Signature := ⟨neutralKey, Key.ofNat 0⟩

private theorem verify_blank (message : Bytes) : verify neutralKey message blank = true := by
  have zero : blank.scalar.toNat = 0 := Key.toNat_ofNat (by decide)
  rw [verify_iff names_neutralKey, zero]
  refine ⟨by decide, ?_⟩
  rw [residual, zero_nsmul, nsmul_zero, sub_zero]
  exact encode_zero

end Ed25519

namespace SignedRequest

def message (r : SignedRequest) : Bytes := signingMessage r.operation r.body

/-- Two requests for different operations under one key and with one signature, the first of which
passes the check of signatures. -/
structure Replay (key : Key) (s : Signature) (r r' : SignedRequest) : Prop where
  deviceKey : r.certificate.deviceKey = key
  deviceKey' : r'.certificate.deviceKey = key
  signature : Signature.ofBytes? r.signature = some s
  signature' : r'.signature = r.signature
  checked : r.checkSignature r.operation = .ok ()
  other : r'.operation ≠ r.operation

private theorem checkSignature_iff_verify {r : SignedRequest} {s : Signature}
    (split : Signature.ofBytes? r.signature = some s) :
    r.checkSignature r.operation = .ok () ↔
      Ed25519.verify r.certificate.deviceKey r.message s = true := by
  rw [checkSignature_eq_ok]
  constructor
  · rintro ⟨-, s', found, good⟩
    obtain rfl := Option.some.inj (split.symm.trans found)
    exact good
  · intro good
    exact ⟨rfl, s, split, good⟩

namespace Replay

variable {key : Key} {q : Ed25519.Element} {s : Signature} {r r' : SignedRequest}

private theorem different (h : Replay key s r r') : r.message ≠ r'.message := fun same =>
  h.other (signingMessage_inj same).1.symm

private theorem checked_iff (h : Replay key s r r') (names : Names key q) :
    r'.checkSignature r'.operation = .ok () ↔
      Ed25519.SameChallenge q s.point key r.message r'.message := by
  have split := h.signature
  rw [← h.signature'] at split
  have good := (checkSignature_iff_verify h.signature).mp h.checked
  rw [h.deviceKey] at good
  rw [checkSignature_iff_verify split, h.deviceKey']
  exact Ed25519.verify_iff_of_verify names good r'.message

private theorem checked_iff_collision (h : Replay key s r r') (names : Names key q)
    (strong : ¬q.IsWeak) :
    r'.checkSignature r'.operation = .ok () ↔ Collision s.point key r.message r'.message := by
  rw [h.checked_iff names, Ed25519.sameChallenge_iff_of_not_isWeak strong]
  exact ⟨fun same => ⟨h.different, same⟩, Collision.same⟩

private theorem checked_of_weak (h : Replay key s r r') (names : Names key q) (weak : q.IsWeak)
    (same : challenge s.point key r.message % 8 = challenge s.point key r'.message % 8) :
    r'.checkSignature r'.operation = .ok () :=
  (h.checked_iff names).mpr (Ed25519.sameChallenge_of_isWeak weak same)

end Replay

end SignedRequest

namespace Session

open DevicePairing.SignedRequest (Replay)

/-- The keys that sessions are opened with name elements of the group. If the element is not of
small order, one signature passes for two operations only where the digests collide, and public keys
of secret ones are such. If it is, it is enough that the digests agree modulo eight. -/
theorem replays_take_collisions {s : Service} {now : Nat} {entropy : Entropy}
    {request : PairRequest} {opening : Opening}
    (admitted : s.openSession now entropy request = .ok opening) :
    ∃ q, Names request.deviceKey q ∧
      (∀ secret : SecretKey, request.deviceKey = secret.publicKey → ¬q.IsWeak) ∧
      ∀ signature r r', Replay request.deviceKey signature r r' →
        (¬q.IsWeak → (r'.checkSignature r'.operation = .ok () ↔
          Collision signature.point request.deviceKey r.message r'.message)) ∧
        (q.IsWeak →
          challenge signature.point request.deviceKey r.message % 8 =
            challenge signature.point request.deviceKey r'.message % 8 →
          r'.checkSignature r'.operation = .ok ()) := by
  have accepted : s.checkOpening request = .ok () := by
    rw [Service.openSession_eq] at admitted
    cases checked : s.checkOpening request with
    | ok _ => rfl
    | error cause =>
      rw [checked] at admitted
      cases admitted
  obtain ⟨q, names⟩ := Ed25519.exists_names (Service.isPublicKey_of_checkOpening accepted)
  refine ⟨q, names, fun secret own => ?_, fun signature r r' replay => ?_⟩
  · rw [own] at names
    rw [names.unique secret.names_publicKey]
    exact secret.element_not_isWeak
  · exact ⟨replay.checked_iff_collision names, replay.checked_of_weak names⟩

namespace Sample

def ownKey : Key := (⟨Key.ofNat 3⟩ : SecretKey).publicKey

private theorem isPublicKey_ownKey : Ed25519.isPublicKey ownKey = true := by
  obtain ⟨p, found, -⟩ := (⟨Key.ofNat 3⟩ : SecretKey).names_publicKey
  exact Option.isSome_iff_exists.mpr ⟨p, found⟩

/-- The certificate of the device in the sample request, whose key is the neutral one. -/
def certificate : Certificate := authority.issue 0 request.deviceKey "lamp" ""

def forged (operation : Operation) (body : Bytes) : SignedRequest :=
  ⟨operation, certificate, body, Ed25519.neutralKey.octets ++ (Key.ofNat 0).octets⟩

end Sample

open DevicePairing.Session.Sample

private theorem openSession_of_isPublicKey (now : Nat) (entropy : Entropy) {r : PairRequest}
    (valid : Ed25519.isPublicKey r.deviceKey = true) (version : r.version = .v1) :
    ∃ opening, (Service.create .standard).openSession now entropy r = .ok opening := by
  refine ⟨(Service.create .standard).accept now entropy r, ?_⟩
  have supported : r.version ∈ (Service.create .standard).config.supportedVersions := by
    rw [version]
    decide
  have accepted : (Service.create .standard).checkOpening r = .ok () := by
    rw [Service.checkOpening, if_neg (not_not.mpr supported), valid]
    rfl
  rw [Service.openSession_eq, accepted]
  rfl

/-- The key of a device that has the secret one is not of small order. -/
theorem replays_take_collisions_of_ownKey :
    ∃ q, Names ownKey q ∧ ¬q.IsWeak ∧ ∀ signature r r', Replay ownKey signature r r' →
      (r'.checkSignature r'.operation = .ok () ↔
        Collision signature.point ownKey r.message r'.message) := by
  obtain ⟨opening, admitted⟩ := openSession_of_isPublicKey 0 beginning.entropy
    (r := { request with deviceKey := ownKey }) isPublicKey_ownKey rfl
  obtain ⟨q, names, own, replays⟩ := replays_take_collisions admitted
  have strong := own ⟨Key.ofNat 3⟩ rfl
  exact ⟨q, names, strong, fun signature r r' replay => (replays signature r r' replay).1 strong⟩

/-- A session is opened with the neutral key. Under a certificate for it one signature opens a
look-up and a rejection alike, and in fact it is good for every message. -/
theorem one_signature_opens_every_call :
    (∃ opening, (Service.create .standard).openSession 0 beginning.entropy request = .ok opening) ∧
    (∃ r r' : SignedRequest, r.certificate.deviceKey = request.deviceKey ∧
      r.certificate.SignedBy authority.publicKey ∧ r'.certificate = r.certificate ∧
      r'.signature = r.signature ∧
      r.openBody LookupBody.codec .getPairingData = .ok ⟨session⟩ ∧
      r'.openBody RejectionBody.codec .rejectPairing = .ok ⟨session, ""⟩) ∧
    ∃ signature, ∀ message, Verifies request.deviceKey message signature := by
  have everything : ∀ message, Verifies request.deviceKey message
      (Ed25519.neutralKey.octets ++ (Key.ofNat 0).octets) := fun message =>
    ⟨Ed25519.blank, Ed25519.Signature.ofBytes?_append Ed25519.neutralKey (Key.ofNat 0),
      Ed25519.verify_blank message⟩
  have valid := (everything []).isPublicKey
  let lookUp := forged .getPairingData (LookupBody.codec.write ⟨session⟩)
  let rejection := forged .rejectPairing (RejectionBody.codec.write ⟨session, ""⟩)
  have certified : lookUp.certificate.SignedBy authority.publicKey :=
    authority.signedBy_issue _ _ _ _
  refine ⟨openSession_of_isPublicKey _ _ valid rfl,
    ⟨lookUp, rejection, rfl, certified, rfl, rfl, ?_, ?_⟩, _, everything⟩
  · refine (SignedRequest.openBody_eq_ok _).mpr ⟨⟨rfl, everything _⟩, ?_⟩
    exact LookupBody.lawful_codec.decode_write (by decide) (by decide)
  · refine (SignedRequest.openBody_eq_ok _).mpr ⟨⟨rfl, everything _⟩, ?_⟩
    exact RejectionBody.lawful_codec.decode_write (by decide) (by decide)

end Session

end DevicePairing
