import DevicePairing.Proofs.Connection.Answers
import DevicePairing.Proofs.Credentials
import DevicePairing.Proofs.Session.Replay

set_option autoImplicit false
set_option relaxedAutoImplicit false

/-!
Sealed requests. What the holder of credentials seals for an operation opens for this operation,
also after it was written and read, and for no other one. A request that does not open is answered
without a look at the sessions.
-/

namespace DevicePairing

open DevicePairing.Cbor
open DevicePairing.Clock
open DevicePairing.Connection (CallMessage Reply ServerSide)
open DevicePairing.Results
open DevicePairing.Session (Service)

namespace Operation

def Body : Operation → Type
  | getPairingData => LookupBody
  | approvePairing => ApprovalBody
  | rejectPairing => RejectionBody

/-- How the bodies of the requests for an operation are written and read. -/
def bodyCodec : (o : Operation) → Codec o.Body
  | getPairingData => LookupBody.codec
  | approvePairing => ApprovalBody.codec
  | rejectPairing => RejectionBody.codec

private theorem lawful_bodyCodec (o : Operation) : o.bodyCodec.Lawful 2 := by
  cases o with
  | getPairingData => exact LookupBody.lawful_codec.mono (by decide)
  | approvePairing => exact ApprovalBody.lawful_codec
  | rejectPairing => exact RejectionBody.lawful_codec.mono (by decide)

end Operation

def Connection.CallMessage.ofRequest (r : SignedRequest) : Operation → CallMessage
  | .getPairingData => .pairingData r
  | .approvePairing => .approve r
  | .rejectPairing => .reject r

namespace SignedRequest

/-- A request is refused when it is opened for an operation, and when it is sent as the call for
it, the server answers with the refusal and leaves everything as it was. -/
structure TurnedAway (r : SignedRequest) (o : Operation) (refusal : Refusal) : Prop where
  unopened : r.openBody o.bodyCodec o = .error (.unauthorized refusal.detail)
  answered : ∀ w, ServerSide.answer (.ofRequest r o) w =
    ((.error (PairingError.unauthorized refusal.detail).toWire, none), w)
  handled : ∀ (c : ServerSide) (w : Environment Service), c.stage = .receiving →
    Frame.Countable (CallMessage.codec.write (.ofRequest r o)) →
    (c.handle (CallMessage.codec.write (.ofRequest r o)) w).2 = w

variable {r r' : SignedRequest} {o : Operation} {refusal : Refusal}

private theorem openBody_of_checkSignature {α : Type} (k : Codec α)
    (refused : r.checkSignature o = .error refusal) :
    r.openBody k o = .error (.unauthorized refusal.detail) := by
  rw [openBody, refused]
  rfl

private theorem answer_of_checkSignature (refused : r.checkSignature o = .error refusal)
    (w : Environment Service) :
    ServerSide.answer (.ofRequest r o) w =
      ((.error (PairingError.unauthorized refusal.detail).toWire, none), w) := by
  have unopened {α : Type} (k : Codec α) :
      w.system.openAuthorized k o r = .error (.unauthorized refusal.detail) := by
    rw [Service.openAuthorized, openBody_of_checkSignature k refused, error_bind]
  cases o with
  | getPairingData =>
    have result : w.system.pairingData r = .error (.unauthorized refusal.detail) := by
      rw [Service.pairingData, unopened, error_bind]
    simp only [CallMessage.ofRequest, ServerSide.answer, Transport.Direct.pairingData, result,
      Reply.ofResult]
  | approvePairing =>
    have checked : w.system.checkApproval r = .error (.unauthorized refusal.detail) := by
      rw [Service.checkApproval, unopened, error_bind]
    simp only [CallMessage.ofRequest, ServerSide.answer, Transport.Direct.approve, Service.approve,
      checked, Reply.ofResult]
    rfl
  | rejectPairing =>
    have checked : w.system.checkRejection r = .error (.unauthorized refusal.detail) := by
      rw [Service.checkRejection, unopened, error_bind]
    simp only [CallMessage.ofRequest, ServerSide.answer, Transport.Direct.reject, Service.reject,
      checked, Reply.ofResult]
    rfl

private theorem turnedAway_of_checkSignature (refused : r.checkSignature o = .error refusal) :
    TurnedAway r o refusal := by
  have answered := answer_of_checkSignature refused
  refine ⟨openBody_of_checkSignature _ refused, answered, ?_⟩
  intro c w receiving fits
  have decoded := Connection.CallMessage.lawful_codec.decode_write (by decide) fits
  have single : (ServerSide.answer (.ofRequest r o) w).1.2 = none := by rw [answered]
  by_cases short : Connection.Fits (Reply.codec.write (ServerSide.answer (.ofRequest r o) w).1.1)
  · rw [Connection.handle_single decoded single receiving short, answered]
  · rw [Connection.handle_silent decoded single receiving short, answered]

private theorem checkSignature_of_ne (other : r.operation ≠ o) :
    r.checkSignature o = .error (.otherOperation r.operation o) := by
  rw [checkSignature, if_pos other, error_bind]

/-- A request with the signature of another one, for another operation or with another body. -/
structure Altered (r r' : SignedRequest) : Prop where
  certificate : r'.certificate = r.certificate
  signature : r'.signature = r.signature
  changed : r'.operation ≠ r.operation ∨ r'.body ≠ r.body

private theorem Altered.message_ne (h : Altered r r') : r.message ≠ r'.message := by
  intro same
  obtain ⟨operation, body⟩ := signingMessage_inj same
  exact h.changed.elim (· operation.symm) (· body.symm)

private theorem length_body_le (fits : Frame.Countable (codec.write r)) :
    r.body.length ≤ (codec.write r).length := by
  have decoded : codec.decode (codec.write r) = .ok r := lawful_codec.decode_write (by decide) fits
  have paid := (pays_codec : Pays Measure.plain codec.read _).decode decoded
  have items := Measure.length_le_nested r.body
  rw [Measure.total_plain, weight] at paid
  rw [← Measure.numbers_plain] at items
  omega

private theorem checkSignature_own {s : Ed25519.Signature}
    (point : Ed25519.isPublicKey r.certificate.deviceKey = true)
    (split : Ed25519.Signature.ofBytes? r.signature = some s) :
    r.checkSignature r.operation =
      if Ed25519.verify r.certificate.deviceKey r.message s then .ok ()
      else .error .requestSignatureInvalid := by
  have key : r.certificate.verifiedDeviceKey = .ok r.certificate.deviceKey :=
    (verifiedDeviceKey_eq_ok _ _).mpr ⟨point, rfl⟩
  have own : ¬r.operation ≠ r.operation := not_not.mpr rfl
  rw [checkSignature, if_neg own, message, key, ok_bind, split]

/-- The digest of what is checked of a request is that of what was signed for another one. -/
def Collides (c : Credentials) (r r' : SignedRequest) : Prop :=
  Collision (c.secret.point r.message) c.secret.publicKey r.message r'.message

section

variable {c : Credentials} (bound : c.KeyBound) (b : o.Body)

include bound

private theorem openBody_sealBody (fits : Frame.Countable (o.bodyCodec.write b)) :
    (sealBody o.bodyCodec c o b).openBody o.bodyCodec o = .ok b := by
  refine (openBody_eq_ok b).mpr ⟨?_, o.lawful_bodyCodec.decode_write (by decide) fits⟩
  exact Credentials.signedFor_sealBytes bound.own o (o.bodyCodec.write b)

private theorem checkSignature_altered (altered : Altered (sealBody o.bodyCodec c o b) r') :
    (r'.checkSignature r'.operation = .ok () ↔ Collides c (sealBody o.bodyCodec c o b) r') ∧
      (¬Collides c (sealBody o.bodyCodec c o b) r' →
        r'.checkSignature r'.operation = .error .requestSignatureInvalid) := by
  generalize made : sealBody o.bodyCodec c o b = r at altered ⊢
  have key : r'.certificate.deviceKey = c.secret.publicKey := by
    rw [altered.certificate, ← made]
    exact bound.own
  have signature : r'.signature = Ed25519.sign c.secret r.message := by
    rw [altered.signature, ← made]
    rfl
  have split := c.secret.ofBytes?_sign r.message
  have point : Ed25519.isPublicKey c.secret.publicKey = true :=
    (verifies_sign c.secret r.message).isPublicKey
  rw [← signature] at split
  rw [← key] at point
  have passes : r'.checkSignature r'.operation = .ok () ↔ Collides c r r' := by
    rw [checkSignature_eq_ok, Collides, ← verifies_sign_iff altered.message_ne, ← key, ← signature]
    exact ⟨SignedFor.verifies, fun good => ⟨rfl, good⟩⟩
  refine ⟨passes, fun apart => ?_⟩
  rw [checkSignature_own point split] at passes ⊢
  exact if_neg fun good => apart (passes.mp (if_pos good))

end

/-- What is sealed opens as it was sealed, at once and after it was written and read, and carries
the certificate of the one who sealed it. For another operation it is turned away. Where its
operation or its body was altered, another message is checked than was signed; it passes the check
only where the digests of the two are the same, and is turned away else. -/
theorem sealed_requests_open_as_sealed {c : Credentials} (bound : c.KeyBound) (o : Operation)
    (b : o.Body) :
    let r := sealBody o.bodyCodec c o b
    r.certificate = c.certificate ∧
      (Frame.Countable (o.bodyCodec.write b) → r.openBody o.bodyCodec o = .ok b) ∧
      (Frame.Countable (codec.write r) → ∃ r', codec.decode (codec.write r) = .ok r' ∧
        r'.certificate = c.certificate ∧ r'.openBody o.bodyCodec o = .ok b) ∧
      (∀ o', o' ≠ o → TurnedAway r o' (.otherOperation o o')) ∧
      ∀ r', Altered r r' → r'.message ≠ r.message ∧
        (r'.checkSignature r'.operation = .ok () ↔ Collides c r r') ∧
        (¬Collides c r r' → ∀ o', ∃ refusal, TurnedAway r' o' refusal) := by
  intro r
  refine ⟨rfl, openBody_sealBody bound b, fun fits => ?_, fun o' other => ?_, fun r' altered => ?_⟩
  · have shorter : (o.bodyCodec.write b).length ≤ (codec.write r).length := length_body_le fits
    refine ⟨r, lawful_codec.decode_write (by decide) fits, rfl, openBody_sealBody bound b ?_⟩
    exact Nat.lt_of_le_of_lt shorter fits
  · exact turnedAway_of_checkSignature (checkSignature_of_ne other.symm)
  · obtain ⟨passes, refused⟩ := checkSignature_altered bound b altered
    refine ⟨altered.message_ne.symm, passes, fun apart o' => ?_⟩
    by_cases own : r'.operation = o'
    · subst own
      exact ⟨_, turnedAway_of_checkSignature (refused apart)⟩
    · exact ⟨_, turnedAway_of_checkSignature (checkSignature_of_ne own)⟩

/-- An approval of the kiosk opens as it was sealed, and is turned away as a rejection. -/
theorem sealed_requests_open_as_sealed_of_kiosk :
    Session.Sample.approval.openBody ApprovalBody.codec .approvePairing = .ok Session.Sample.grant ∧
      TurnedAway Session.Sample.approval .rejectPairing
        (.otherOperation .approvePairing .rejectPairing) := by
  have bound : Session.Sample.kiosk.KeyBound := Credentials.keyBound_enroll _ _ _ _ _
  have fits : Frame.Countable (ApprovalBody.codec.write Session.Sample.grant) := by
    unfold Frame.Countable
    decide +kernel
  obtain ⟨-, opens, -, turnedAway, -⟩ :=
    sealed_requests_open_as_sealed bound .approvePairing Session.Sample.grant
  exact ⟨opens fits, turnedAway .rejectPairing (by decide)⟩

end SignedRequest

end DevicePairing
