import DevicePairing.Proofs.Connection.Sizes
import DevicePairing.Proofs.Session.Attestation
import DevicePairing.Proofs.Signing
import DevicePairing.Proofs.WireForm

set_option autoImplicit false
set_option relaxedAutoImplicit false

/-!
Credentials and their storage. However a device comes by credentials, the authority signed its
certificate and the certificate is for its own key; and what was stored of them is restored.
-/

namespace DevicePairing

open DevicePairing.Cbor
open DevicePairing.Ed25519 (SecretKey)
open DevicePairing.Results

namespace Credentials

/-- The authority signed the certificate, which is for the key of the device. -/
structure KeyBound (c : Credentials) : Prop where
  signed : c.certificate.SignedBy c.authorityKey
  own : c.certificate.deviceKey = c.secret.publicKey

/-- The ways to credentials: a certificate that was issued for a key, octets that were stored, and
the direct enrolment of a device. -/
inductive Obtained : Credentials → Prop where
  | issued {secret : SecretKey} {issued : IssuedCredentials} {c : Credentials}
      (taken : ofIssued secret issued = .ok c) : Obtained c
  | stored {b : Bytes} {c : Credentials} (restored : ofBytes b = .ok c) : Obtained c
  | enrolled (a : NodeAuthority) (issuedAt : UInt64) (entropy : Entropy)
      (deviceName restrictions : String) :
      Obtained (enrollNew a issuedAt entropy deviceName restrictions).1

private theorem ofIssued_eq_ok_iff (c c' : Credentials) :
    ofIssued c.secret ⟨c.certificate, c.authorityKey⟩ = .ok c' ↔ c.KeyBound ∧ c' = c := by
  rw [ofIssued_eq_ok]
  exact ⟨fun ⟨signed, own, same⟩ => ⟨⟨signed, own⟩, same⟩,
    fun ⟨⟨signed, own⟩, same⟩ => ⟨signed, own, same⟩⟩

private theorem ofBytes_eq_ok (b : Bytes) (c : Credentials) :
    ofBytes b = .ok c ↔ blobCodec.decode b = .ok c ∧ c.KeyBound := by
  unfold ofBytes
  simp only [bind_eq_ok, mapError_eq_ok, ofIssued_eq_ok_iff]
  constructor
  · rintro ⟨stored, decoded, bound, rfl⟩
    exact ⟨decoded, bound⟩
  · rintro ⟨decoded, bound⟩
    exact ⟨c, decoded, bound, rfl⟩

theorem keyBound_enroll (a : NodeAuthority) (issuedAt : UInt64) (secret : SecretKey)
    (deviceName restrictions : String) :
    (enroll a issuedAt secret deviceName restrictions).KeyBound :=
  ⟨a.signedBy_issue issuedAt secret.publicKey deviceName restrictions, rfl⟩

private theorem Obtained.keyBound {c : Credentials} (h : Obtained c) : c.KeyBound := by
  cases h with
  | issued taken =>
    obtain ⟨signed, own, rfl⟩ := (ofIssued_eq_ok _ _ _).mp taken
    exact ⟨signed, own⟩
  | stored restored => exact ((ofBytes_eq_ok _ _).mp restored).2
  | enrolled a issuedAt entropy deviceName restrictions =>
    exact keyBound_enroll a issuedAt ⟨entropy.drawKey.1⟩ deviceName restrictions

private theorem ofBytes_toBytes {c : Credentials} (bound : c.KeyBound)
    (fits : Frame.Countable c.toBytes) : ofBytes c.toBytes = .ok c :=
  (ofBytes_eq_ok _ _).mpr ⟨lawful_blobCodec.decode_write (by decide) fits, bound⟩

end Credentials

section

open DevicePairing.Cbor.Measure (plain)

variable (κ : Measure)

def Certificate.content (c : Certificate) : Nat :=
  κ.numbers c.node + κ.text c.deviceName + κ.text c.restrictions + κ.numbers c.signature

private theorem Certificate.pays_content :
    Pays κ Certificate.codec.read (Certificate.content κ) := by
  refine Codec.pays_convert (Pays.mono (Codec.pays_record (Certificate.weights κ) ?_) ?_)
  · exact ⟨Codec.pays_octets, nofun, Codec.pays_text, nofun, Codec.pays_text, nofun,
      Codec.pays_key, nofun, Codec.pays_uint64, nofun, Codec.pays_octets, nofun, trivial⟩
  · rintro ⟨node, deviceName, restrictions, key, issuedAt, signature, ⟨⟩⟩
    simp only [Certificate.content, Certificate.weights, Weights.tuple]
    omega

namespace Credentials

def weights : Weights [Key, Certificate, Key] :=
  (fun k => κ.numbers k.octets, Certificate.content κ, fun k => κ.numbers k.octets, ())

private theorem pays_blobCodec : Pays κ blobCodec.read fun c => c.certificate.content κ := by
  refine Codec.pays_convert (Pays.mono (Codec.pays_record (weights κ) ?_) ?_)
  · exact ⟨Codec.pays_key, nofun, Certificate.pays_content κ, nofun, Codec.pays_key, nofun, trivial⟩
  · rintro ⟨seed, certificate, authorityKey, ⟨⟩⟩
    simp only [weights, Weights.tuple]
    omega

private theorem length_toBytes_le (c : Credentials) :
    c.toBytes.length ≤ 374 + c.certificate.content plain := by
  have whole : plain.total (blobCodec.write c) =
      plain.total (head 5 3) + plain.names ["device_key", "certificate", "authority_key"] +
        (plain.total (Codec.key.write c.secret.seed) +
          (plain.total (Certificate.codec.write c.certificate) +
            (plain.total (Codec.key.write c.authorityKey) + 0))) :=
    Codec.total_record ..
  have seed := Measure.total_key_le Measure.plain_atMost c.secret.seed
  have certificate := Connection.total_certificate_le Measure.plain_atMost c.certificate
  have authorityKey := Measure.total_key_le Measure.plain_atMost c.authorityKey
  have named : plain.total (head 5 3) +
      plain.names ["device_key", "certificate", "authority_key"] = 38 := by decide
  rw [Measure.total_plain] at whole
  rw [toBytes, Certificate.content]
  omega

private theorem length_toBytes_le_of_decode {b : Bytes} {c : Credentials}
    (decoded : blobCodec.decode b = .ok c) : c.toBytes.length ≤ 374 + b.length := by
  have paid := (pays_blobCodec plain).decode decoded
  rw [Measure.total_plain] at paid
  have written := c.length_toBytes_le
  omega

/-- What becomes of octets that are taken for stored credentials. -/
inductive Restored (b : Bytes) : Except PairingError Credentials → Prop where
  | unreadable {e : DecodeError} (undecoded : blobCodec.decode b = .error e) :
      Restored b (.error (.codec e.message))
  | unbound {c : Credentials} (decoded : blobCodec.decode b = .ok c) (loose : ¬c.KeyBound)
      (detail : String) : Restored b (.error (.unauthorized detail))
  | bound {c : Credentials} (decoded : blobCodec.decode b = .ok c) (bound : c.KeyBound) :
      Restored b (.ok c)

private theorem restored_ofBytes (b : Bytes) : Restored b (ofBytes b) := by
  cases result : ofBytes b with
  | ok c =>
    obtain ⟨decoded, bound⟩ := (ofBytes_eq_ok b c).mp result
    exact .bound decoded bound
  | error cause =>
    unfold ofBytes at result
    rcases bind_eq_error.mp result with failed | ⟨c, decoded, refused⟩
    · obtain ⟨e, undecoded, rfl⟩ := mapError_eq_error.mp failed
      exact .unreadable undecoded
    · obtain ⟨refusal, refused, rfl⟩ := mapError_eq_error.mp refused
      refine .unbound (mapError_eq_ok.mp decoded) (fun bound => ?_) refusal.detail
      rw [(ofIssued_eq_ok_iff c c).mpr ⟨bound, rfl⟩] at refused
      cases refused

private theorem unauthorized_of_not_keyBound {c : Credentials} (loose : ¬c.KeyBound) :
    ∃ detail, (ofIssued c.secret ⟨c.certificate, c.authorityKey⟩).mapError Refusal.toPairingError =
      .error (.unauthorized detail) := by
  cases result : ofIssued c.secret ⟨c.certificate, c.authorityKey⟩ with
  | ok c' => exact absurd ((ofIssued_eq_ok_iff c c').mp result).1 loose
  | error refusal => exact ⟨refusal.detail, rfl⟩

/-- The credentials that can be obtained are those that are bound to the key of the device, and
storing keeps them where their octets can be counted. What was restored is restored again from what
is written of it. What is not bound to its key is refused, and so is what spells no credentials. -/
theorem credentials_are_bound_and_kept :
    (∀ c, Obtained c ↔ c.KeyBound) ∧
    (∀ c, Obtained c → Frame.Countable c.toBytes → ofBytes c.toBytes = .ok c) ∧
    (∀ b c, b.length < 1 <<< 63 → ofBytes b = .ok c → ofBytes c.toBytes = .ok c) ∧
    (∀ c : Credentials, ¬c.KeyBound → ∃ detail,
      (ofIssued c.secret ⟨c.certificate, c.authorityKey⟩).mapError Refusal.toPairingError =
        .error (.unauthorized detail)) ∧
    ∀ b, Restored b (ofBytes b) := by
  refine ⟨fun c => ⟨Obtained.keyBound, fun bound => ?_⟩, fun c obtained fits => ?_,
    fun b c short restored => ?_, fun c loose => unauthorized_of_not_keyBound loose,
    restored_ofBytes⟩
  · exact .issued ((ofIssued_eq_ok_iff c c).mpr ⟨bound, rfl⟩)
  · exact ofBytes_toBytes obtained.keyBound fits
  · obtain ⟨decoded, bound⟩ := (ofBytes_eq_ok b c).mp restored
    have written := length_toBytes_le_of_decode decoded
    have fits : Frame.Countable c.toBytes := by
      unfold Frame.Countable
      omega
    exact ofBytes_toBytes bound fits

/-- A device is enrolled, and its credentials are restored from their octets. Without the signature
of the authority they are refused. -/
theorem credentials_are_bound_and_kept_of_hub :
    let c := (enrollNew Session.Sample.authority 0 Session.Sample.beginning.entropy "hub" "").1
    c.KeyBound ∧ ofBytes c.toBytes = .ok c ∧ ∃ detail,
      (ofIssued c.secret ⟨{ c.certificate with signature := [] }, c.authorityKey⟩).mapError
        Refusal.toPairingError = .error (.unauthorized detail) := by
  intro c
  have obtained : Obtained c := .enrolled _ _ _ _ _
  obtain ⟨bound, kept, -, refused, -⟩ := credentials_are_bound_and_kept
  have fits : Frame.Countable c.toBytes := by
    have written := c.length_toBytes_le
    have node := Measure.numbers_le Measure.plain_atMost c.certificate.node
    have signature := Measure.numbers_le Measure.plain_atMost c.certificate.signature
    have signed : c.certificate.signature.length = 64 := Ed25519.length_sign _ _
    have name : plain.text c.certificate.deviceName = 3 := by decide
    have restrictions : plain.text c.certificate.restrictions = 0 := by decide
    have short : c.certificate.node.length = 1 := rfl
    unfold Frame.Countable
    rw [Certificate.content] at written
    omega
  refine ⟨(bound c).mp obtained, kept c obtained fits,
    refused ⟨c.secret, { c.certificate with signature := [] }, c.authorityKey⟩ fun unsigned => ?_⟩
  obtain ⟨s, split, -⟩ := unsigned.signed
  cases split

end Credentials

end

end DevicePairing
