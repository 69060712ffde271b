import DevicePairing.Proofs.Cbor.Lawful
import DevicePairing.Proofs.Ed25519.Signature
import DevicePairing.Proofs.Session.Rights

set_option autoImplicit false
set_option relaxedAutoImplicit false

/-!
What is signed. The message of a certificate spells each of its fields and that of a request its
operation and body, and neither can be taken for the other. So a signature of one is good for
another only if the digest of two messages is the same.
-/

namespace DevicePairing

open DevicePairing.Ed25519 (SecretKey challenge)

private theorem Bytes.bigEndian_inj {width n n' : Nat} (fits : n < 1 <<< (8 * width))
    (fits' : n' < 1 <<< (8 * width)) (same : bigEndian width n = bigEndian width n') : n = n' := by
  rw [← toNatBE_bigEndian fits, same, toNatBE_bigEndian fits']

private theorem Key.octets_injective : Function.Injective Key.octets := by
  rintro ⟨octets, length⟩ ⟨octets', length'⟩ rfl
  rfl

private theorem Text.Utf8.ofString_inj {s s' : String} (same : ofString s = ofString s') :
    s = s' := by
  have decoded := congrArg toString same
  rw [toString_ofString, toString_ofString] at decoded
  exact Except.ok.inj decoded

namespace Certificate

/-- The lengths of the fields can be told in thirty-two bits. -/
structure Countable (c : Certificate) : Prop where
  node : c.node.length < 2 ^ 32
  deviceName : (Text.Utf8.ofString c.deviceName).length < 2 ^ 32
  restrictions : (Text.Utf8.ofString c.restrictions).length < 2 ^ 32

/-- Two certificates say the same, whoever signed them. -/
structure Agrees (c c' : Certificate) : Prop where
  node : c.node = c'.node
  deviceName : c.deviceName = c'.deviceName
  restrictions : c.restrictions = c'.restrictions
  deviceKey : c.deviceKey = c'.deviceKey
  issuedAt : c.issuedAt = c'.issuedAt

private theorem withLength_append_inj {b b' rest rest' : Bytes} (fits : b.length < 2 ^ 32)
    (fits' : b'.length < 2 ^ 32) (same : withLength b ++ rest = withLength b' ++ rest') :
    b = b' ∧ rest = rest' := by
  simp only [withLength, List.append_assoc] at same
  obtain ⟨heads, tails⟩ := List.append_inj same (by rw [Bytes.length_bigEndian,
    Bytes.length_bigEndian])
  exact List.append_inj tails (Bytes.bigEndian_inj fits fits' heads)

private theorem agrees_of_signingMessage_eq {c c' : Certificate} (fits : c.Countable)
    (fits' : c'.Countable) (same : c.signingMessage = c'.signingMessage) : c.Agrees c' := by
  simp only [signingMessage, List.append_assoc] at same
  have fields := List.append_cancel_left same
  obtain ⟨node, fields⟩ := withLength_append_inj fits.node fits'.node fields
  obtain ⟨name, fields⟩ := withLength_append_inj fits.deviceName fits'.deviceName fields
  obtain ⟨restrictions, fields⟩ :=
    withLength_append_inj fits.restrictions fits'.restrictions fields
  obtain ⟨key, time⟩ := List.append_inj fields (by rw [c.deviceKey.length_octets,
    c'.deviceKey.length_octets])
  have seconds := Bytes.bigEndian_inj c.issuedAt.toNat_lt c'.issuedAt.toNat_lt time
  exact ⟨node, Text.Utf8.ofString_inj name, Text.Utf8.ofString_inj restrictions,
    Key.octets_injective key, UInt64.toNat_inj.mp seconds⟩

private theorem Agrees.signingMessage_eq {c c' : Certificate} (same : c.Agrees c') :
    c.signingMessage = c'.signingMessage := by
  obtain ⟨node, name, restrictions, key, time⟩ := same
  rw [signingMessage, signingMessage, node, name, restrictions, key, time]

end Certificate

namespace SignedRequest

theorem signingMessage_inj {operation operation' : Operation} {body body' : Bytes}
    (same : signingMessage operation body = signingMessage operation' body') :
    operation = operation' ∧ body = body' := by
  have rest := List.append_cancel_left same
  exact ⟨Operation.code_injective (List.cons.inj rest).1, (List.cons.inj rest).2⟩

private theorem signingMessage_ne_certificate (c : Certificate) (operation : Operation)
    (body : Bytes) : c.signingMessage ≠ signingMessage operation body := by
  intro same
  have front := congrArg (List.take domain.length) same
  have longer : domain.length ≤ Certificate.domain.length := by decide
  simp only [Certificate.signingMessage, signingMessage, List.append_assoc,
    List.take_append_of_le_length longer, List.take_left] at front
  exact absurd front (by decide)

end SignedRequest

/-- The digest for a signature is the same for two messages. -/
structure Collision (point key : Key) (message message' : Bytes) : Prop where
  different : message ≠ message'
  same : challenge point key message = challenge point key message'

/-- Signatures are good under the public key that belongs to the secret one. -/
theorem verifies_sign (k : SecretKey) (message : Bytes) :
    Verifies k.publicKey message (Ed25519.sign k message) :=
  ⟨_, k.ofBytes?_sign message, k.verify_sign message⟩

theorem NodeAuthority.signedBy_issue (a : NodeAuthority) (issuedAt : UInt64) (deviceKey : Key)
    (deviceName restrictions : String) :
    (a.issue issuedAt deviceKey deviceName restrictions).SignedBy a.publicKey :=
  verifies_sign a.secret (a.issue issuedAt deviceKey deviceName restrictions).signingMessage

/-- A signature that a key gives for one of two messages is good for the other one exactly where the
digests collide. -/
structure Separated (k : SecretKey) (message message' : Bytes) : Prop where
  forward : Verifies k.publicKey message' (Ed25519.sign k message) ↔
    Collision (k.point message) k.publicKey message message'
  backward : Verifies k.publicKey message (Ed25519.sign k message') ↔
    Collision (k.point message') k.publicKey message' message

theorem verifies_sign_iff {k : SecretKey} {message message' : Bytes}
    (different : message ≠ message') :
    Verifies k.publicKey message' (Ed25519.sign k message) ↔
      Collision (k.point message) k.publicKey message message' := by
  have replayed :=
    Ed25519.verify_iff_of_verify k.names_publicKey (k.verify_sign message) message'
  rw [Ed25519.sameChallenge_iff_of_not_isWeak k.element_not_isWeak] at replayed
  have split := k.ofBytes?_sign message
  constructor
  · rintro ⟨s, found, good⟩
    obtain rfl := Option.some.inj (split.symm.trans found)
    exact ⟨different, replayed.mp good⟩
  · intro collision
    exact ⟨_, split, replayed.mpr collision.same⟩

private theorem separated_of_ne (k : SecretKey) {message message' : Bytes}
    (different : message ≠ message') : Separated k message message' :=
  ⟨verifies_sign_iff different, verifies_sign_iff different.symm⟩

/-- Certificates are signed by what they say, requests by their operation and body, and nothing
signed as one is the other. So what a key signs for one purpose is good for no other one, but where
the digests of two different messages collide. -/
theorem signed_messages_are_unambiguous :
    (∀ c c' : Certificate, c.Countable → c'.Countable →
      (c.signingMessage = c'.signingMessage ↔ c.Agrees c') ∧
      (¬c.Agrees c' → ∀ k, Separated k c.signingMessage c'.signingMessage)) ∧
    (∀ (o o' : Operation) (body body' : Bytes),
      (SignedRequest.signingMessage o body = SignedRequest.signingMessage o' body' ↔
        o = o' ∧ body = body') ∧
      (¬(o = o' ∧ body = body') → ∀ k,
        Separated k (SignedRequest.signingMessage o body)
          (SignedRequest.signingMessage o' body'))) ∧
    ∀ (c : Certificate) (o : Operation) (body : Bytes),
      c.signingMessage ≠ SignedRequest.signingMessage o body ∧
      ∀ k, Separated k c.signingMessage (SignedRequest.signingMessage o body) := by
  refine ⟨fun c c' fits fits' => ?_, fun o o' body body' => ?_, fun c o body => ?_⟩
  · have spelled : c.signingMessage = c'.signingMessage ↔ c.Agrees c' :=
      ⟨Certificate.agrees_of_signingMessage_eq fits fits', Certificate.Agrees.signingMessage_eq⟩
    exact ⟨spelled, fun different k => separated_of_ne k (mt spelled.mp different)⟩
  · have spelled : SignedRequest.signingMessage o body = SignedRequest.signingMessage o' body' ↔
        o = o' ∧ body = body' := by
      refine ⟨SignedRequest.signingMessage_inj, ?_⟩
      rintro ⟨rfl, rfl⟩
      rfl
    exact ⟨spelled, fun different k => separated_of_ne k (mt spelled.mp different)⟩
  · have apart := SignedRequest.signingMessage_ne_certificate c o body
    exact ⟨apart, fun k => separated_of_ne k apart⟩

/-- No octet of a name can be moved into the restrictions. -/
theorem signed_messages_are_unambiguous_of_shifted :
    (⟨[7], "lampa", "ll", Key.ofNat 1, 0, []⟩ : Certificate).signingMessage ≠
      (⟨[7], "lamp", "all", Key.ofNat 1, 0, []⟩ : Certificate).signingMessage := by
  intro same
  have agrees := (signed_messages_are_unambiguous.1 _ _
    ⟨by decide, by decide +kernel, by decide +kernel⟩
    ⟨by decide, by decide +kernel, by decide +kernel⟩).1.mp same
  exact absurd agrees.deviceName (by decide)

end DevicePairing
