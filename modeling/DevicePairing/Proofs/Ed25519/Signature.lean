import DevicePairing.Ed25519.Signature
import DevicePairing.Proofs.Ed25519.Group

set_option autoImplicit false
set_option relaxedAutoImplicit false

namespace DevicePairing.Ed25519

/-- The element of the group that the equation of the scheme gives for a signature. -/
def residual (q : Element) (s c : Nat) : Element := s • generator - c • q

private theorem challenge_lt (point publicKey : Key) (message : Bytes) :
    challenge point publicKey message < order := Nat.mod_lt _ (by decide)

theorem verify_iff {k : Key} {q : Element} (names : Names k q) (message : Bytes) (s : Signature) :
    verify k message s = true ↔ s.scalar.toNat < order ∧
      encode (residual q s.scalar.toNat (challenge s.point k message)) = s.point := by
  obtain ⟨p, found, denotes⟩ := names
  unfold verify
  simp only [found, Option.any_some, Bool.and_eq_true, decide_eq_true_eq, beq_iff_eq]
  refine and_congr_right fun canonical => ?_
  have wide : order < 2 ^ 256 := by decide
  have first := denotes_base.smul (n := s.scalar.toNat) (by omega)
  have second := denotes.neg.smul (n := challenge s.point k message)
    (Nat.lt_trans (challenge_lt _ _ _) wide)
  rw [(first.add second).compress, residual, smul_neg, sub_eq_add_neg]

namespace SecretKey

/-- The element of the group that a public key names. -/
def element (k : SecretKey) : Element := k.scalar • generator

private theorem scalar_eq (k : SecretKey) : ∃ t, 0 < t ∧ t < order ∧ k.scalar = 8 * t := by
  have order_eq : order = 2 ^ 252 + 27742317777372353535851937790883648493 := by decide
  refine ⟨2 ^ 251 + Bytes.toNatLE ((Digest.sha512 k.seed.octets).take 32) % 2 ^ 254 / 8, ?_, ?_, ?_⟩
  · omega
  · omega
  · simp only [scalar, Nat.one_shiftLeft]
    omega

private theorem scalar_lt (k : SecretKey) : k.scalar < 2 ^ 256 := by
  obtain ⟨t, -, below, scalar⟩ := k.scalar_eq
  have order_lt : order < 2 ^ 253 := by decide
  omega

private theorem publicKey_eq (k : SecretKey) : k.publicKey = encode k.element :=
  (denotes_base.smul k.scalar_lt).compress

theorem names_publicKey (k : SecretKey) : Names k.publicKey k.element :=
  k.publicKey_eq ▸ names_encode k.element

/-- No public key of a secret one is of small order. -/
theorem element_not_isWeak (k : SecretKey) : ¬k.element.IsWeak := by
  intro weak
  obtain ⟨t, positive, below, scalar⟩ := k.scalar_eq
  have zero : (64 * t) • generator = 0 := by
    rw [← weak, element, scalar, smul_smul, ← Nat.mul_assoc]
  have divides : order ∣ 64 * t := addOrderOf_generator ▸ addOrderOf_dvd_of_nsmul_eq_zero zero
  have coprime : order.Coprime 64 := by decide
  exact absurd (Nat.le_of_dvd positive (coprime.dvd_of_dvd_mul_left divides)) (by omega)

end SecretKey

private theorem nsmul_generator_mod (n : Nat) : (n % order) • generator = n • generator := by
  rw [← addOrderOf_generator, mod_addOrderOf_nsmul]

theorem Signature.ofBytes?_append (point scalar : Key) :
    Signature.ofBytes? (point.octets ++ scalar.octets) = some ⟨point, scalar⟩ := by
  have whole : ∀ k : Key, Key.ofBytes? k.octets = some k := fun k => dif_pos k.length_octets
  have front : (point.octets ++ scalar.octets).take 32 = point.octets :=
    List.take_left' point.length_octets
  have back : (point.octets ++ scalar.octets).drop 32 = scalar.octets :=
    List.drop_left' point.length_octets
  simp only [Signature.ofBytes?, front, back, whole]
  rfl

namespace SecretKey

/-- The number of the point with which a message is signed. -/
def nonce (k : SecretKey) (message : Bytes) : Nat :=
  scalarOfDigest (Digest.sha512 (k.nonceSeed ++ message))

def point (k : SecretKey) (message : Bytes) : Key := (Point.base.smul (k.nonce message)).compress

def answer (k : SecretKey) (message : Bytes) : Nat :=
  (k.nonce message + challenge (k.point message) k.publicKey message * k.scalar) % order

theorem ofBytes?_sign (k : SecretKey) (message : Bytes) :
    Signature.ofBytes? (sign k message) = some ⟨k.point message, Key.ofNat (k.answer message)⟩ :=
  Signature.ofBytes?_append (k.point message) (Key.ofNat (k.answer message))

private theorem point_eq (k : SecretKey) (message : Bytes) :
    k.point message = encode (k.nonce message • generator) :=
  (denotes_base.smul (Nat.lt_trans (Nat.mod_lt _ (by decide)) (by decide))).compress

private theorem answer_nsmul (k : SecretKey) (message : Bytes) :
    k.answer message • generator = k.nonce message • generator +
      challenge (k.point message) k.publicKey message • k.element := by
  rw [answer, nsmul_generator_mod, add_nsmul, mul_nsmul', element]

theorem verify_sign (k : SecretKey) (message : Bytes) :
    verify k.publicKey message ⟨k.point message, Key.ofNat (k.answer message)⟩ = true := by
  have below : k.answer message < order := Nat.mod_lt _ (by decide)
  have scalar : (Key.ofNat (k.answer message)).toNat = k.answer message :=
    Key.toNat_ofNat (Nat.lt_trans below (by decide))
  rw [verify_iff k.names_publicKey, scalar]
  refine ⟨below, ?_⟩
  rw [residual, answer_nsmul, add_sub_cancel_right, ← point_eq]

end SecretKey

/-- The challenges of two messages have the same multiple of an element. -/
def SameChallenge (q : Element) (point k : Key) (message message' : Bytes) : Prop :=
  challenge point k message • q = challenge point k message' • q

section

variable {k : Key} {q : Element} {message message' : Bytes} {s : Signature}

/-- A signature for one message is good for another one exactly when their challenges act on the
element of the key in the same way. -/
theorem verify_iff_of_verify (names : Names k q) (good : verify k message s = true)
    (message' : Bytes) :
    verify k message' s = true ↔ SameChallenge q s.point k message message' := by
  obtain ⟨canonical, point⟩ := (verify_iff names message s).mp good
  have same := encode_injective.eq_iff
    (a := residual q s.scalar.toNat (challenge s.point k message'))
    (b := residual q s.scalar.toNat (challenge s.point k message))
  rw [point] at same
  rw [verify_iff names, and_iff_right canonical, same, residual, residual, sub_right_inj, eq_comm]
  rfl

theorem sameChallenge_iff_of_not_isWeak (strong : ¬q.IsWeak) (point : Key) :
    SameChallenge q point k message message' ↔
      challenge point k message = challenge point k message' :=
  ⟨Element.nsmul_injective strong (challenge_lt _ _ _) (challenge_lt _ _ _), congrArg (· • q)⟩

/-- Under a key of small order it is enough that the challenges agree modulo eight. -/
theorem sameChallenge_of_isWeak (weak : q.IsWeak) {point : Key}
    (same : challenge point k message % 8 = challenge point k message' % 8) :
    SameChallenge q point k message message' := by
  have eighth : ∀ n : Nat, (n % 8) • q = n • q := fun n =>
    (nsmul_eq_mod_nsmul n weak).symm
  rw [SameChallenge, ← eighth, same, eighth]

end

end DevicePairing.Ed25519
