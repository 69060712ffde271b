import DevicePairing.Digest.Sha2
import DevicePairing.Ed25519.Point

set_option autoImplicit false
set_option relaxedAutoImplicit false

/-!
Signatures of messages under keys. A signature is the compressed form of a point followed by a
scalar; it is good when the scalar is in canonical form and the equation of the scheme, without
the cofactor, gives back exactly the compressed point.
-/

namespace DevicePairing.Ed25519

open DevicePairing (Bytes Key)
open DevicePairing.Digest (sha512)

def scalarOfDigest (d : Bytes) : Nat := Bytes.toNatLE d % order

/-- A secret key, given by its seed. -/
structure SecretKey where
  seed : Key
  deriving DecidableEq

namespace SecretKey

/-- The secret scalar: the first half of the digest of the seed with the low three bits and the
top bit cleared and the bit below the top one set. -/
def scalar (k : SecretKey) : Nat :=
  let n := Bytes.toNatLE ((sha512 k.seed.octets).take 32)
  (1 <<< 254) + n % (1 <<< 254) / 8 * 8

def nonceSeed (k : SecretKey) : Bytes := (sha512 k.seed.octets).drop 32

def publicKey (k : SecretKey) : Key := (Point.base.smul k.scalar).compress

end SecretKey

/-- The scalar that ties a signature to its key and message. -/
def challenge (point publicKey : Key) (message : Bytes) : Nat :=
  scalarOfDigest (sha512 (point.octets ++ publicKey.octets ++ message))

def sign (k : SecretKey) (message : Bytes) : Bytes :=
  let r := scalarOfDigest (sha512 (k.nonceSeed ++ message))
  let point := (Point.base.smul r).compress
  let s := (r + challenge point k.publicKey message * k.scalar) % order
  point.octets ++ Bytes.littleEndian 32 s

def isPublicKey (k : Key) : Bool := (Point.decompress? k).isSome

/-- A signature of sixty-four octets, split into its point and its scalar. -/
structure Signature where
  point : Key
  scalar : Key
  deriving DecidableEq

def Signature.ofBytes? (b : Bytes) : Option Signature := do
  let point ← Key.ofBytes? (b.take 32)
  let scalar ← Key.ofBytes? (b.drop 32)
  some ⟨point, scalar⟩

/-- Whether a signature of a message is good under a public key. -/
def verify (publicKey : Key) (message : Bytes) (s : Signature) : Bool :=
  (Point.decompress? publicKey).any fun a =>
    s.scalar.toNat < order &&
      (((Point.base.smul s.scalar.toNat).add
        (a.neg.smul (challenge s.point publicKey message))).compress == s.point)

end DevicePairing.Ed25519
