set_option autoImplicit false
set_option relaxedAutoImplicit false

namespace DevicePairing

abbrev Bytes := List UInt8

namespace Bytes

/-- The low `width` octets of `n`, the most significant first. -/
def bigEndian : (width : Nat) → (n : Nat) → Bytes
  | 0, _ => []
  | width + 1, n => bigEndian width (n / 256) ++ [UInt8.ofNat n]

/-- The low `width` octets of `n`, the least significant first. -/
def littleEndian : (width : Nat) → (n : Nat) → Bytes
  | 0, _ => []
  | width + 1, n => UInt8.ofNat n :: littleEndian width (n / 256)

def toNatBE (b : Bytes) : Nat := b.foldl (fun n x => 256 * n + x.toNat) 0

def toNatLE (b : Bytes) : Nat := b.foldr (fun x n => x.toNat + 256 * n) 0

@[simp] theorem length_bigEndian (width n : Nat) : (bigEndian width n).length = width := by
  induction width generalizing n with
  | zero => rfl
  | succ width ih => simp [bigEndian, ih]

@[simp] theorem length_littleEndian (width n : Nat) :
    (littleEndian width n).length = width := by
  induction width generalizing n with
  | zero => rfl
  | succ width ih => simp [littleEndian, ih]

def split? : (n : Nat) → Bytes → Option (Bytes × Bytes)
  | 0, b => some ([], b)
  | _ + 1, [] => none
  | n + 1, x :: b => (split? n b).map fun (front, rest) => (x :: front, rest)

def hexDigit (n : Nat) : Char :=
  if n < 10 then Char.ofNat (48 + n) else Char.ofNat (87 + n)

/-- The lower-case hexadecimal text, two digits an octet. -/
def toHex (b : Bytes) : String :=
  String.ofList (b.flatMap fun x => [hexDigit (x.toNat / 16), hexDigit (x.toNat % 16)])

def hexValue? (c : Char) : Option Nat :=
  if '0' ≤ c ∧ c ≤ '9' then some (c.toNat - 48)
  else if 'a' ≤ c ∧ c ≤ 'f' then some (c.toNat - 87)
  else if 'A' ≤ c ∧ c ≤ 'F' then some (c.toNat - 55)
  else none

end Bytes

/-- A key of thirty-two octets: a public key, or the seed of a secret one. -/
structure Key where
  octets : Bytes
  length_octets : octets.length = 32
  deriving DecidableEq

namespace Key

/-- The key with the given octets, when there are thirty-two. -/
def ofBytes? (b : Bytes) : Option Key :=
  if h : b.length = 32 then some ⟨b, h⟩ else none

/-- The key that spells the low 256 bits of `n`, the least significant octet first. -/
def ofNat (n : Nat) : Key := ⟨Bytes.littleEndian 32 n, Bytes.length_littleEndian 32 n⟩

/-- The number that a key spells, the least significant octet first. -/
def toNat (k : Key) : Nat := k.octets.toNatLE

end Key

end DevicePairing
