import DevicePairing.Bytes
import DevicePairing.Ed25519.Field

set_option autoImplicit false
set_option relaxedAutoImplicit false

/-!
The points of the curve `-x² + y² = 1 + d x² y²` in extended coordinates, their sum, and their
compressed form: the ordinate with the parity of the abscissa in its top bit.
-/

namespace DevicePairing.Ed25519

open DevicePairing (Bytes Key)

def coefficient : Nat := 0x52036CEE2B6FFE738CC740797779E89800700A4D4141D8AB75EB4DCA135978A3

/-- The prime order of the group that the base point generates. -/
def order : Nat := (1 <<< 252) + 27742317777372353535851937790883648493

/-- The point `(x / z, y / z)`, with `t = x * y / z`. -/
structure Point where
  x : Nat
  y : Nat
  z : Nat
  t : Nat
  deriving DecidableEq

namespace Point

open DevicePairing.Ed25519.Field

def zero : Point := ⟨0, 1, 1, 0⟩

def ofAffine (x y : Nat) : Point := ⟨x, y, 1, mul x y⟩

def base : Point :=
  ofAffine 0x216936D3CD6E53FEC0A4E231FDD6DC5C692CC7609525A7B2C9562D608F25D51A
    0x6666666666666666666666666666666666666666666666666666666666666658

/-- The sum of two points. The formula holds for all pairs, equal ones and neutral ones included. -/
def add (p q : Point) : Point :=
  let a := mul (sub p.y p.x) (sub q.y q.x)
  let b := mul (Field.add p.y p.x) (Field.add q.y q.x)
  let c := mul (mul (2 * coefficient) p.t) q.t
  let d := mul (2 * p.z) q.z
  let e := sub b a
  let f := sub d c
  let g := Field.add d c
  let h := Field.add b a
  ⟨mul e f, mul g h, mul f g, mul e h⟩

def neg (p : Point) : Point := ⟨Field.neg p.x, p.y, p.z, Field.neg p.t⟩

/-- The multiple of a point by a number below `2 ^ 256`, by doubling. -/
def smul (n : Nat) (p : Point) : Point :=
  (bits 256 n).foldl (fun r bit => if bit then (r.add r).add p else r.add r) zero

def compress (p : Point) : Key :=
  let i := inv p.z
  let x := mul p.x i
  let y := mul p.y i
  Key.ofNat (y + ((x % 2) <<< 255))

/-- The point with the given compressed form, if there is one. The ordinate counts modulo the
order of the field, and the sign of a zero abscissa is ignored. -/
def decompress? (k : Key) : Option Point :=
  let n := k.toNat
  let y := n % (1 <<< 255) % prime
  let u := sub (sq y) 1
  let v := Field.add (mul coefficient (sq y)) 1
  (sqrtRatio? u v).map fun x => ofAffine (if (n >>> 255) % 2 = 1 then Field.neg x else x) y

end Point

end DevicePairing.Ed25519
