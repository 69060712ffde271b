import DevicePairing.Proofs.Ed25519.Residue
import Mathlib.GroupTheory.OrderOfElement

set_option autoImplicit false
set_option relaxedAutoImplicit false

/-!
What the points in extended coordinates stand for: their sums and multiples are those of the group
of the curve, a compressed form names one element of it, and eight times the order of the base point
is the number of all elements.
-/

namespace DevicePairing

namespace Bytes

private theorem toNatLE_littleEndian (width n : Nat) :
    toNatLE (littleEndian width n) = n % 256 ^ width := by
  induction width generalizing n with
  | zero => simp [littleEndian, toNatLE, Nat.mod_one]
  | succ width ih =>
    have octet : (UInt8.ofNat n).toNat = n % 256 := UInt8.toNat_ofNat'
    have step : toNatLE (littleEndian (width + 1) n) =
        (UInt8.ofNat n).toNat + 256 * toNatLE (littleEndian width (n / 256)) := rfl
    rw [step, octet, ih, Nat.pow_succ', Nat.mod_mul]

end Bytes

theorem Key.toNat_ofNat {n : Nat} (fits : n < 2 ^ 256) : (Key.ofNat n).toNat = n := by
  have width : 256 ^ 32 = 2 ^ 256 := by decide
  rw [Key.toNat, Key.ofNat, Bytes.toNatLE_littleEndian, width, Nat.mod_eq_of_lt fits]

namespace Ed25519

abbrev Element := CurvePoint (coefficient : Residue)

namespace Point

/-- A point in extended coordinates stands for an element of the group. -/
structure Denotes (p : Point) (q : Element) : Prop where
  nonzero : (p.z : Residue) ≠ 0
  x_eq : (p.x : Residue) = q.x * p.z
  y_eq : (p.y : Residue) = q.y * p.z
  t_eq : (p.t : Residue) = q.x * q.y * p.z

namespace Denotes

variable {p p' : Point} {q q' : Element}

theorem zero : Point.zero.Denotes 0 := by
  constructor <;> simp [Point.zero]

theorem neg (left : p.Denotes q) : p.neg.Denotes (-q) := by
  refine ⟨left.nonzero, ?_, left.y_eq, ?_⟩
  · simp only [Point.neg, Field.cast_neg, CurvePoint.x_neg, left.x_eq]
    ring
  · simp only [Point.neg, Field.cast_neg, CurvePoint.x_neg, CurvePoint.y_neg, left.t_eq]
    ring

theorem add (left : p.Denotes q) (right : p'.Denotes q') : (p.add p').Denotes (q + q') := by
  have plus := CurvePoint.one_add_ne_zero q q'
  have minus := CurvePoint.one_sub_ne_zero q q'
  have two := Field.two_ne_zero
  obtain ⟨nonzero, x_eq, y_eq, t_eq⟩ := left
  obtain ⟨nonzero', x_eq', y_eq', t_eq'⟩ := right
  have e : ((Field.sub
      (Field.mul (Field.add p.y p.x) (Field.add p'.y p'.x))
      (Field.mul (Field.sub p.y p.x) (Field.sub p'.y p'.x)) : Nat) : Residue) =
        2 * p.z * p'.z * (q.x * q'.y + q'.x * q.y) := by
    simp only [Field.cast_sub, Field.cast_mul, Field.cast_add, x_eq, x_eq', y_eq, y_eq']
    ring
  have f : ((Field.sub (Field.mul (2 * p.z) p'.z)
      (Field.mul (Field.mul (2 * coefficient) p.t) p'.t) : Nat) : Residue) =
        2 * p.z * p'.z * (1 - q.product q') := by
    simp only [Field.cast_sub, Field.cast_mul, Nat.cast_mul, Nat.cast_ofNat, t_eq, t_eq',
      CurvePoint.product]
    ring
  have g : ((Field.add (Field.mul (2 * p.z) p'.z)
      (Field.mul (Field.mul (2 * coefficient) p.t) p'.t) : Nat) : Residue) =
        2 * p.z * p'.z * (1 + q.product q') := by
    simp only [Field.cast_add, Field.cast_mul, Nat.cast_mul, Nat.cast_ofNat, t_eq, t_eq',
      CurvePoint.product]
    ring
  have h : ((Field.add
      (Field.mul (Field.add p.y p.x) (Field.add p'.y p'.x))
      (Field.mul (Field.sub p.y p.x) (Field.sub p'.y p'.x)) : Nat) : Residue) =
        2 * p.z * p'.z * (q.y * q'.y + q.x * q'.x) := by
    simp only [Field.cast_sub, Field.cast_mul, Field.cast_add, x_eq, x_eq', y_eq, y_eq']
    ring
  constructor <;> simp only [Point.add, Field.cast_mul, e, f, g, h, CurvePoint.x_add,
    CurvePoint.y_add]
  case nonzero =>
    have scaled : (2 : Residue) * p.z * p'.z ≠ 0 := mul_ne_zero (mul_ne_zero two nonzero) nonzero'
    exact mul_ne_zero (mul_ne_zero scaled minus) (mul_ne_zero scaled plus)
  all_goals
    field_simp

theorem smul (left : p.Denotes q) {n : Nat} (fits : n < 2 ^ 256) : (p.smul n).Denotes (n • q) := by
  have folded := Field.foldl_bits (fun (r : Point) (k : Nat) => r.Denotes (k • q))
    (fun r => r.add r) (fun r => (r.add r).add p)
    (fun r k holds => by
      rw [two_mul, add_nsmul]
      exact holds.add holds)
    (fun r k holds => by
      rw [add_nsmul, two_mul, add_nsmul, one_nsmul]
      exact (holds.add holds).add left)
    256 n (r := Point.zero) (k := 0) (by rw [zero_nsmul]; exact zero)
  rwa [Nat.zero_mul, Nat.zero_add, Nat.mod_eq_of_lt fits] at folded

private theorem unique (left : p.Denotes q) (right : p.Denotes q') : q = q' := by
  ext
  · exact mul_right_cancel₀ left.nonzero (left.x_eq.symm.trans right.x_eq)
  · exact mul_right_cancel₀ left.nonzero (left.y_eq.symm.trans right.y_eq)

private theorem ofAffine {x y : Nat} (x_eq : (x : Residue) = q.x) (y_eq : (y : Residue) = q.y) :
    (Point.ofAffine x y).Denotes q := by
  constructor <;> simp [Point.ofAffine, x_eq, y_eq]

end Denotes

end Point

def encode (q : Element) : Key := Key.ofNat (q.y.val + (q.x.val % 2) <<< 255)

theorem Point.Denotes.compress {p : Point} {q : Element} (left : p.Denotes q) :
    p.compress = encode q := by
  have inverse : (p.z : Residue) * (p.z : Residue)⁻¹ = 1 := mul_inv_cancel₀ left.nonzero
  have affine : ∀ {n : Nat} {a : Residue}, (n : Residue) = a * p.z →
      Field.mul n (Field.inv p.z) = a.val := by
    intro n a scaled
    rw [← ZMod.val_natCast_of_lt (Field.mul_lt n (Field.inv p.z)), Field.cast_mul, Field.cast_inv,
      scaled, mul_assoc, inverse, mul_one]
  simp only [Point.compress, encode, affine left.x_eq, affine left.y_eq]

private theorem y_lt (q : Element) : q.y.val < 2 ^ 255 := Nat.lt_trans (ZMod.val_lt q.y) (by decide)

private theorem toNat_encode (q : Element) :
    (encode q).toNat = q.x.val % 2 * 2 ^ 255 + q.y.val := by
  have ordinate := y_lt q
  have parity := Nat.mod_lt q.x.val (by decide : 0 < 2)
  rw [encode, Nat.shiftLeft_eq, Nat.add_comm, Key.toNat_ofNat (by omega)]

private theorem ordinate_encode (q : Element) : (encode q).toNat % 2 ^ 255 = q.y.val := by
  rw [toNat_encode, Nat.mul_add_mod_of_lt (y_lt q)]

private theorem sign_encode (q : Element) : (encode q).toNat / 2 ^ 255 = q.x.val % 2 := by
  have ordinate := y_lt q
  rw [toNat_encode]
  omega

private theorem Element.eq_of_y_eq {q q' : Element} (ordinate : q.y = q'.y)
    (parity : q.x.val % 2 = q'.x.val % 2) : q = q' := by
  have square : ((q.x.val : Nat) : Residue) ^ 2 = ((q'.x.val : Nat) : Residue) ^ 2 := by
    simp only [ZMod.natCast_val, ZMod.cast_id', id]
    rw [CurvePoint.x_sq_eq, CurvePoint.x_sq_eq, ordinate]
  have abscissa := Field.eq_of_sq_eq (ZMod.val_lt q.x) (ZMod.val_lt q'.x) parity square
  exact CurvePoint.ext (ZMod.val_injective _ abscissa) ordinate

theorem encode_injective : Function.Injective encode := by
  intro q q' same
  have number := congrArg Key.toNat same
  refine Element.eq_of_y_eq (ZMod.val_injective _ ?_) ?_
  · rw [← ordinate_encode q, ← ordinate_encode q', number]
  · rw [← sign_encode q, ← sign_encode q', number]

/-- A key is a compressed form of an element, if not its own compressed form: the ordinate may
exceed the prime, and the sign of a zero abscissa may be set. -/
def Names (k : Key) (q : Element) : Prop := ∃ p, Point.decompress? k = some p ∧ p.Denotes q

theorem Names.unique {k : Key} {q q' : Element} (left : Names k q) (right : Names k q') :
    q = q' := by
  obtain ⟨p, found, denotes⟩ := left
  obtain ⟨p', found', denotes'⟩ := right
  obtain rfl := Option.some.inj (found.symm.trans found')
  exact denotes.unique denotes'

private def ordinateOf (k : Key) : Nat := k.toNat % (1 <<< 255) % Field.prime

private theorem decompress?_eq (k : Key) :
    Point.decompress? k =
      (Field.sqrtRatio? (Field.sub (Field.sq (ordinateOf k)) 1)
        (Field.add (Field.mul coefficient (Field.sq (ordinateOf k))) 1)).map fun x =>
          Point.ofAffine (if (k.toNat >>> 255) % 2 = 1 then Field.neg x else x) (ordinateOf k) :=
  rfl

private theorem cast_numerator (y : Nat) :
    ((Field.sub (Field.sq y) 1 : Nat) : Residue) = (y : Residue) ^ 2 - 1 := by
  rw [Field.cast_sub, Field.cast_sq, Nat.cast_one]

private theorem cast_denominator (y : Nat) :
    ((Field.add (Field.mul coefficient (Field.sq y)) 1 : Nat) : Residue) =
      1 + coefficient * (y : Residue) ^ 2 := by
  rw [Field.cast_add, Field.cast_mul, Field.cast_sq, Nat.cast_one, add_comm]

theorem exists_names {k : Key} (valid : (Point.decompress? k).isSome = true) : ∃ q, Names k q := by
  obtain ⟨p, found⟩ := Option.isSome_iff_exists.mp valid
  rw [decompress?_eq, Option.map_eq_some_iff] at found
  obtain ⟨x, root, rfl⟩ := found
  obtain ⟨-, -, square⟩ := Field.sqrtRatio?_sound root
  rw [cast_numerator, cast_denominator] at square
  have onCurve : (ordinateOf k : Residue) ^ 2 - (x : Residue) ^ 2 =
      1 + coefficient * (x : Residue) ^ 2 * (ordinateOf k : Residue) ^ 2 := by
    linear_combination -square
  let signed := if (k.toNat >>> 255) % 2 = 1 then Field.neg x else x
  have same : (signed : Residue) ^ 2 = (x : Residue) ^ 2 := by
    simp only [signed]
    split
    · rw [Field.cast_neg, neg_sq]
    · rfl
  refine ⟨⟨signed, ordinateOf k, ?_⟩, ?_⟩
  · rw [same, onCurve]
  · exact ⟨_, by rw [decompress?_eq, root, Option.map_some], .ofAffine rfl rfl⟩

theorem names_encode (q : Element) : Names (encode q) q := by
  have ordinate : ordinateOf (encode q) = q.y.val := by
    rw [ordinateOf, Nat.one_shiftLeft, ordinate_encode, Nat.mod_eq_of_lt (ZMod.val_lt q.y)]
  have cast : ∀ a : Residue, ((a.val : Nat) : Residue) = a := ZMod.natCast_zmod_val
  obtain ⟨x, root⟩ := Option.isSome_iff_exists.mp <| Field.sqrtRatio?_isSome
    (u := Field.sub (Field.sq q.y.val) 1)
    (v := Field.add (Field.mul coefficient (Field.sq q.y.val)) 1) (x := q.x)
    (by rw [cast_denominator, cast]; exact CurvePoint.one_add_mul_sq_ne_zero q.y)
    (by rw [cast_denominator, cast_numerator, cast]; linear_combination -q.onCurve)
  obtain ⟨below, even, square⟩ := Field.sqrtRatio?_sound root
  rw [cast_denominator, cast_numerator, cast] at square
  have same : (x : Residue) ^ 2 = (q.x.val : Residue) ^ 2 := by
    have nonzero : 1 + (coefficient : Residue) * q.y ^ 2 ≠ 0 :=
      CurvePoint.one_add_mul_sq_ne_zero q.y
    refine mul_left_cancel₀ nonzero ?_
    rw [square, cast]
    linear_combination q.onCurve
  have sign : ((encode q).toNat >>> 255) % 2 = q.x.val % 2 := by
    rw [Nat.shiftRight_eq_div_pow, sign_encode, Nat.mod_mod]
  refine ⟨_, by rw [decompress?_eq, ordinate, root, Option.map_some, sign], ?_⟩
  refine .ofAffine ?_ (cast q.y)
  split
  case isTrue odd =>
    have positive : 0 < x := by
      refine Nat.pos_of_ne_zero fun zero => ?_
      rw [zero, Nat.cast_zero, zero_pow (by decide), eq_comm, cast, sq_eq_zero_iff] at same
      rw [same, ZMod.val_zero] at odd
      exact absurd odd (by decide)
    have opposite : Field.neg x = q.x.val := by
      have primeOdd := Field.prime_odd
      refine Field.eq_of_sq_eq (Field.neg_lt x) (ZMod.val_lt q.x) ?_ ?_
      · rw [Field.neg_of_pos positive below]
        omega
      · rw [Field.cast_neg, neg_sq, same]
    rw [opposite, cast]
  case isFalse odd =>
    rw [Field.eq_of_sq_eq below (ZMod.val_lt q.x) (by omega) same, cast]

private def elementOf (x y : Nat) (fits : Field.sub (Field.sq y) (Field.sq x) =
    Field.add 1 (Field.mul (Field.mul coefficient (Field.sq x)) (Field.sq y))) : Element where
  x := x
  y := y
  onCurve := by
    have cast := congrArg (Nat.cast (R := Residue)) fits
    simpa only [Field.cast_sub, Field.cast_add, Field.cast_mul, Field.cast_sq, Nat.cast_one]
      using cast

/-- The element that the base point stands for. -/
def generator : Element := elementOf Point.base.x Point.base.y (by decide)

theorem denotes_base : Point.base.Denotes generator := .ofAffine rfl rfl

private def cornerPoint : Point :=
  Point.ofAffine 0x1FD5B9A006394A28E933993238DE4ABB5C193C7013E5E238DEA14646C545D14A
    0x05FC536D880238B13933C6D305ACDFD5F098EFF289F4C345B027B2C28F95E826

private def corner : Element := elementOf cornerPoint.x cornerPoint.y (by decide)

private theorem denotes_corner : cornerPoint.Denotes corner := .ofAffine rfl rfl

private theorem nsmul_eq_zero_iff {p : Point} {q : Element} (left : p.Denotes q) {n : Nat}
    (fits : n < 2 ^ 256) : n • q = 0 ↔ (p.smul n).compress = Point.zero.compress := by
  rw [(left.smul fits).compress, Point.Denotes.zero.compress, encode_injective.eq_iff]

private theorem order_nsmul_generator : order • generator = 0 :=
  (nsmul_eq_zero_iff denotes_base (by decide)).mpr (by decide +kernel)

private theorem generator_ne_zero : generator ≠ 0 := by
  intro zero
  have once : 1 • generator = 0 := by rw [zero, nsmul_zero]
  exact absurd ((nsmul_eq_zero_iff denotes_base (by decide)).mp once) (by decide +kernel)

theorem addOrderOf_generator : addOrderOf generator = order :=
  haveI : Fact order.Prime := ⟨order_prime⟩
  addOrderOf_eq_prime order_nsmul_generator generator_ne_zero

private theorem addOrderOf_corner : addOrderOf corner = 8 := by
  have eighth : 8 • corner = 0 :=
    (nsmul_eq_zero_iff denotes_corner (by decide)).mpr (by decide +kernel)
  have fourth : ¬4 • corner = 0 := fun zero =>
    absurd ((nsmul_eq_zero_iff denotes_corner (by decide)).mp zero) (by decide +kernel)
  exact addOrderOf_eq_prime_pow (p := 2) (n := 2) fourth eighth

private def outline (q : Element) : Residue × Bool := (q.y, q.x.val % 2 == 1)

private theorem outline_injective : Function.Injective outline := by
  intro q q' same
  simp only [outline, Prod.mk.injEq] at same
  refine Element.eq_of_y_eq same.1 ?_
  have parity := same.2
  rw [Bool.eq_iff_iff, beq_iff_eq, beq_iff_eq] at parity
  omega

instance : Finite Element := Finite.of_injective outline outline_injective

private theorem card_element : Nat.card Element = 8 * order := by
  have coprime : (addOrderOf generator).Coprime (addOrderOf corner) := by
    rw [addOrderOf_generator, addOrderOf_corner]
    decide
  have reached : addOrderOf (generator + corner) = 8 * order := by
    rw [(AddCommute.all _ _).addOrderOf_add_eq_mul_addOrderOf_of_coprime coprime,
      addOrderOf_generator, addOrderOf_corner, Nat.mul_comm]
  obtain ⟨k, multiple⟩ : 8 * order ∣ Nat.card Element := reached ▸ addOrderOf_dvd_natCard _
  have few : Nat.card Element ≤ Field.prime * 2 := by
    have atMost := Nat.card_le_card_of_injective outline outline_injective
    have two : Nat.card Bool = 2 := by rw [Nat.card_eq_fintype_card, Fintype.card_bool]
    rwa [Nat.card_prod, Nat.card_zmod, two] at atMost
  have inhabited : 0 < Nat.card Element := Nat.card_pos
  have bound : Field.prime * 2 < 8 * order * 2 := by decide
  obtain rfl : k = 1 := by
    have positive : k ≠ 0 := by
      rintro rfl
      omega
    have less : k < 2 := by
      by_contra large
      have : 8 * order * 2 ≤ 8 * order * k := Nat.mul_le_mul_left _ (by omega)
      omega
    omega
  rw [multiple, Nat.mul_one]

/-- Elements of small order, under which a signature tells little of its message. -/
def Element.IsWeak (q : Element) : Prop := 8 • q = 0

/-- A scalar in canonical form is known from the multiple of an element that is not weak. -/
theorem Element.nsmul_injective {q : Element} (strong : ¬q.IsWeak) {a b : Nat} (left : a < order)
    (right : b < order) (same : a • q = b • q) : a = b := by
  wlog less : a ≤ b generalizing a b
  · exact (this right left same.symm (by omega)).symm
  by_contra different
  have apart : addOrderOf q ∣ b - a := by
    refine addOrderOf_dvd_of_nsmul_eq_zero ?_
    have split : (b - a) • q + a • q = a • q := by rw [← add_nsmul, Nat.sub_add_cancel less, same]
    exact add_eq_right.mp split
  have whole : addOrderOf q ∣ 8 * order := card_element ▸ addOrderOf_dvd_natCard q
  have coprime : (addOrderOf q).Coprime order := by
    refine Nat.Coprime.symm ((Nat.Prime.coprime_iff_not_dvd order_prime).mpr fun divides => ?_)
    exact absurd (Nat.le_of_dvd (by omega) (divides.trans apart)) (by omega)
  exact strong (addOrderOf_dvd_iff_nsmul_eq_zero.mp (coprime.dvd_of_dvd_mul_right whole))

end Ed25519
end DevicePairing
