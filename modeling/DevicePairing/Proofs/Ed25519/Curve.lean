import Mathlib.Algebra.Field.Basic
import Mathlib.Tactic.FieldSimp
import Mathlib.Tactic.LinearCombination
import Mathlib.Tactic.Ring

set_option autoImplicit false
set_option relaxedAutoImplicit false

namespace DevicePairing.Ed25519

/-- Minus one is a square and the coefficient is none. -/
class IsComplete {K : Type} [Field K] (d : K) : Prop where
  two_ne_zero : (2 : K) ≠ 0
  exists_root : ∃ i : K, i ^ 2 = -1
  ne_square : ∀ a : K, d ≠ a ^ 2

/-- A point of the curve with the coefficient `d`. -/
@[ext]
structure CurvePoint {K : Type} [Field K] (d : K) where
  x : K
  y : K
  onCurve : y ^ 2 - x ^ 2 = 1 + d * x ^ 2 * y ^ 2

namespace CurvePoint

variable {K : Type} [Field K] {d : K}

/-- The product of the coefficient and all coordinates of two points. -/
def product (p q : CurvePoint d) : K := d * p.x * q.x * p.y * q.y

private theorem product_comm (p q : CurvePoint d) : p.product q = q.product p := by
  unfold product
  ring

section

variable [IsComplete d]

private theorem eq_zero_of_square {v w : K} (same : d * w ^ 2 = v ^ 2) : w = 0 := by
  by_contra nonzero
  refine IsComplete.ne_square (d := d) (v / w) ?_
  rw [div_pow, ← same, mul_div_assoc, div_self (pow_ne_zero 2 nonzero), mul_one]

theorem one_add_mul_sq_ne_zero (y : K) : 1 + d * y ^ 2 ≠ 0 := by
  intro zero
  obtain ⟨i, root⟩ := IsComplete.exists_root d
  have none := eq_zero_of_square (d := d) (v := i) (w := y) (by linear_combination zero - root)
  rw [none] at zero
  simp at zero

theorem x_sq_eq (p : CurvePoint d) : p.x ^ 2 = (p.y ^ 2 - 1) / (1 + d * p.y ^ 2) := by
  rw [eq_div_iff (one_add_mul_sq_ne_zero p.y)]
  linear_combination -p.onCurve

private theorem product_sq_ne_one (p q : CurvePoint d) : p.product q ^ 2 ≠ 1 := by
  intro unit
  obtain ⟨i, root⟩ := IsComplete.exists_root d
  have nonzero : p.product q ≠ 0 := by
    intro zero
    simp [zero] at unit
  have vanishes : ∀ s : K, s ^ 2 = 1 → i * q.x + s * q.y = 0 := by
    intro s sign
    have same : d * (p.x * p.y * (i * q.x + s * q.y)) ^ 2 =
        (i * p.x + s * p.product q * p.y) ^ 2 := by
      unfold product at unit ⊢
      linear_combination (d * p.x ^ 2 * p.y ^ 2 * q.x ^ 2 - p.x ^ 2) * root +
        (d * p.x ^ 2 * p.y ^ 2 * q.y ^ 2 - (d * p.x * q.x * p.y * q.y) ^ 2 * p.y ^ 2) * sign -
        p.onCurve + d * p.x ^ 2 * p.y ^ 2 * q.onCurve + (1 - p.y ^ 2) * unit
    have zero := eq_zero_of_square same
    have factor : p.x * p.y ≠ 0 := by
      intro zero
      exact nonzero (by unfold product; linear_combination d * q.x * q.y * zero)
    exact (mul_eq_zero.mp zero).resolve_left factor
  have plus := vanishes 1 (one_pow 2)
  have minus := vanishes (-1) (by ring)
  have double : (2 : K) * q.y = 0 := by linear_combination plus - minus
  have zero := (mul_eq_zero.mp double).resolve_left (IsComplete.two_ne_zero d)
  exact nonzero (by unfold product; rw [zero, mul_zero])

theorem one_add_ne_zero (p q : CurvePoint d) : 1 + p.product q ≠ 0 := by
  intro zero
  exact product_sq_ne_one p q (by linear_combination (p.product q - 1) * zero)

theorem one_sub_ne_zero (p q : CurvePoint d) : 1 - p.product q ≠ 0 := by
  intro zero
  exact product_sq_ne_one p q (by linear_combination -(p.product q + 1) * zero)

end

instance : Zero (CurvePoint d) := ⟨⟨0, 1, by ring⟩⟩

instance : Neg (CurvePoint d) := ⟨fun p => ⟨-p.x, p.y, by linear_combination p.onCurve⟩⟩

@[simp] theorem x_zero : (0 : CurvePoint d).x = 0 := rfl

@[simp] theorem y_zero : (0 : CurvePoint d).y = 1 := rfl

@[simp] theorem x_neg (p : CurvePoint d) : (-p).x = -p.x := rfl

@[simp] theorem y_neg (p : CurvePoint d) : (-p).y = p.y := rfl

private theorem onCurve_quotients {x y a b : K} (left : a ≠ 0) (right : b ≠ 0)
    (fits : y ^ 2 * a ^ 2 - x ^ 2 * b ^ 2 = a ^ 2 * b ^ 2 + d * x ^ 2 * y ^ 2) :
    (y / b) ^ 2 - (x / a) ^ 2 = 1 + d * (x / a) ^ 2 * (y / b) ^ 2 := by
  field_simp
  linear_combination fits

private theorem quotient_add {a b l r x y : K} (left : a ≠ 0) (right : b ≠ 0) :
    (l / a * y + x * (r / b)) / (1 + d * (l / a) * x * (r / b) * y) =
      (l * b * y + x * r * a) / (a * b + d * l * r * x * y) := by
  have both : a * b ≠ 0 := mul_ne_zero left right
  rw [← mul_div_mul_right _ _ both]
  congr 1 <;> field_simp

variable [IsComplete d]

instance : Add (CurvePoint d) where
  add p q :=
    { x := (p.x * q.y + q.x * p.y) / (1 + p.product q)
      y := (p.y * q.y + p.x * q.x) / (1 - p.product q)
      onCurve := by
        refine onCurve_quotients (one_add_ne_zero p q) (one_sub_ne_zero p q) ?_
        obtain ⟨x₁, y₁, h₁⟩ := p
        obtain ⟨x₂, y₂, h₂⟩ := q
        simp only [product]
        linear_combination
          ((1 + (d * x₁ * x₂ * y₁ * y₂) ^ 2) * (y₂ ^ 2 - x₂ ^ 2) -
            d * x₂ ^ 2 * y₂ ^ 2 * (y₁ ^ 2 - x₁ ^ 2 + 1 + d * x₁ ^ 2 * y₁ ^ 2)) * h₁ +
          ((1 + (d * x₁ * x₂ * y₁ * y₂) ^ 2) * (1 + d * x₁ ^ 2 * y₁ ^ 2) -
            d * x₁ ^ 2 * y₁ ^ 2 * (y₂ ^ 2 - x₂ ^ 2 + 1 + d * x₂ ^ 2 * y₂ ^ 2)) * h₂ }

theorem x_add (p q : CurvePoint d) :
    (p + q).x = (p.x * q.y + q.x * p.y) / (1 + p.product q) := rfl

theorem y_add (p q : CurvePoint d) :
    (p + q).y = (p.y * q.y + p.x * q.x) / (1 - p.product q) := rfl

private theorem x_add_add (p q r : CurvePoint d) :
    (p + q + r).x =
      ((p.x * q.y + q.x * p.y) * (1 - p.product q) * r.y +
        r.x * (p.y * q.y + p.x * q.x) * (1 + p.product q)) /
      ((1 + p.product q) * (1 - p.product q) +
        d * (p.x * q.y + q.x * p.y) * (p.y * q.y + p.x * q.x) * r.x * r.y) := by
  rw [x_add (p + q) r, product, x_add p q, y_add p q]
  exact quotient_add (one_add_ne_zero p q) (one_sub_ne_zero p q)

private theorem denominator_ne_zero (p q r : CurvePoint d) :
    (1 + p.product q) * (1 - p.product q) +
      d * (p.x * q.y + q.x * p.y) * (p.y * q.y + p.x * q.x) * r.x * r.y ≠ 0 := by
  have plus := one_add_ne_zero p q
  have minus := one_sub_ne_zero p q
  have same : (1 + p.product q) * (1 - p.product q) +
      d * (p.x * q.y + q.x * p.y) * (p.y * q.y + p.x * q.x) * r.x * r.y =
        (1 + p.product q) * (1 - p.product q) * (1 + (p + q).product r) := by
    have apart : (p + q).product r = d * (p + q).x * r.x * (p + q).y * r.y := rfl
    rw [apart, x_add p q, y_add p q]
    field_simp
  rw [same]
  exact mul_ne_zero (mul_ne_zero plus minus) (one_add_ne_zero (p + q) r)

protected theorem add_comm (p q : CurvePoint d) : p + q = q + p := by
  ext
  · rw [x_add, x_add, product_comm p q, add_comm]
  · rw [y_add, y_add, product_comm p q, mul_comm p.y, mul_comm p.x]

private theorem x_add_assoc (p q r : CurvePoint d) : (p + q + r).x = (p + (q + r)).x := by
  rw [CurvePoint.add_comm p (q + r), CurvePoint.add_comm q r, x_add_add, x_add_add,
    div_eq_div_iff (denominator_ne_zero p q r) (denominator_ne_zero r q p)]
  obtain ⟨x₁, y₁, h₁⟩ := p
  obtain ⟨x₂, y₂, h₂⟩ := q
  obtain ⟨x₃, y₃, h₃⟩ := r
  simp only [product]
  linear_combination
    d * x₂ * y₂ * x₃ * y₃ *
      (x₁ * (y₂ * y₃ + x₂ * x₃) * (1 + d * x₂ * x₃ * y₂ * y₃) -
        y₁ * (x₂ * y₃ + x₃ * y₂) * (1 - d * x₂ * x₃ * y₂ * y₃)) * h₁ +
    d ^ 2 * x₁ * y₁ * x₂ * y₂ * x₃ * y₃ *
      (x₁ * y₁ * (x₂ * (y₁ * y₃ - x₁ * x₃) + y₂ * (y₁ * x₃ - x₁ * y₃)) +
        x₃ * y₃ * (x₂ * (x₁ * x₃ - y₁ * y₃) + y₂ * (y₁ * x₃ - x₁ * y₃))) * h₂ -
    d * x₂ * y₂ * x₁ * y₁ *
      (x₃ * (y₁ * y₂ + x₁ * x₂) * (1 + d * x₁ * x₂ * y₁ * y₂) -
        y₃ * (x₁ * y₂ + x₂ * y₁) * (1 - d * x₁ * x₂ * y₁ * y₂)) * h₃

/-- The sum of a point and a point of order four whose ordinate is zero. -/
private def turn (i : K) (root : i ^ 2 = -1) (p : CurvePoint d) : CurvePoint d where
  x := i * p.y
  y := i * p.x
  onCurve := by
    linear_combination p.onCurve + (p.x ^ 2 - p.y ^ 2 - d * p.x ^ 2 * p.y ^ 2 * (i ^ 2 - 1)) * root

private theorem add_turn {i : K} (root : i ^ 2 = -1) (p q : CurvePoint d) :
    p + q.turn i root = (p + q).turn i root := by
  have opposite : p.product (q.turn i root) = -p.product q := by
    simp only [product, turn]
    linear_combination d * p.x * q.x * p.y * q.y * root
  ext
  · rw [x_add, opposite, ← sub_eq_add_neg]
    simp only [turn, y_add]
    ring
  · rw [y_add, opposite, sub_neg_eq_add]
    simp only [turn, x_add]
    ring

protected theorem add_assoc (p q r : CurvePoint d) : p + q + r = p + (q + r) := by
  obtain ⟨i, root⟩ := IsComplete.exists_root d
  have nonzero : i ≠ 0 := by
    rintro rfl
    simp at root
  -- the ordinates are the abscissas after a turn
  have turned := x_add_assoc p q (r.turn i root)
  rw [add_turn, add_turn, add_turn] at turned
  exact CurvePoint.ext (x_add_assoc p q r) (mul_left_cancel₀ nonzero turned)

protected theorem zero_add (p : CurvePoint d) : 0 + p = p := by
  ext <;> simp [x_add, y_add, product]

protected theorem neg_add (p : CurvePoint d) : -p + p = 0 := by
  have nonzero := one_sub_ne_zero (-p) p
  ext
  · rw [x_add]
    simp only [x_neg, y_neg, x_zero]
    ring
  · rw [y_add, y_zero, div_eq_one_iff_eq nonzero]
    simp only [product, x_neg, y_neg]
    linear_combination p.onCurve

instance : AddCommGroup (CurvePoint d) where
  add_assoc := CurvePoint.add_assoc
  zero_add := CurvePoint.zero_add
  add_zero p := by rw [CurvePoint.add_comm, CurvePoint.zero_add]
  nsmul := nsmulRec
  zsmul := zsmulRec
  neg_add_cancel := CurvePoint.neg_add
  add_comm := CurvePoint.add_comm

end CurvePoint

end DevicePairing.Ed25519
