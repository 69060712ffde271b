import DevicePairing.Proofs.Ed25519.Curve
import DevicePairing.Proofs.Ed25519.Primality
import Mathlib.FieldTheory.Finite.Basic

set_option autoImplicit false
set_option relaxedAutoImplicit false

namespace DevicePairing.Ed25519

/-- The field that the naturals below the prime stand for. -/
abbrev Residue := ZMod Field.prime

namespace Field

instance : Fact prime.Prime := ⟨prime_prime⟩

private theorem prime_pos : 0 < prime := prime_prime.pos

theorem prime_odd : prime % 2 = 1 := by decide

private theorem eq_of_cast_eq {a b : Nat} (left : a < prime) (right : b < prime)
    (same : (a : Residue) = b) : a = b := by
  rw [ZMod.natCast_eq_natCast_iff'] at same
  rwa [Nat.mod_eq_of_lt left, Nat.mod_eq_of_lt right] at same

@[simp] theorem cast_add (a b : Nat) : (add a b : Residue) = a + b := by
  rw [add, ZMod.natCast_mod, Nat.cast_add]

@[simp] theorem cast_neg (a : Nat) : (neg a : Residue) = -a := by
  have below : a % prime ≤ prime := (Nat.mod_lt a prime_pos).le
  rw [neg, ZMod.natCast_mod, Nat.cast_sub below, ZMod.natCast_mod, ZMod.natCast_self, zero_sub]

@[simp] theorem cast_sub (a b : Nat) : (sub a b : Residue) = a - b := by
  rw [sub, cast_add, cast_neg, sub_eq_add_neg]

@[simp] theorem cast_mul (a b : Nat) : (mul a b : Residue) = a * b := by
  rw [mul, ZMod.natCast_mod, Nat.cast_mul]

@[simp] theorem cast_sq (a : Nat) : (sq a : Residue) = (a : Residue) ^ 2 := by
  rw [sq, cast_mul, pow_two]

private theorem cast_pow (a : Nat) {n : Nat} (fits : n < 2 ^ 256) :
    (pow a n : Residue) = (a : Residue) ^ n := by
  have folded := foldl_bits (fun (r k : Nat) => (r : Residue) = (a : Residue) ^ k)
    sq (fun r => mul (sq r) a)
    (fun r k same => by rw [cast_sq, same, ← pow_mul, Nat.mul_comm])
    (fun r k same => by rw [cast_mul, cast_sq, same, ← pow_mul, ← pow_succ, Nat.mul_comm])
    256 n (r := 1) (k := 0) (by rw [Nat.cast_one, pow_zero])
  rwa [Nat.zero_mul, Nat.zero_add, Nat.mod_eq_of_lt fits] at folded

private theorem inv_eq_pow (a : Residue) : a⁻¹ = a ^ (prime - 2) := by
  by_cases zero : a = 0
  · rw [zero, inv_zero, zero_pow (by decide)]
  · have one := ZMod.pow_card_sub_one_eq_one zero
    have split : prime - 1 = prime - 2 + 1 := by decide
    rw [split, pow_succ] at one
    exact (eq_inv_of_mul_eq_one_left one).symm

@[simp] theorem cast_inv (a : Nat) : (inv a : Residue) = (a : Residue)⁻¹ := by
  rw [inv, cast_pow a (by decide), inv_eq_pow]

theorem mul_lt (a b : Nat) : mul a b < prime := Nat.mod_lt _ prime_pos

theorem neg_lt (a : Nat) : neg a < prime := Nat.mod_lt _ prime_pos

theorem neg_of_pos {a : Nat} (positive : 0 < a) (below : a < prime) : neg a = prime - a := by
  rw [neg, Nat.mod_eq_of_lt below, Nat.mod_eq_of_lt (by omega)]

private theorem rootOfMinusOne_sq : (rootOfMinusOne : Residue) ^ 2 = -1 := by
  have computed : sq rootOfMinusOne = neg 1 := by decide
  rw [← cast_sq, computed, cast_neg, Nat.cast_one]

theorem two_ne_zero : (2 : Residue) ≠ 0 := by
  intro zero
  have same : ((2 : Nat) : Residue) = ((0 : Nat) : Residue) := by exact_mod_cast zero
  exact absurd (eq_of_cast_eq (by decide) prime_pos same) (by decide)

private theorem coefficient_ne_sq (a : Residue) : (coefficient : Residue) ≠ a ^ 2 := by
  intro square
  have computed : powMod prime coefficient ((prime - 1) / 2) = neg 1 := by decide +kernel
  have minus : (coefficient : Residue) ^ ((prime - 1) / 2) = -1 := by
    rw [← cast_powMod, computed, cast_neg, Nat.cast_one]
  have whole : 2 * ((prime - 1) / 2) = prime - 1 := by decide
  rw [square, ← pow_mul, whole] at minus
  by_cases zero : a = 0
  · rw [zero, zero_pow (by decide)] at minus
    exact two_ne_zero (by linear_combination 2 * minus)
  · rw [ZMod.pow_card_sub_one_eq_one zero] at minus
    exact two_ne_zero (by linear_combination minus)

instance : IsComplete (coefficient : Residue) where
  two_ne_zero := two_ne_zero
  exists_root := ⟨rootOfMinusOne, rootOfMinusOne_sq⟩
  ne_square := coefficient_ne_sq

theorem eq_of_sq_eq {a b : Nat} (left : a < prime) (right : b < prime) (parity : a % 2 = b % 2)
    (same : (a : Residue) ^ 2 = (b : Residue) ^ 2) : a = b := by
  obtain equal | opposite := sq_eq_sq_iff_eq_or_eq_neg.mp same
  · exact eq_of_cast_eq left right equal
  · have zero : ((a + b : Nat) : Residue) = 0 := by rw [Nat.cast_add, opposite, neg_add_cancel]
    obtain ⟨k, multiple⟩ := (ZMod.natCast_eq_zero_iff _ _).mp zero
    have odd := prime_odd
    obtain rfl | rfl : k = 0 ∨ k = 1 := by
      have : k < 2 := by
        by_contra large
        have : prime * 2 ≤ prime * k := Nat.mul_le_mul_left prime (by omega)
        omega
      omega
    all_goals omega

private def evenOf (x : Nat) : Nat := if x % 2 = 0 then x else neg x

private theorem evenOf_lt {x : Nat} (below : x < prime) : evenOf x < prime := by
  unfold evenOf
  split
  · exact below
  · exact neg_lt x

private theorem evenOf_even {x : Nat} (below : x < prime) : evenOf x % 2 = 0 := by
  have odd := prime_odd
  unfold evenOf
  split
  · assumption
  · rw [neg_of_pos (by omega) below]
    omega

private theorem cast_evenOf_sq (x : Nat) : (evenOf x : Residue) ^ 2 = (x : Residue) ^ 2 := by
  unfold evenOf
  split
  · rfl
  · rw [cast_neg, neg_sq]

private def candidate (u v : Nat) : Nat :=
  mul (mul u (mul (sq v) v)) (pow (mul u (mul (sq (mul (sq v) v)) v)) ((prime - 5) / 8))

private theorem sqrtRatio?_eq (u v : Nat) :
    sqrtRatio? u v =
      if mul v (sq (candidate u v)) = u % prime then some (evenOf (candidate u v))
      else if mul v (sq (candidate u v)) = neg u then
        some (evenOf (mul (candidate u v) rootOfMinusOne))
      else none := rfl

private theorem half_power {a : Residue} (nonzero : a ≠ 0) :
    a ^ ((prime - 1) / 2) = 1 ∨ a ^ ((prime - 1) / 2) = -1 := by
  have whole : (prime - 1) / 2 * 2 = prime - 1 := by decide
  rw [← sq_eq_one_iff, ← pow_mul, whole]
  exact ZMod.pow_card_sub_one_eq_one nonzero

private theorem cast_candidate {u v : Nat} {x : Residue} (nonzero : (v : Residue) ≠ 0)
    (root : (v : Residue) * x ^ 2 = u) :
    (v : Residue) * (candidate u v : Residue) ^ 2 = u ∨
      (v : Residue) * (candidate u v : Residue) ^ 2 = -u := by
  have computed : (candidate u v : Residue) =
      u * (v : Residue) ^ 3 * (u * (v : Residue) ^ 7) ^ ((prime - 5) / 8) := by
    simp only [candidate, cast_mul, cast_sq, cast_pow _ (show (prime - 5) / 8 < 2 ^ 256 by decide)]
    ring
  have one := ZMod.pow_card_sub_one_eq_one nonzero
  have exponent : prime - 1 = 8 * ((prime - 5) / 8) + 4 := by decide
  have short : (candidate u v : Residue) = x ^ (2 * ((prime - 5) / 8) + 2) := by
    rw [exponent] at one
    calc (candidate u v : Residue)
        = (v : Residue) ^ (8 * ((prime - 5) / 8) + 4) * x ^ (2 * ((prime - 5) / 8) + 2) := by
          rw [computed, ← root]
          ring
      _ = x ^ (2 * ((prime - 5) / 8) + 2) := by rw [one, one_mul]
  have square : (candidate u v : Residue) ^ 2 = x ^ ((prime - 1) / 2) * x ^ 2 := by
    have half : (prime - 1) / 2 = 4 * ((prime - 5) / 8) + 2 := by decide
    rw [short, half]
    ring
  by_cases zero : x = 0
  · left
    rw [square, ← root, zero]
    ring
  · refine (half_power zero).imp (fun plus => ?_) fun minus => ?_
    · rw [square, plus, ← root, one_mul]
    · rw [square, minus, ← root]
      ring

private theorem check_eq_iff (u v r : Nat) :
    mul v (sq r) = u % prime ↔ (v : Residue) * (r : Residue) ^ 2 = u := by
  rw [← cast_sq, ← cast_mul, ← ZMod.natCast_mod u]
  exact ⟨congrArg Nat.cast, eq_of_cast_eq (mul_lt _ _) (Nat.mod_lt u prime_pos)⟩

private theorem check_eq_neg_iff (u v r : Nat) :
    mul v (sq r) = neg u ↔ (v : Residue) * (r : Residue) ^ 2 = -u := by
  rw [← cast_sq, ← cast_mul, ← cast_neg]
  exact ⟨congrArg Nat.cast, eq_of_cast_eq (mul_lt _ _) (neg_lt u)⟩

theorem sqrtRatio?_sound {u v r : Nat} (found : sqrtRatio? u v = some r) :
    r < prime ∧ r % 2 = 0 ∧ (v : Residue) * (r : Residue) ^ 2 = u := by
  rw [sqrtRatio?_eq] at found
  split at found
  case isTrue check =>
    obtain rfl := Option.some.inj found
    refine ⟨evenOf_lt (mul_lt _ _), evenOf_even (mul_lt _ _), ?_⟩
    rw [cast_evenOf_sq, (check_eq_iff u v _).mp check]
  case isFalse =>
    split at found
    case isTrue check =>
      obtain rfl := Option.some.inj found
      have opposite := (check_eq_neg_iff u v _).mp check
      refine ⟨evenOf_lt (mul_lt _ _), evenOf_even (mul_lt _ _), ?_⟩
      rw [cast_evenOf_sq, cast_mul, mul_pow, rootOfMinusOne_sq]
      linear_combination -opposite
    case isFalse => simp at found

theorem sqrtRatio?_isSome {u v : Nat} {x : Residue} (nonzero : (v : Residue) ≠ 0)
    (root : (v : Residue) * x ^ 2 = u) : (sqrtRatio? u v).isSome := by
  rw [sqrtRatio?_eq]
  obtain same | opposite := cast_candidate nonzero root
  · rw [if_pos ((check_eq_iff u v _).mpr same)]
    rfl
  · rw [if_pos ((check_eq_neg_iff u v _).mpr opposite)]
    split <;> rfl

end Field

end DevicePairing.Ed25519
