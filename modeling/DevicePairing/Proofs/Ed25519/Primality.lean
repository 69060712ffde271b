import DevicePairing.Ed25519.Point
import Mathlib.NumberTheory.LucasPrimality
import Mathlib.Tactic.NormNum.Prime

set_option autoImplicit false
set_option relaxedAutoImplicit false

namespace DevicePairing.Ed25519

namespace Field

/-- What a computation with squarings holds on its way through the bits of a number. -/
theorem foldl_bits {α : Type} (holds : α → Nat → Prop) (double next : α → α)
    (doubled : ∀ r k, holds r k → holds (double r) (2 * k))
    (increased : ∀ r k, holds r k → holds (next r) (2 * k + 1)) (width n : Nat) {r : α} {k : Nat}
    (start : holds r k) :
    holds ((bits width n).foldl (fun r bit => if bit then next r else double r) r)
      (k * 2 ^ width + n % 2 ^ width) := by
  induction width generalizing r k with
  | zero => simpa [bits, Nat.mod_one] using start
  | succ width ih =>
    rw [bits, List.foldl_cons]
    have step : k * 2 ^ (width + 1) + n % 2 ^ (width + 1) =
        (2 * k + (n.testBit width).toNat) * 2 ^ width + n % 2 ^ width := by
      rw [Nat.mod_pow_succ, Nat.toNat_testBit]
      ring
    rw [step]
    cases n.testBit width with
    | false => exact ih (doubled r k start)
    | true => exact ih (increased r k start)

end Field

def powMod (n a e : Nat) : Nat :=
  (Field.bits (e.log2 + 1) e).foldl (fun r bit => if bit then r * r * a % n else r * r % n) (1 % n)

theorem cast_powMod (n a e : Nat) : (powMod n a e : ZMod n) = (a : ZMod n) ^ e := by
  have folded := Field.foldl_bits (fun (r k : Nat) => (r : ZMod n) = (a : ZMod n) ^ k)
    (fun r => r * r % n) (fun r => r * r * a % n)
    (fun r k same => by
      rw [ZMod.natCast_mod, Nat.cast_mul, same]
      ring)
    (fun r k same => by
      rw [ZMod.natCast_mod, Nat.cast_mul, Nat.cast_mul, same]
      ring)
    (e.log2 + 1) e (r := 1 % n) (k := 0) (by rw [ZMod.natCast_mod, Nat.cast_one, pow_zero])
  rw [Nat.zero_mul, Nat.zero_add, Nat.mod_eq_of_lt Nat.lt_log2_self] at folded
  exact folded

/-- The factors are those of `n - 1`, and the powers of `a` show that its order modulo `n` is
`n - 1`. -/
def hasFullOrder (n a : Nat) (factors : List Nat) : Bool :=
  factors.prod == n - 1 && powMod n a (n - 1) == 1 &&
    factors.all fun q => powMod n a ((n - 1) / q) % n != 1 % n

private theorem prime_of_hasFullOrder {n : Nat} (a : Nat) (factors : List Nat)
    (full : hasFullOrder n a factors = true) (primes : ∀ q ∈ factors, q.Prime) : n.Prime := by
  simp only [hasFullOrder, Bool.and_eq_true, beq_iff_eq, List.all_eq_true, bne_iff_ne] at full
  obtain ⟨⟨product, one⟩, others⟩ := full
  refine lucas_primality n (a : ZMod n) ?_ fun q prime divides same => ?_
  · rw [← cast_powMod, one, Nat.cast_one]
  · rw [← product, prime.prime.dvd_prod_iff] at divides
    obtain ⟨q', member, divides⟩ := divides
    obtain rfl := (Nat.prime_dvd_prime_iff_eq prime (primes q' member)).mp divides
    rw [← cast_powMod, ← Nat.cast_one (R := ZMod n), ZMod.natCast_eq_natCast_iff'] at same
    exact others q member same

def provesPrimes : (known : List Nat) → List (Nat × Nat × List Nat) → Bool
  | _, [] => true
  | known, (n, a, factors) :: rest =>
    hasFullOrder n a factors && factors.all known.contains && provesPrimes (n :: known) rest

private theorem prime_of_provesPrimes {known : List Nat} {steps : List (Nat × Nat × List Nat)}
    (proves : provesPrimes known steps = true) (primes : ∀ q ∈ known, q.Prime) :
    ∀ step ∈ steps, step.1.Prime := by
  induction steps generalizing known with
  | nil => exact fun _ member => absurd member List.not_mem_nil
  | cons step rest ih =>
    obtain ⟨n, a, factors⟩ := step
    simp only [provesPrimes, Bool.and_eq_true, List.all_eq_true, List.contains_iff_mem] at proves
    obtain ⟨⟨full, inside⟩, more⟩ := proves
    have prime := prime_of_hasFullOrder a factors full fun q member => primes q (inside q member)
    have wider : ∀ q ∈ n :: known, q.Prime := by
      simp only [List.mem_cons, forall_eq_or_imp]
      exact ⟨prime, primes⟩
    simp only [List.mem_cons, forall_eq_or_imp]
    exact ⟨prime, ih more wider⟩

/-- The primes below the two orders with an element of full order and the factors of the number
before them, the smallest first. -/
private def primeSteps : List (Nat × Nat × List Nat) := [
    (3, 2, [2]), (5, 2, [2, 2]), (7, 3, [2, 3]), (11, 2, [2, 5]), (13, 2, [2, 2, 3]),
    (17, 3, [2, 2, 2, 2]), (19, 2, [2, 3, 3]), (23, 5, [2, 11]), (29, 2, [2, 2, 7]),
    (31, 3, [2, 3, 5]), (37, 2, [2, 2, 3, 3]), (41, 6, [2, 2, 2, 5]), (43, 3, [2, 3, 7]),
    (47, 5, [2, 23]), (53, 2, [2, 2, 13]), (59, 2, [2, 29]), (67, 2, [2, 3, 11]),
    (73, 5, [2, 2, 2, 3, 3]), (79, 3, [2, 3, 13]), (83, 2, [2, 41]), (97, 5, [2, 2, 2, 2, 2, 3]),
    (103, 5, [2, 3, 17]), (107, 2, [2, 53]), (113, 3, [2, 2, 2, 2, 7]), (127, 3, [2, 3, 3, 7]),
    (131, 2, [2, 5, 13]), (173, 2, [2, 2, 43]), (223, 3, [2, 3, 37]), (239, 7, [2, 7, 17]),
    (269, 2, [2, 2, 67]), (307, 5, [2, 3, 3, 17]), (353, 3, [2, 2, 2, 2, 2, 11]),
    (419, 2, [2, 11, 19]), (479, 13, [2, 239]), (487, 3, [2, 3, 3, 3, 3, 3]),
    (991, 6, [2, 3, 3, 5, 11]), (1361, 3, [2, 2, 2, 2, 5, 17]), (1723, 3, [2, 3, 7, 41]),
    (2437, 2, [2, 2, 3, 7, 29]), (2551, 6, [2, 3, 5, 5, 17]), (2851, 2, [2, 3, 5, 5, 19]),
    (2939, 2, [2, 13, 113]), (3727, 3, [2, 3, 3, 3, 3, 23]), (3797, 2, [2, 2, 13, 73]),
    (4153, 5, [2, 2, 2, 3, 173]), (5879, 11, [2, 2939]), (9463, 3, [2, 3, 19, 83]),
    (17231, 13, [2, 5, 1723]), (22111, 6, [2, 3, 5, 11, 67]), (30703, 3, [2, 3, 7, 17, 43]),
    (32573, 2, [2, 2, 17, 479]), (34123, 2, [2, 3, 11, 11, 47]), (37853, 2, [2, 2, 9463]),
    (41081, 3, [2, 2, 2, 5, 13, 79]), (57467, 2, [2, 59, 487]), (65147, 2, [2, 32573]),
    (75707, 2, [2, 37853]), (82163, 2, [2, 41081]), (132049, 26, [2, 2, 2, 2, 3, 3, 7, 131]),
    (132667, 5, [2, 3, 22111]), (137849, 3, [2, 2, 2, 17231]), (409477, 2, [2, 2, 3, 34123]),
    (430751, 17, [2, 5, 5, 5, 1723]), (531581, 2, [2, 2, 5, 7, 3797]), (569003, 2, [2, 7, 97, 419]),
    (1224481, 13, [2, 2, 2, 2, 2, 3, 5, 2551]), (1923133, 2, [2, 2, 3, 43, 3727]),
    (8574133, 2, [2, 2, 3, 7, 103, 991]), (14741173, 2, [2, 2, 3, 3, 409477]),
    (58964693, 2, [2, 2, 14741173]), (292386187, 2, [2, 3, 3, 3, 3, 307, 5879]),
    (2773320623, 5, [2, 2437, 569003]), (72106336199, 7, [2, 13, 2773320623]),
    (213441916511, 13, [2, 5, 73, 292386187]),
    (1257559732178653, 2, [2, 2, 3, 7, 23, 531581, 1224481]),
    (1919519569386763, 2, [2, 3, 7, 19, 47, 47, 127, 8574133]),
    (31757755568855353, 10, [2, 2, 2, 3, 31, 107, 223, 4153, 430751]),
    (4434155615661930479, 17, [2, 41, 43, 1257559732178653]),
    (3044861653679985063343, 5, [2, 3, 11, 30703, 82163, 132667, 137849]),
    (172054593956031949258510691, 2, [2, 5, 1361, 2851, 4434155615661930479]),
    (198211423230930754013084525763697, 5, [2, 2, 2, 2, 3, 23, 58964693, 3044861653679985063343]),
    (75445702479781427272750846543864801, 7, [2, 2, 2, 2, 2, 3, 3, 5, 5, 75707, 72106336199,
      1919519569386763]),
    (19757330305831588566944191468367130476339, 2, [2, 269, 213441916511,
      172054593956031949258510691]),
    (276602624281642239937218680557139826668747, 2, [2, 7,
      19757330305831588566944191468367130476339]),
    (74058212732561358302231226437062788676166966415465897661863160754340907, 2, [2, 3, 353, 57467,
      132049, 1923133, 31757755568855353, 75445702479781427272750846543864801]),
    (Field.prime, 2, [2, 2, 3, 65147,
      74058212732561358302231226437062788676166966415465897661863160754340907]),
    (order, 2, [2, 2, 3, 11, 198211423230930754013084525763697,
      276602624281642239937218680557139826668747])
  ]

private theorem prime_of_mem_primeSteps {n : Nat}
    (member : (primeSteps.map Prod.fst).contains n = true) : n.Prime := by
  have two : ∀ q ∈ [2], q.Prime := by
    simp only [List.mem_singleton, forall_eq]
    exact Nat.prime_two
  have proves : provesPrimes [2] primeSteps = true := by decide +kernel
  have primes := prime_of_provesPrimes proves two
  obtain ⟨step, inside, rfl⟩ := List.mem_map.mp (List.contains_iff_mem.mp member)
  exact primes step inside

theorem prime_prime : Field.prime.Prime := prime_of_mem_primeSteps (by decide +kernel)

theorem order_prime : order.Prime := prime_of_mem_primeSteps (by decide +kernel)

end DevicePairing.Ed25519
