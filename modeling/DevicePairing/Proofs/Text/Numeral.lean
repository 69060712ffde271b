import DevicePairing.Text.Numeral

set_option autoImplicit false
set_option relaxedAutoImplicit false

namespace DevicePairing.Text.Numeral

private theorem readDigits_eq {s : List Char} (digits : ∀ c ∈ s, c.isDigit = true) (n : Nat) :
    readDigits n s = some (Nat.ofDigitChars 10 s n) := by
  induction s generalizing n with
  | nil => rfl
  | cons c s ih =>
    have first : c.isDigit = true := digits c List.mem_cons_self
    rw [readDigits, if_pos first, ih fun d later => digits d (List.mem_cons_of_mem c later),
      Nat.ofDigitChars_cons]
    rfl

theorem read?_write {bound n : Nat} (small : n ≤ bound) :
    read? bound (write n).toList = some n := by
  have digits : ∀ c ∈ Nat.toDigits 10 n, c.isDigit = true :=
    fun c member => Nat.isDigit_of_mem_toDigits (by decide) (by decide) member
  have unsigned : (Nat.toDigits 10 n).head? ≠ some '+' := by
    intro plus
    exact absurd (digits '+' (List.mem_of_mem_head? plus)) (by decide)
  have some_digits : (Nat.toDigits 10 n).isEmpty = false :=
    List.isEmpty_eq_false_iff.mpr Nat.toDigits_ne_nil
  have number : readDigits 0 (Nat.toDigits 10 n) = some n := by
    rw [readDigits_eq digits, Nat.ofDigitChars_toDigits (by decide) (by decide)]
  simp only [read?, write, String.toList_ofList, if_neg unsigned, some_digits, number,
    Option.bind_some, if_pos small]
  rfl

private theorem isDigit_of_readDigits {n m : Nat} {s : List Char} (read : readDigits n s = some m) :
    ∀ c ∈ s, c.isDigit = true := by
  induction s generalizing n with
  | nil => nofun
  | cons c s ih =>
    rw [readDigits] at read
    split at read
    · rename_i digit
      exact List.forall_mem_cons.mpr ⟨digit, ih read⟩
    · cases read

theorem digits_of_read? {bound n : Nat} {s : List Char} (read : read? bound s = some n) :
    n ≤ bound ∧ ∃ digits, digits ≠ [] ∧ (∀ c ∈ digits, c.isDigit = true) ∧
      (s = digits ∨ s = '+' :: digits) := by
  have unsigned : ∀ digits : List Char,
      (if digits.isEmpty then none
        else (readDigits 0 digits).bind fun n => if n ≤ bound then some n else none) = some n →
      n ≤ bound ∧ digits ≠ [] ∧ ∀ c ∈ digits, c.isDigit = true := by
    intro digits read
    split at read
    · cases read
    · rename_i nonempty
      obtain ⟨m, digital, checked⟩ := Option.bind_eq_some_iff.mp read
      split at checked
      · rename_i small
        obtain rfl := Option.some.inj checked
        exact ⟨small, mt List.isEmpty_iff.mpr nonempty, isDigit_of_readDigits digital⟩
      · cases checked
  unfold read? at read
  by_cases signed : s.head? = some '+'
  · rw [if_pos signed] at read
    obtain ⟨small, nonempty, digital⟩ := unsigned _ read
    obtain ⟨digits, rfl⟩ := List.head?_eq_some_iff.mp signed
    exact ⟨small, digits, nonempty, digital, .inr rfl⟩
  · rw [if_neg signed] at read
    obtain ⟨small, nonempty, digital⟩ := unsigned _ read
    exact ⟨small, s, nonempty, digital, .inl rfl⟩

end DevicePairing.Text.Numeral
