import DevicePairing.Text.Utf8

set_option autoImplicit false
set_option relaxedAutoImplicit false

namespace DevicePairing.Text.Utf8

open DevicePairing (Bytes)

theorem toNat_octet {n : Nat} (h : n < 256) : (UInt8.ofNat n).toNat = n := by
  rw [UInt8.toNat_ofNat', Nat.mod_eq_of_lt h]

private theorem le_octet {k n : Nat} (hk : k < 256) (h : n < 256) :
    UInt8.ofNat k ≤ UInt8.ofNat n ↔ k ≤ n := by
  rw [UInt8.le_iff_toNat_le, toNat_octet hk, toNat_octet h]

private theorem lt_octet {k n : Nat} (hk : k < 256) (h : n < 256) :
    UInt8.ofNat n < UInt8.ofNat k ↔ n < k := by
  rw [UInt8.lt_iff_toNat_lt, toNat_octet hk, toNat_octet h]

private theorem octet_inj {k n : Nat} (hk : k < 256) (h : n < 256) :
    UInt8.ofNat n = UInt8.ofNat k ↔ n = k := by
  rw [← UInt8.toNat_inj, toNat_octet hk, toNat_octet h]

private theorem isTail_octet (n : Nat) : isTail (UInt8.ofNat (0x80 + n % 64)) = true := by
  have low : UInt8.ofNat 0x80 ≤ UInt8.ofNat (0x80 + n % 64) :=
    (le_octet (by decide) (by omega)).mpr (by omega)
  have high : UInt8.ofNat (0x80 + n % 64) ≤ UInt8.ofNat 0xBF :=
    (le_octet (by omega) (by decide)).mpr (by omega)
  exact Bool.and_eq_true_iff.mpr ⟨decide_eq_true low, decide_eq_true high⟩

private theorem toNat_range (c : Char) : c.toNat < 0xD800 ∨ 0xDFFF < c.toNat ∧ c.toNat < 0x110000 :=
  c.valid

private theorem ofNat_toNat {c : Char} {n : Nat} (h : n = c.toNat) : Char.ofNat n = c := by
  rw [h, Char.ofNat_toNat]

private theorem step_one {c : Char} (h : c.toNat < 0x80) (rest : Bytes) :
    step (UInt8.ofNat c.toNat) rest = .char c 1 := by
  have first : UInt8.ofNat c.toNat < 0x80 := (lt_octet (k := 0x80) (by decide) (by omega)).mpr h
  unfold step
  rw [if_pos first, ofNat_toNat (toNat_octet (by omega))]

private theorem step_two {c : Char} (h : ¬ c.toNat < 0x80) (h' : c.toNat < 0x800) (rest : Bytes) :
    step (UInt8.ofNat (0xC0 + c.toNat / 64)) (UInt8.ofNat (0x80 + c.toNat % 64) :: rest) =
      .char c 2 := by
  have bound : 0xC0 + c.toNat / 64 < 256 := by omega
  have less : ∀ k, k < 0xC3 → ¬ UInt8.ofNat (0xC0 + c.toNat / 64) < UInt8.ofNat k :=
    fun k small less => absurd ((lt_octet (by omega) bound).mp less) (by omega)
  have first : ¬ UInt8.ofNat (0xC0 + c.toNat / 64) < 0x80 := less 0x80 (by decide)
  have second : ¬ UInt8.ofNat (0xC0 + c.toNat / 64) < 0xC2 := less 0xC2 (by decide)
  have third : UInt8.ofNat (0xC0 + c.toNat / 64) < 0xE0 :=
    (lt_octet (k := 0xE0) (by decide) bound).mpr (by omega)
  have char : charOfTwo (UInt8.ofNat (0xC0 + c.toNat / 64)) (UInt8.ofNat (0x80 + c.toNat % 64)) = c := by
    rw [charOfTwo, toNat_octet bound, toNat_octet (by omega)]
    exact ofNat_toNat (by omega)
  unfold step
  rw [if_neg first, if_neg second, if_pos third]
  simp only [isTail_octet, if_true, char]

private theorem isSecondOfThree_octet {n : Nat} (h : 0x800 ≤ n) (h' : n < 0x10000)
    (valid : n < 0xD800 ∨ 0xDFFF < n) :
    isSecondOfThree (UInt8.ofNat (0xE0 + n / 4096)) (UInt8.ofNat (0x80 + n / 64 % 64)) = true := by
  have bound : 0xE0 + n / 4096 < 256 := by omega
  have bound' : 0x80 + n / 64 % 64 < 256 := by omega
  unfold isSecondOfThree
  split
  · rename_i least
    have least := (octet_inj (k := 0xE0) (by decide) bound).mp least
    exact Bool.and_eq_true_iff.mpr
      ⟨decide_eq_true ((le_octet (k := 0xA0) (by decide) bound').mpr (by omega)),
        decide_eq_true ((le_octet (n := 0xBF) bound' (by decide)).mpr (by omega))⟩
  · split
    · rename_i surrogate
      have surrogate := (octet_inj (k := 0xED) (by decide) bound).mp surrogate
      exact Bool.and_eq_true_iff.mpr
        ⟨decide_eq_true ((le_octet (k := 0x80) (by decide) bound').mpr (by omega)),
          decide_eq_true ((le_octet (n := 0x9F) bound' (by decide)).mpr (by omega))⟩
    · exact isTail_octet (n / 64)

private theorem step_three {c : Char} (h : ¬ c.toNat < 0x800) (h' : c.toNat < 0x10000)
    (rest : Bytes) :
    step (UInt8.ofNat (0xE0 + c.toNat / 4096))
        (UInt8.ofNat (0x80 + c.toNat / 64 % 64) :: UInt8.ofNat (0x80 + c.toNat % 64) :: rest) =
      .char c 3 := by
  have valid := toNat_range c
  have bound : 0xE0 + c.toNat / 4096 < 256 := by omega
  have less : ∀ k, k < 0xE1 → ¬ UInt8.ofNat (0xE0 + c.toNat / 4096) < UInt8.ofNat k :=
    fun k small less => absurd ((lt_octet (by omega) bound).mp less) (by omega)
  have first : ¬ UInt8.ofNat (0xE0 + c.toNat / 4096) < 0x80 := less 0x80 (by decide)
  have second : ¬ UInt8.ofNat (0xE0 + c.toNat / 4096) < 0xC2 := less 0xC2 (by decide)
  have third : ¬ UInt8.ofNat (0xE0 + c.toNat / 4096) < 0xE0 := less 0xE0 (by decide)
  have fourth : UInt8.ofNat (0xE0 + c.toNat / 4096) < 0xF0 :=
    (lt_octet (k := 0xF0) (by decide) bound).mpr (by omega)
  have char : charOfThree (UInt8.ofNat (0xE0 + c.toNat / 4096))
      (UInt8.ofNat (0x80 + c.toNat / 64 % 64)) (UInt8.ofNat (0x80 + c.toNat % 64)) = c := by
    rw [charOfThree, toNat_octet bound, toNat_octet (by omega), toNat_octet (by omega)]
    exact ofNat_toNat (by omega)
  unfold step
  rw [if_neg first, if_neg second, if_neg third, if_pos fourth]
  simp only [isSecondOfThree_octet (Nat.not_lt.mp h) h' (by omega), isTail_octet, if_true, char]

private theorem isSecondOfFour_octet {n : Nat} (h : 0x10000 ≤ n) (h' : n < 0x110000) :
    isSecondOfFour (UInt8.ofNat (0xF0 + n / 262144))
    (UInt8.ofNat (0x80 + n / 4096 % 64)) = true := by
  have bound : 0xF0 + n / 262144 < 256 := by omega
  have bound' : 0x80 + n / 4096 % 64 < 256 := by omega
  unfold isSecondOfFour
  split
  · rename_i least
    have least := (octet_inj (k := 0xF0) (by decide) bound).mp least
    exact Bool.and_eq_true_iff.mpr
      ⟨decide_eq_true ((le_octet (k := 0x90) (by decide) bound').mpr (by omega)),
        decide_eq_true ((le_octet (n := 0xBF) bound' (by decide)).mpr (by omega))⟩
  · split
    · rename_i last
      have last := (octet_inj (k := 0xF4) (by decide) bound).mp last
      exact Bool.and_eq_true_iff.mpr
        ⟨decide_eq_true ((le_octet (k := 0x80) (by decide) bound').mpr (by omega)),
          decide_eq_true ((le_octet (n := 0x8F) bound' (by decide)).mpr (by omega))⟩
    · exact isTail_octet (n / 4096)

private theorem step_four {c : Char} (h : ¬ c.toNat < 0x10000) (rest : Bytes) :
    step (UInt8.ofNat (0xF0 + c.toNat / 262144))
        (UInt8.ofNat (0x80 + c.toNat / 4096 % 64) :: UInt8.ofNat (0x80 + c.toNat / 64 % 64) ::
          UInt8.ofNat (0x80 + c.toNat % 64) :: rest) =
      .char c 4 := by
  have valid := toNat_range c
  have bound : 0xF0 + c.toNat / 262144 < 256 := by omega
  have less : ∀ k, k < 0xF1 → ¬ UInt8.ofNat (0xF0 + c.toNat / 262144) < UInt8.ofNat k :=
    fun k small less => absurd ((lt_octet (by omega) bound).mp less) (by omega)
  have first : ¬ UInt8.ofNat (0xF0 + c.toNat / 262144) < 0x80 := less 0x80 (by decide)
  have second : ¬ UInt8.ofNat (0xF0 + c.toNat / 262144) < 0xC2 := less 0xC2 (by decide)
  have third : ¬ UInt8.ofNat (0xF0 + c.toNat / 262144) < 0xE0 := less 0xE0 (by decide)
  have fourth : ¬ UInt8.ofNat (0xF0 + c.toNat / 262144) < 0xF0 := less 0xF0 (by decide)
  have fifth : UInt8.ofNat (0xF0 + c.toNat / 262144) < 0xF5 :=
    (lt_octet (k := 0xF5) (by decide) bound).mpr (by omega)
  have char : charOfFour (UInt8.ofNat (0xF0 + c.toNat / 262144))
      (UInt8.ofNat (0x80 + c.toNat / 4096 % 64)) (UInt8.ofNat (0x80 + c.toNat / 64 % 64))
      (UInt8.ofNat (0x80 + c.toNat % 64)) = c := by
    rw [charOfFour, toNat_octet bound, toNat_octet (by omega), toNat_octet (by omega),
      toNat_octet (by omega)]
    exact ofNat_toNat (by omega)
  unfold step
  rw [if_neg first, if_neg second, if_neg third, if_neg fourth, if_pos fifth]
  simp only [isSecondOfFour_octet (Nat.not_lt.mp h) (by omega), isTail_octet, if_true, char]

private theorem step_encodeChar (c : Char) : ∃ a tail, encodeChar c = a :: tail ∧
    ∀ rest, step a (tail ++ rest) = .char c (tail.length + 1) := by
  dsimp only [encodeChar]
  split
  · exact ⟨_, _, rfl, fun rest => step_one (by assumption) rest⟩
  · split
    · exact ⟨_, _, rfl, fun rest => step_two (by assumption) (by assumption) rest⟩
    · split
      · exact ⟨_, _, rfl, fun rest => step_three (by assumption) (by assumption) rest⟩
      · exact ⟨_, _, rfl, fun rest => step_four (by assumption) rest⟩

private theorem decodeFrom_encode (offset : Nat) (s : List Char) :
    decodeFrom offset (encode s) = .ok s := by
  induction s generalizing offset with
  | nil => rw [encode, List.flatMap_nil, decodeFrom]
  | cons c s ih =>
    obtain ⟨a, tail, written, read⟩ := step_encodeChar c
    rw [encode, List.flatMap_cons, written, List.cons_append, decodeFrom, read]
    simp only [Nat.add_sub_cancel, List.drop_left]
    rw [← encode, ih]
    rfl

/-- A text survives being written and read back. -/
theorem toString_ofString (s : String) : toString (ofString s) = .ok s := by
  rw [toString, ofString, decode, decodeFrom_encode]
  exact congrArg Except.ok (String.ofList_toList)

private theorem toNat_char {n : Nat} (valid : n < 0xD800 ∨ 0xDFFF < n ∧ n < 0x110000) :
    (Char.ofNat n).toNat = n := by
  have known : n.isValidChar := valid
  rw [Char.ofNat, dif_pos known]
  rfl

private theorem octet_toNat {x : UInt8} {n : Nat} (h : n = x.toNat) : UInt8.ofNat n = x := by
  rw [h, UInt8.ofNat_toNat]

private theorem isTail_bounds {x : UInt8} (h : isTail x = true) :
    0x80 ≤ x.toNat ∧ x.toNat ≤ 0xBF := by
  obtain ⟨low, high⟩ := Bool.and_eq_true_iff.mp h
  exact ⟨UInt8.le_iff_toNat_le.mp (of_decide_eq_true low),
    UInt8.le_iff_toNat_le.mp (of_decide_eq_true high)⟩

private theorem isSecondOfThree_bounds {a b : UInt8} (h : isSecondOfThree a b = true) :
    0x80 ≤ b.toNat ∧ b.toNat ≤ 0xBF ∧ (a.toNat = 0xE0 → 0xA0 ≤ b.toNat) ∧
      (a.toNat = 0xED → b.toNat ≤ 0x9F) := by
  unfold isSecondOfThree at h
  split at h
  · rename_i least
    obtain ⟨low, high⟩ := Bool.and_eq_true_iff.mp h
    have low : 0xA0 ≤ b.toNat := UInt8.le_iff_toNat_le.mp (of_decide_eq_true low)
    have high : b.toNat ≤ 0xBF := UInt8.le_iff_toNat_le.mp (of_decide_eq_true high)
    have least : a.toNat = 0xE0 := congrArg UInt8.toNat least
    omega
  · rename_i least
    have least : a.toNat ≠ 0xE0 := fun same => least (UInt8.toNat_inj.mp same)
    split at h
    · rename_i surrogate
      obtain ⟨low, high⟩ := Bool.and_eq_true_iff.mp h
      have low : 0x80 ≤ b.toNat := UInt8.le_iff_toNat_le.mp (of_decide_eq_true low)
      have high : b.toNat ≤ 0x9F := UInt8.le_iff_toNat_le.mp (of_decide_eq_true high)
      omega
    · rename_i surrogate
      have surrogate : a.toNat ≠ 0xED := fun same => surrogate (UInt8.toNat_inj.mp same)
      have bounds := isTail_bounds h
      omega

private theorem isSecondOfFour_bounds {a b : UInt8} (h : isSecondOfFour a b = true) :
    0x80 ≤ b.toNat ∧ b.toNat ≤ 0xBF ∧ (a.toNat = 0xF0 → 0x90 ≤ b.toNat) ∧
      (a.toNat = 0xF4 → b.toNat ≤ 0x8F) := by
  unfold isSecondOfFour at h
  split at h
  · rename_i least
    obtain ⟨low, high⟩ := Bool.and_eq_true_iff.mp h
    have low : 0x90 ≤ b.toNat := UInt8.le_iff_toNat_le.mp (of_decide_eq_true low)
    have high : b.toNat ≤ 0xBF := UInt8.le_iff_toNat_le.mp (of_decide_eq_true high)
    have least : a.toNat = 0xF0 := congrArg UInt8.toNat least
    omega
  · rename_i least
    have least : a.toNat ≠ 0xF0 := fun same => least (UInt8.toNat_inj.mp same)
    split at h
    · rename_i last
      obtain ⟨low, high⟩ := Bool.and_eq_true_iff.mp h
      have low : 0x80 ≤ b.toNat := UInt8.le_iff_toNat_le.mp (of_decide_eq_true low)
      have high : b.toNat ≤ 0x8F := UInt8.le_iff_toNat_le.mp (of_decide_eq_true high)
      omega
    · rename_i last
      have last : a.toNat ≠ 0xF4 := fun same => last (UInt8.toNat_inj.mp same)
      have bounds := isTail_bounds h
      omega

private theorem encodeChar_one {a : UInt8} (h : a.toNat < 0x80) :
    encodeChar (Char.ofNat a.toNat) = [a] := by
  have number := toNat_char (n := a.toNat) (by omega)
  simp only [encodeChar, number, if_pos h, octet_toNat rfl]

private theorem encodeChar_two {a b : UInt8} (low : 0xC2 ≤ a.toNat) (high : a.toNat < 0xE0)
    (tail : isTail b = true) : encodeChar (charOfTwo a b) = [a, b] := by
  have bounds := isTail_bounds tail
  have number := toNat_char (n := (a.toNat - 0xC0) * 64 + (b.toNat - 0x80)) (by omega)
  simp only [encodeChar, charOfTwo, number]
  rw [if_neg (by omega), if_pos (by omega), octet_toNat (x := a) (by omega),
    octet_toNat (x := b) (by omega)]

private theorem encodeChar_three {a b c : UInt8} (low : 0xE0 ≤ a.toNat) (high : a.toNat < 0xF0)
    (second : isSecondOfThree a b = true) (tail : isTail c = true) :
    encodeChar (charOfThree a b c) = [a, b, c] := by
  have bounds := isSecondOfThree_bounds second
  have bounds' := isTail_bounds tail
  have number := toNat_char
    (n := (a.toNat - 0xE0) * 4096 + (b.toNat - 0x80) * 64 + (c.toNat - 0x80)) (by omega)
  simp only [encodeChar, charOfThree, number]
  rw [if_neg (by omega), if_neg (by omega), if_pos (by omega), octet_toNat (x := a) (by omega),
    octet_toNat (x := b) (by omega), octet_toNat (x := c) (by omega)]

private theorem encodeChar_four {a b c d : UInt8} (low : 0xF0 ≤ a.toNat) (high : a.toNat < 0xF5)
    (second : isSecondOfFour a b = true) (tail : isTail c = true) (tail' : isTail d = true) :
    encodeChar (charOfFour a b c d) = [a, b, c, d] := by
  have bounds := isSecondOfFour_bounds second
  have bounds' := isTail_bounds tail
  have bounds'' := isTail_bounds tail'
  have number := toNat_char
    (n := (a.toNat - 0xF0) * 262144 + (b.toNat - 0x80) * 4096 + (c.toNat - 0x80) * 64 +
      (d.toNat - 0x80)) (by omega)
  simp only [encodeChar, charOfFour, number]
  rw [if_neg (by omega), if_neg (by omega), if_neg (by omega), octet_toNat (x := a) (by omega),
    octet_toNat (x := b) (by omega), octet_toNat (x := c) (by omega),
    octet_toNat (x := d) (by omega)]

private theorem lt_ofNat {x : UInt8} {k : Nat} (small : k < 256) :
    x < UInt8.ofNat k ↔ x.toNat < k := by
  rw [UInt8.lt_iff_toNat_lt, toNat_octet small]

private theorem le_of_not_lt_ofNat {x : UInt8} {k : Nat} (small : k < 256)
    (h : ¬ x < UInt8.ofNat k) : k ≤ x.toNat :=
  Nat.le_of_not_lt fun less => h ((lt_ofNat small).mpr less)

section

variable {a : UInt8} {rest : Bytes} {c : Char} {width : Nat} (one : ¬ a < 0x80) (none : ¬ a < 0xC2)

include one none

private theorem written_of_two (two : a < 0xE0) (h : step a rest = .char c width) :
    ∃ tail, rest = tail ++ rest.drop (width - 1) ∧ encodeChar c = a :: tail := by
  have low : 0xC2 ≤ a.toNat := le_of_not_lt_ofNat (by decide) none
  have high : a.toNat < 0xE0 := (lt_ofNat (by decide)).mp two
  unfold step at h
  rw [if_neg one, if_neg none, if_pos two] at h
  split at h
  · cases h
  · rename_i b _
    split at h
    · rename_i tail
      obtain ⟨rfl, rfl⟩ := Step.char.inj h
      exact ⟨[b], rfl, encodeChar_two low high tail⟩
    · cases h

private theorem written_of_three (two : ¬ a < 0xE0) (three : a < 0xF0)
    (h : step a rest = .char c width) :
    ∃ tail, rest = tail ++ rest.drop (width - 1) ∧ encodeChar c = a :: tail := by
  have low : 0xE0 ≤ a.toNat := le_of_not_lt_ofNat (by decide) two
  have high : a.toNat < 0xF0 := (lt_ofNat (by decide)).mp three
  unfold step at h
  rw [if_neg one, if_neg none, if_neg two, if_pos three] at h
  split at h
  · cases h
  · rename_i b _
    split at h
    · rename_i second
      split at h
      · cases h
      · rename_i c _
        split at h
        · rename_i tail
          obtain ⟨rfl, rfl⟩ := Step.char.inj h
          exact ⟨[b, c], rfl, encodeChar_three low high second tail⟩
        · cases h
    · cases h

private theorem written_of_four (two : ¬ a < 0xE0) (three : ¬ a < 0xF0) (four : a < 0xF5)
    (h : step a rest = .char c width) :
    ∃ tail, rest = tail ++ rest.drop (width - 1) ∧ encodeChar c = a :: tail := by
  have low : 0xF0 ≤ a.toNat := le_of_not_lt_ofNat (by decide) three
  have high : a.toNat < 0xF5 := (lt_ofNat (by decide)).mp four
  unfold step at h
  rw [if_neg one, if_neg none, if_neg two, if_neg three, if_pos four] at h
  split at h
  · cases h
  · rename_i b _
    split at h
    · rename_i second
      split at h
      · cases h
      · rename_i c _
        split at h
        · rename_i tail
          split at h
          · cases h
          · rename_i d _
            split at h
            · rename_i tail'
              obtain ⟨rfl, rfl⟩ := Step.char.inj h
              exact ⟨[b, c, d], rfl, encodeChar_four low high second tail tail'⟩
            · cases h
        · cases h
    · cases h

end

private theorem encodeChar_of_step {a : UInt8} {rest : Bytes} {c : Char} {width : Nat}
    (h : step a rest = .char c width) :
    ∃ tail, rest = tail ++ rest.drop (width - 1) ∧ encodeChar c = a :: tail := by
  by_cases one : a < 0x80
  · unfold step at h
    rw [if_pos one] at h
    obtain ⟨rfl, rfl⟩ := Step.char.inj h
    exact ⟨[], rfl, encodeChar_one ((lt_ofNat (by decide)).mp one)⟩
  by_cases none : a < 0xC2
  · unfold step at h
    rw [if_neg one, if_pos none] at h
    cases h
  by_cases two : a < 0xE0
  · exact written_of_two one none two h
  by_cases three : a < 0xF0
  · exact written_of_three one none two three h
  by_cases four : a < 0xF5
  · exact written_of_four one none two three four h
  · unfold step at h
    rw [if_neg one, if_neg none, if_neg two, if_neg three, if_neg four] at h
    cases h

private theorem encode_of_decodeFrom {offset : Nat} {b : Bytes} {s : List Char}
    (h : decodeFrom offset b = .ok s) : encode s = b := by
  induction offset, b using decodeFrom.induct generalizing s with
  | case1 offset =>
    rw [decodeFrom] at h
    cases h
    rfl
  | case2 offset a rest c width read ih =>
    rw [decodeFrom, read] at h
    obtain ⟨tail, split, written⟩ := encodeChar_of_step read
    cases more : decodeFrom (offset + width) (rest.drop (width - 1)) with
    | error f =>
      simp only [more] at h
      cases h
    | ok s' =>
      simp only [more] at h
      cases h
      rw [encode, List.flatMap_cons, written, ← encode, ih more, List.cons_append, ← split]
  | case3 offset a rest length read =>
    rw [decodeFrom, read] at h
    cases h

theorem ofString_of_toString {b : Bytes} {s : String} (h : toString b = .ok s) :
    ofString s = b := by
  rw [toString, decode] at h
  cases decoded : decodeFrom 0 b with
  | error f =>
    rw [decoded] at h
    cases h
  | ok cs =>
    rw [decoded] at h
    cases h
    rw [ofString, String.toList_ofList, encode_of_decodeFrom decoded]

end DevicePairing.Text.Utf8
