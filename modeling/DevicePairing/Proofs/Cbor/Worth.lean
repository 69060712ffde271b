import DevicePairing.Proofs.Cbor.Lawful
import Mathlib.Algebra.GroupWithZero.Nat

set_option autoImplicit false
set_option relaxedAutoImplicit false

/-!
Nothing is read that was not there. Readers are generous, and the same value can be written in many
ways; but the octets that are read for a token never count less than what the token is worth: the
octets of its text, or the shortest head of its number.
-/

namespace DevicePairing.Cbor

open DevicePairing (Bytes)
open DevicePairing.Text
open DevicePairing.Results

/-- A measure of octets by which a larger octet counts no less than a smaller one. -/
structure Measure where
  octet : UInt8 → Nat
  mono : ∀ x y : UInt8, x.toNat ≤ y.toNat → octet x ≤ octet y

namespace Measure

variable (κ : Measure)

/-- What some octets count together. -/
def total (b : Bytes) : Nat := (b.map κ.octet).sum

@[simp] theorem total_nil : κ.total [] = 0 := rfl

@[simp] theorem total_cons (x : UInt8) (b : Bytes) : κ.total (x :: b) = κ.octet x + κ.total b := by
  simp [total]

@[simp] theorem total_append (a b : Bytes) : κ.total (a ++ b) = κ.total a + κ.total b := by
  simp [total]

def text (s : String) : Nat := κ.total (Utf8.ofString s)

/-- What some octets count when each of them is written as a number. -/
def numbers (b : Bytes) : Nat := κ.total (b.flatMap fun x => head 0 x.toNat)

theorem numbers_cons (x : UInt8) (b : Bytes) :
    κ.numbers (x :: b) = κ.total (head 0 x.toNat) + κ.numbers b := by
  simp [numbers]

end Measure

theorem head_of_small {n : Nat} (h : n < 24) : head 0 n = [UInt8.ofNat n] := by
  simp only [head, if_pos h, Nat.mul_zero, Nat.zero_add]

theorem head_of_octet {n : Nat} (h : 24 ≤ n) (h' : n < 256) : head 0 n = [24, UInt8.ofNat n] := by
  have large : ¬ n < 24 := by omega
  have byte : n < 1 <<< 8 := h'
  simp only [head, if_neg large, if_pos byte]
  rfl

variable {κ : Measure}

/-- Between two places octets were read that count at least `n`. -/
def Spent (κ : Measure) (c c' : Cursor) (n : Nat) : Prop := κ.total c'.rest + n ≤ κ.total c.rest

namespace Spent

variable {c c' c'' : Cursor} {n m : Nat}

theorem refl (c : Cursor) : Spent κ c c 0 := Nat.le_refl _

theorem trans (h : Spent κ c c' n) (h' : Spent κ c' c'' m) : Spent κ c c'' (n + m) := by
  unfold Spent at *
  omega

theorem mono (h : Spent κ c c' n) (less : m ≤ n) : Spent κ c c' m := by
  unfold Spent at *
  omega

theorem after (h : Spent κ c c' n) (h' : Spent κ c' c'' m) : Spent κ c c'' m :=
  (h.trans h').mono (Nat.le_add_left m n)

theorem of_rest {b : Bytes} (split : c.rest = b ++ c'.rest) : Spent κ c c' (κ.total b) := by
  unfold Spent
  rw [split, Measure.total_append]
  omega

end Spent

namespace Cursor

variable {c c' : Cursor}

private theorem next_eq_ok {x : UInt8} (h : c.next = .ok (x, c')) : c.rest = x :: c'.rest := by
  unfold next at h
  split at h
  · cases h
  · rename_i y rest split
    cases h
    exact split

private theorem take_eq_ok {n : Nat} {b : Bytes} (h : c.take n = .ok (b, c')) :
    b.length = n ∧ c.rest = b ++ c'.rest := by
  unfold take at h
  split at h
  · cases h
  · rename_i front rest split
    cases h
    exact Bytes.split?_eq_some split

private theorem number_eq_ok {n k : Nat} (h : c.number n = .ok (k, c')) :
    ∃ b, b.length = n ∧ c.rest = b ++ c'.rest ∧ k = Bytes.toNatBE b := by
  obtain ⟨⟨b, c₁⟩, taken, h⟩ := bind_eq_ok.mp h
  cases h
  obtain ⟨length, split⟩ := take_eq_ok taken
  exact ⟨b, length, split, rfl⟩

private theorem argument_eq_ok {info : Nat} {n : Option Nat} (h : c.argument info = .ok (n, c')) :
    (info < 24 ∧ n = some info ∧ c' = c) ∨
      (24 ≤ info ∧ ∃ b, 0 < b.length ∧ c.rest = b ++ c'.rest ∧ n = some (Bytes.toNatBE b)) ∨
      (info = 31 ∧ n = none ∧ c' = c) := by
  unfold argument at h
  split at h
  · rename_i small
    cases h
    exact .inl ⟨small, rfl, rfl⟩
  · rename_i large
    split at h
    · obtain ⟨⟨k, c₁⟩, number, h⟩ := bind_eq_ok.mp h
      cases h
      obtain ⟨b, length, split, rfl⟩ := number_eq_ok number
      refine .inr (.inl ⟨Nat.le_of_not_lt large, b, ?_, split, rfl⟩)
      rw [length, Nat.one_shiftLeft]
      exact Nat.two_pow_pos _
    · split at h
      · rename_i open_
        cases h
        exact .inr (.inr ⟨open_, rfl, rfl⟩)
      · cases h

theorem argument_spent {info : Nat} {n : Option Nat} (h : c.argument info = .ok (n, c')) :
    Spent κ c c' 0 := by
  rcases argument_eq_ok h with ⟨-, -, rfl⟩ | ⟨-, b, -, split, -⟩ | ⟨-, -, rfl⟩
  · exact .refl c'
  · exact (Spent.of_rest split).mono (Nat.zero_le _)
  · exact .refl c'

end Cursor

namespace Token

def worth (κ : Measure) : Token → Nat
  | .unsigned n => if n < 256 then κ.total (head 0 n) else 0
  | .octets b => κ.total b
  | .text s => κ.text s
  | _ => 0

private theorem readChunks_spent {major fuel : Nat} {c c' : Cursor} {b : Bytes}
    (h : readChunks major fuel c = .ok (b, c')) : Spent κ c c' (κ.total b) := by
  induction fuel generalizing c b with
  | zero => cases h
  | succ fuel ih =>
    obtain ⟨⟨x, c₁⟩, next, h⟩ := bind_eq_ok.mp h
    have first : Spent κ c c₁ (κ.total [x]) := .of_rest (Cursor.next_eq_ok next)
    simp only at h
    split at h
    · cases h
      exact first.mono (Nat.zero_le _)
    · split at h
      · obtain ⟨⟨n, c₂⟩, argument, h⟩ := bind_eq_ok.mp h
        obtain ⟨⟨chunk, c₃⟩, taken, h⟩ := bind_eq_ok.mp h
        obtain ⟨⟨more, c₄⟩, rest, h⟩ := bind_eq_ok.mp h
        cases h
        have here : Spent κ c₂ c₃ (κ.total chunk) := .of_rest (Cursor.take_eq_ok taken).2
        rw [Measure.total_append]
        exact (first.after (Cursor.argument_spent argument)).after (here.trans (ih rest))
      · cases h

private theorem readString_spent {major : Nat} {length : Option Nat} {c c' : Cursor} {b : Bytes}
    (h : readString major length c = .ok (b, c')) : Spent κ c c' (κ.total b) := by
  cases length with
  | some n => exact .of_rest (Cursor.take_eq_ok h).2
  | none => exact readChunks_spent h

private theorem toText_eq_ok {b : Bytes} {c : Cursor} {s : String} (h : toText b c = .ok s) :
    Utf8.ofString s = b := by
  unfold toText at h
  split at h
  · rename_i t read
    cases h
    exact Utf8.ofString_of_toString read
  · cases h

private theorem octet_le_total {b : Bytes} (some : 0 < b.length) (small : Bytes.toNatBE b < 256) :
    κ.octet (UInt8.ofNat (Bytes.toNatBE b)) ≤ κ.total b := by
  obtain ⟨init, x, rfl⟩ : ∃ init x, b = init ++ [x] :=
    ⟨_, _, (List.dropLast_concat_getLast (List.length_pos_iff.mp some)).symm⟩
  have value : Bytes.toNatBE (init ++ [x]) = 256 * Bytes.toNatBE init + x.toNat := by
    simp [Bytes.toNatBE]
  have last : UInt8.ofNat (Bytes.toNatBE (init ++ [x])) = x := by
    have number : Bytes.toNatBE (init ++ [x]) = x.toNat := by omega
    rw [number, UInt8.ofNat_toNat]
  rw [last, Measure.total_append, Measure.total_cons, Measure.total_nil]
  omega

private theorem unsigned_spent {c c₁ c' : Cursor} {x : UInt8} {n : Option Nat}
    (next : c.rest = x :: c₁.rest) (major : x.toNat / 32 = 0)
    (argument : c₁.argument (x.toNat % 32) = .ok (n, c')) (known : x.toNat % 32 ≠ 31) :
    Spent κ c c' ((Token.unsigned (n.getD 0)).worth κ) := by
  have first : Spent κ c c₁ (κ.octet x) := by
    have whole : Spent κ c c₁ (κ.total [x]) := .of_rest next
    rwa [Measure.total_cons, Measure.total_nil, Nat.add_zero] at whole
  have info : x.toNat % 32 = x.toNat := Nat.mod_eq_of_lt (by omega)
  rw [info] at argument known
  rcases Cursor.argument_eq_ok argument with
    ⟨small, rfl, rfl⟩ | ⟨large, b, some, split, rfl⟩ | ⟨open_, -⟩
  · have byte : x.toNat < 256 := x.toNat_lt
    rw [worth, Option.getD_some, if_pos byte, head_of_small small, UInt8.ofNat_toNat,
      Measure.total_cons, Measure.total_nil, Nat.add_zero]
    exact first
  · have whole : Spent κ c c' (κ.octet x + κ.total b) := first.trans (.of_rest split)
    refine whole.mono ?_
    rw [worth, Option.getD_some]
    by_cases byte : Bytes.toNatBE b < 256
    · have last := octet_le_total (κ := κ) some byte
      rw [if_pos byte]
      by_cases short : Bytes.toNatBE b < 24
      · rw [head_of_small short, Measure.total_cons, Measure.total_nil]
        omega
      · have initial : κ.octet 24 ≤ κ.octet x := κ.mono 24 x large
        rw [head_of_octet (Nat.le_of_not_lt short) byte, Measure.total_cons, Measure.total_cons,
          Measure.total_nil]
        omega
    · rw [if_neg byte]
      exact Nat.zero_le _
  · exact absurd open_ known

private theorem readSimple_spent {info : Nat} {c c' : Cursor} {t : Token}
    (h : readSimple info c = .ok (t, c')) : Spent κ c c' (t.worth κ) := by
  have float : ∀ {width : Nat} {make : Nat → Binary64},
      (c.number width >>= fun found => .ok (Token.float (make found.1), found.2)) = .ok (t, c') →
        Spent κ c c' (t.worth κ) := by
    intro width make h
    obtain ⟨⟨n, c₁⟩, number, h⟩ := bind_eq_ok.mp h
    cases h
    obtain ⟨b, -, split, -⟩ := Cursor.number_eq_ok number
    exact (Spent.of_rest split).mono (Nat.zero_le _)
  unfold readSimple at h
  split at h
  · cases h; exact .refl _
  · cases h; exact .refl _
  · cases h; exact .refl _
  · cases h; exact .refl _
  · exact float h
  · exact float h
  · exact float h
  · cases h
  · cases h

theorem read_spent {depth inside : Nat} {c c' : Cursor} {t : Token}
    (h : Token.read depth c = .ok (t, inside, c')) : Spent κ c c' (t.worth κ) := by
  induction depth generalizing c inside with
  | zero => cases h
  | succ depth ih =>
    rw [Token.read] at h
    obtain ⟨⟨x, c₁⟩, next, h⟩ := bind_eq_ok.mp h
    have initial := Cursor.next_eq_ok next
    have first : Spent κ c c₁ (κ.total [x]) := .of_rest initial
    simp only at h
    split at h
    · obtain ⟨⟨u, c₂⟩, simple, h⟩ := bind_eq_ok.mp h
      cases h
      exact first.after (readSimple_spent simple)
    · split at h
      · cases h
      · rename_i known
        obtain ⟨⟨n, c₂⟩, argument, h⟩ := bind_eq_ok.mp h
        have before : Spent κ c c₂ 0 := first.after (Cursor.argument_spent argument)
        simp only at h
        split at h
        · rename_i major
          cases h
          exact unsigned_spent initial major argument fun open_ => known ⟨open_, by omega⟩
        · cases h
          exact before
        · obtain ⟨⟨b, c₃⟩, string, h⟩ := bind_eq_ok.mp h
          cases h
          exact before.after (readString_spent string)
        · split at h
          · cases h
          · obtain ⟨⟨b, c₃⟩, string, h⟩ := bind_eq_ok.mp h
            obtain ⟨s, spelt, h⟩ := bind_eq_ok.mp h
            cases h
            rw [worth, Measure.text, toText_eq_ok spelt]
            exact before.after (readString_spent string)
        · obtain ⟨inside', -, h⟩ := bind_eq_ok.mp h
          cases h
          exact before
        · obtain ⟨inside', -, h⟩ := bind_eq_ok.mp h
          cases h
          exact before
        · obtain ⟨inside', -, h⟩ := bind_eq_ok.mp h
          exact before.after (ih h)

end Token

end DevicePairing.Cbor
