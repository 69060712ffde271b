import DevicePairing.Proofs.Cbor.Payment

set_option autoImplicit false
set_option relaxedAutoImplicit false

namespace DevicePairing.Cbor

open DevicePairing (Bytes Key)
open DevicePairing.Text

namespace Measure

def plain : Measure := ⟨fun _ => 1, fun _ _ _ => Nat.le_refl 1⟩

private theorem length_head_octet (x : UInt8) :
    (head 0 x.toNat).length = if x.toNat < 24 then 1 else 2 := by
  have byte : x.toNat < 256 := x.toNat_lt
  split
  · rename_i small
    rw [head_of_small small]
    rfl
  · rename_i large
    rw [head_of_octet (Nat.le_of_not_lt large) byte]
    rfl

/-- An octet counts what its number takes up. -/
def nested : Measure where
  octet x := (head 0 x.toNat).length
  mono := by
    intro x y less
    rw [length_head_octet, length_head_octet]
    split
    · split <;> omega
    · have large : ¬ y.toNat < 24 := by omega
      exact Nat.le_of_eq (if_neg large).symm

@[simp] theorem total_plain (b : Bytes) : plain.total b = b.length := by
  induction b with
  | nil => rfl
  | cons x b ih =>
    rw [total_cons, ih, List.length_cons]
    exact Nat.add_comm 1 b.length

theorem numbers_plain (b : Bytes) : plain.numbers b = nested.total b := by
  rw [numbers, total_plain, List.length_flatMap]
  rfl

def AtMost (κ : Measure) (k : Nat) : Prop := ∀ x, κ.octet x ≤ k

theorem plain_atMost : plain.AtMost 1 := fun _ => Nat.le_refl 1

theorem nested_atMost : nested.AtMost 2 := by
  intro x
  show (head 0 x.toNat).length ≤ 2
  rw [length_head_octet]
  split <;> omega

section

variable {κ : Measure} {k : Nat} (h : κ.AtMost k)
include h

theorem total_le (b : Bytes) : κ.total b ≤ k * b.length := by
  induction b with
  | nil => exact Nat.zero_le _
  | cons x b ih =>
    have first := h x
    rw [total_cons, List.length_cons, Nat.mul_succ]
    omega

theorem numbers_le (b : Bytes) : κ.numbers b ≤ k * (2 * b.length) := by
  have spelt : (b.flatMap fun x => head 0 x.toNat).length ≤ 2 * b.length := by
    have twice := total_le nested_atMost b
    rwa [← numbers_plain, numbers, total_plain] at twice
  exact Nat.le_trans (total_le h _) (Nat.mul_le_mul_left k spelt)

theorem total_head_le (major n : Nat) : κ.total (head major n) ≤ k * 9 := by
  have short : (head major n).length ≤ 9 := by
    dsimp only [head]
    repeat' split
    all_goals simp
  exact Nat.le_trans (total_le h _) (Nat.mul_le_mul_left k short)

theorem total_writeText_le (s : String) : κ.total (writeText s) ≤ k * 9 + κ.text s := by
  have announced := total_head_le h 3 (Utf8.ofString s).length
  rw [writeText, total_append, text]
  omega

theorem total_writeOctets_le (b : Bytes) : κ.total (writeOctets b) ≤ k * 9 + κ.numbers b := by
  have announced := total_head_le h 4 b.length
  rw [writeOctets, total_append, numbers]
  omega

theorem total_key_le (key : Key) : κ.total (Codec.key.write key) ≤ k * 73 := by
  have spelt := numbers_le h key.octets
  have whole := total_writeOctets_le h key.octets
  rw [key.length_octets] at spelt
  show κ.total (writeOctets key.octets) ≤ k * 73
  omega

end

theorem length_le_nested (b : Bytes) : b.length ≤ nested.total b := by
  induction b with
  | nil => exact Nat.le_refl 0
  | cons x b ih =>
    have some := head_ne_nil 0 x.toNat
    rw [total_cons, List.length_cons]
    show b.length + 1 ≤ (head 0 x.toNat).length + nested.total b
    omega

private theorem length_encode_le (s : List Char) : (Utf8.encode s).length ≤ 4 * s.length := by
  induction s with
  | nil => exact Nat.le_refl 0
  | cons c s ih =>
    have first : (Utf8.encodeChar c).length ≤ 4 := by
      dsimp only [Utf8.encodeChar]
      repeat' split
      all_goals simp
    rw [Utf8.encode, List.flatMap_cons, List.length_append, List.length_cons]
    rw [Utf8.encode] at ih
    omega

/-- A text is counted by its characters, each of which takes up four octets at most. -/
theorem text_le {κ : Measure} {k : Nat} (h : κ.AtMost k) (s : String) :
    κ.text s ≤ k * (4 * s.toList.length) :=
  Nat.le_trans (total_le h _) (Nat.mul_le_mul_left k (length_encode_le s.toList))

def names (κ : Measure) (names : List String) : Nat :=
  (names.map fun name => κ.total (writeText name)).sum

theorem names_le {κ : Measure} {k : Nat} (h : κ.AtMost k) (names : List String) :
    κ.names names ≤ k * plain.names names := by
  induction names with
  | nil => exact Nat.zero_le _
  | cons name names ih =>
    have first := total_le h (writeText name)
    simp only [Measure.names, List.map_cons, List.sum_cons, total_plain, Nat.mul_add] at ih ⊢
    omega

end Measure

def Fields.values (κ : Measure) {αs : List Type} : Fields αs → Tuple αs → Nat
  | .none, _ => 0
  | .field _ codec more, (a, as) => κ.total (codec.write a) + more.values κ as

private theorem Fields.total_write (κ : Measure) {αs : List Type} (fields : Fields αs)
    (as : Tuple αs) : κ.total (fields.write as) = κ.names fields.names + fields.values κ as := by
  induction fields with
  | none => rfl
  | field name codec more ih =>
    obtain ⟨a, as⟩ := as
    have rest := ih as
    simp only [write, names, values, Measure.names, Measure.total_append, List.map_cons,
      List.sum_cons] at rest ⊢
    omega

theorem Codec.total_record (κ : Measure) {αs : List Type} {α : Type} (title : String)
    (fields : Fields αs) (make : Tuple αs → α) (view : α → Tuple αs) (a : α) :
    κ.total (((Codec.record title fields).convert make view).write a) =
      κ.total (head 5 fields.names.length) + κ.names fields.names + fields.values κ (view a) := by
  simp only [Codec.convert, Codec.record, Measure.total_append, Fields.total_write, Nat.add_assoc]

theorem total_writeVariant (κ : Measure) (name : String) (content : Bytes) :
    κ.total (writeVariant name content) = κ.octet 0xA1 + κ.names [name] + κ.total content := by
  have single : head 5 1 = [0xA1] := rfl
  simp [writeVariant, single, Measure.names, Nat.add_assoc]

end DevicePairing.Cbor
