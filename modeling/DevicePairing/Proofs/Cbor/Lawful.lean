import DevicePairing.Cbor.Choice
import DevicePairing.Cbor.Record
import DevicePairing.Proofs.Results
import DevicePairing.Proofs.Text.Utf8

set_option autoImplicit false
set_option relaxedAutoImplicit false

namespace DevicePairing

open DevicePairing.Text.Utf8 (toNat_octet)

namespace Bytes

theorem split?_append (b rest : Bytes) : split? b.length (b ++ rest) = some (b, rest) := by
  induction b with
  | nil => rfl
  | cons x b ih => simp only [List.length_cons, List.cons_append, split?, ih, Option.map_some]

theorem split?_eq_some {n : Nat} {b front rest : Bytes} (h : split? n b = some (front, rest)) :
    front.length = n ∧ b = front ++ rest := by
  induction n generalizing b front with
  | zero =>
    cases h
    exact ⟨rfl, rfl⟩
  | succ n ih =>
    cases b with
    | nil => cases h
    | cons x b =>
      obtain ⟨⟨front', rest'⟩, found, same⟩ := Option.map_eq_some_iff.mp h
      cases same
      obtain ⟨rfl, rfl⟩ := ih found
      exact ⟨rfl, rfl⟩

theorem split?_eq_none {n : Nat} {b : Bytes} (h : split? n b = none) : b.length < n := by
  rcases Nat.lt_or_ge b.length n with short | long
  · exact short
  · have found := split?_append (b.take n) (b.drop n)
    rw [List.length_take_of_le long, List.take_append_drop, h] at found
    cases found

theorem toNatBE_bigEndian {width n : Nat} (h : n < 1 <<< (8 * width)) :
    toNatBE (bigEndian width n) = n := by
  induction width generalizing n with
  | zero =>
    rw [bigEndian]
    exact (Nat.lt_one_iff.mp h).symm
  | succ width ih =>
    have high : n / 256 < 1 <<< (8 * width) := by
      rw [Nat.mul_succ, Nat.shiftLeft_add] at h
      omega
    rw [bigEndian, toNatBE, List.foldl_append, ← toNatBE, ih high]
    simp only [List.foldl_cons, List.foldl_nil, UInt8.toNat_ofNat']
    omega

end Bytes

namespace Cbor

open DevicePairing.Results
open DevicePairing.Text

theorem head_cases {major n : Nat} (small : major < 7) (h : n < 1 <<< 64) : ∃ x tail,
    head major n = x :: tail ∧ x.toNat / 32 = major ∧ x.toNat % 32 ≤ 27 ∧
      ∀ rest offset, Cursor.argument ⟨tail ++ rest, offset⟩ (x.toNat % 32) =
        .ok (some n, ⟨rest, offset + tail.length⟩) := by
  have wide : ∀ k, k < 4 → n < 1 <<< (8 * (1 <<< k)) → ∃ x tail,
      UInt8.ofNat (32 * major + (24 + k)) :: Bytes.bigEndian (1 <<< k) n = x :: tail ∧
        x.toNat / 32 = major ∧ x.toNat % 32 ≤ 27 ∧
        ∀ rest offset, Cursor.argument ⟨tail ++ rest, offset⟩ (x.toNat % 32) =
          .ok (some n, ⟨rest, offset + tail.length⟩) := by
    intro k few fits
    have octet : (UInt8.ofNat (32 * major + (24 + k))).toNat = 32 * major + (24 + k) :=
      toNat_octet (by omega)
    have info : (32 * major + (24 + k)) % 32 = 24 + k := by omega
    refine ⟨_, _, rfl, ?_, ?_, fun rest offset => ?_⟩
    · omega
    · omega
    · have taken := Bytes.split?_append (Bytes.bigEndian (1 <<< k) n) rest
      rw [Bytes.length_bigEndian] at taken
      rw [octet, info, Cursor.argument, if_neg (by omega), if_pos (by omega), Nat.add_sub_cancel_left]
      simp only [Cursor.number, Cursor.take, taken, ok_bind, Bytes.toNatBE_bigEndian fits,
        Cursor.advance, Bytes.length_bigEndian]
  dsimp only [head]
  split
  · rename_i tiny
    have octet : (UInt8.ofNat (32 * major + n)).toNat = 32 * major + n := toNat_octet (by omega)
    have info : (32 * major + n) % 32 = n := by omega
    refine ⟨_, _, rfl, ?_, ?_, fun rest offset => ?_⟩
    · omega
    · omega
    · rw [octet, info, Cursor.argument, if_pos tiny]
      rfl
  · split
    · exact wide 0 (by decide) (by omega)
    · split
      · exact wide 1 (by decide) (by omega)
      · split
        · exact wide 2 (by decide) (by omega)
        · exact wide 3 (by decide) (by omega)

theorem head_ne_nil (major n : Nat) : 0 < (head major n).length := by
  dsimp only [head]
  repeat' split
  all_goals exact Nat.succ_pos _

section

variable {depth n offset : Nat} {rest : Bytes}

private theorem read_head (major : Nat) (rest : Bytes) (offset : Nat) (small : major < 6)
    (h : n < 1 <<< 64) :
    ∃ x tail, head major n = x :: tail ∧ x.toNat / 32 = major ∧
      ¬ (x.toNat % 32 = 31 ∧ (major ≤ 1 ∨ major = 6)) ∧
      Cursor.next ⟨head major n ++ rest, offset⟩ = .ok (x, ⟨tail ++ rest, offset + 1⟩) ∧
      Cursor.argument ⟨tail ++ rest, offset + 1⟩ (x.toNat % 32) =
        .ok (some n, ⟨rest, offset + (head major n).length⟩) := by
  obtain ⟨x, tail, written, high, low, argument⟩ := head_cases (Nat.lt_succ_of_lt small) h
  refine ⟨x, tail, written, high, by omega, ?_, ?_⟩
  · rw [written]
    rfl
  · rw [argument, written, List.length_cons, Nat.add_assoc, Nat.add_comm 1]

private theorem read_unsigned (h : n < 1 <<< 64) :
    Token.read (depth + 1) ⟨head 0 n ++ rest, offset⟩ =
      .ok (.unsigned n, depth + 1, ⟨rest, offset + (head 0 n).length⟩) := by
  obtain ⟨x, tail, -, high, open_, next, argument⟩ :=
    read_head 0 rest offset (by decide) h
  rw [Token.read]
  simp only [next, ok_bind, high, argument, if_neg open_]
  rfl

private theorem read_array (h : n < 1 <<< 64) :
    Token.read (depth + 2) ⟨head 4 n ++ rest, offset⟩ =
      .ok (.array (.definite n), depth + 1, ⟨rest, offset + (head 4 n).length⟩) := by
  obtain ⟨x, tail, -, high, open_, next, argument⟩ :=
    read_head 4 rest offset (by decide) h
  rw [Token.read]
  simp only [next, ok_bind, high, argument, if_neg open_]
  rfl

theorem read_map (h : n < 1 <<< 64) :
    Token.read (depth + 2) ⟨head 5 n ++ rest, offset⟩ =
      .ok (.map (.definite n), depth + 1, ⟨rest, offset + (head 5 n).length⟩) := by
  obtain ⟨x, tail, -, high, open_, next, argument⟩ :=
    read_head 5 rest offset (by decide) h
  rw [Token.read]
  simp only [next, ok_bind, high, argument, if_neg open_]
  rfl

theorem read_text (s : String) (depth : Nat) (rest : Bytes) {offset : Nat}
    (h : offset + (writeText s).length < 1 <<< 64) :
    Token.read (depth + 1) ⟨writeText s ++ rest, offset⟩ =
      .ok (.text s, depth + 1, ⟨rest, offset + (writeText s).length⟩) := by
  simp only [writeText, List.length_append] at h
  obtain ⟨x, tail, -, high, open_, next, argument⟩ :=
    read_head 3 (Utf8.ofString s ++ rest) offset (n := (Utf8.ofString s).length) (by decide)
      (by omega)
  have counted : ¬ 1 <<< 64 ≤ offset + (head 3 (Utf8.ofString s).length).length +
      (Utf8.ofString s).length := by omega
  rw [Token.read]
  simp only [writeText, List.append_assoc, next, ok_bind, high, argument, if_neg open_,
    Option.getD_some, if_neg counted, Token.readString, Cursor.take, Bytes.split?_append,
    Token.toText, Utf8.toString_ofString, Cursor.advance]
  simp only [List.length_append, Nat.add_assoc]
  rfl

end

/-- A reader takes the octets to the value, with containers opened inside one another up to the
given number. -/
def Reads {α : Type} (read : Reader α) (levels : Nat) (b : Bytes) (a : α) : Prop :=
  ∀ depth rest offset, levels < depth → offset + b.length < 1 <<< 64 →
    read depth ⟨b ++ rest, offset⟩ = .ok (a, ⟨rest, offset + b.length⟩)

theorem Reads.mono {α : Type} {read : Reader α} {levels levels' : Nat} {b : Bytes} {a : α}
    (h : Reads read levels b a) (more : levels ≤ levels') : Reads read levels' b a :=
  fun depth rest offset deep => h depth rest offset (Nat.lt_of_le_of_lt more deep)

namespace Codec

/-- A codec reads back whatever it writes. -/
def Lawful {α : Type} (k : Codec α) (levels : Nat) : Prop := ∀ a, Reads k.read levels (k.write a) a

variable {α β : Type} {k : Codec α} {levels : Nat}

theorem Lawful.mono (h : k.Lawful levels) {levels' : Nat} (more : levels ≤ levels') :
    k.Lawful levels' := fun a => (h a).mono more

theorem Lawful.decode_write (h : k.Lawful levels) (shallow : levels < maxDepth) {a : α}
    (fits : (k.write a).length < 1 <<< 64) : k.decode (k.write a) = .ok a := by
  have read := h a maxDepth [] 0 shallow (by omega)
  rw [List.append_nil] at read
  unfold decode
  simp only [Cursor.start, read, ok_bind]

theorem Lawful.convert (h : k.Lawful levels) {make : α → β} {view : β → α}
    (back : ∀ b, make (view b) = b) : (k.convert make view).Lawful levels := by
  intro b depth rest offset deep fits
  simp only [Codec.convert] at fits ⊢
  simp only [h (view b) depth rest offset deep fits, ok_bind, back]

theorem lawful_text : text.Lawful 0 := by
  intro s depth rest offset deep fits
  obtain ⟨depth, rfl⟩ := Nat.exists_eq_succ_of_ne_zero (Nat.pos_iff_ne_zero.mp deep)
  simp only [text] at fits ⊢
  simp only [read_text s depth rest fits, ok_bind, textOfToken]

private theorem readNumber_head (bound : Nat) {n : Nat} (expected : String) (fits : n ≤ bound)
    (small : n < 1 <<< 64) {depth : Nat} (deep : 0 < depth) (rest : Bytes) (offset : Nat) :
    readNumber bound expected depth ⟨head 0 n ++ rest, offset⟩ =
      .ok (n, ⟨rest, offset + (head 0 n).length⟩) := by
  obtain ⟨depth, rfl⟩ := Nat.exists_eq_succ_of_ne_zero (Nat.pos_iff_ne_zero.mp deep)
  simp only [readNumber, read_unsigned small, ok_bind, numberOfToken, if_pos fits]

theorem lawful_uint64 : uint64.Lawful 0 := by
  intro n depth rest offset deep fits
  have small := n.toNat_lt
  have number := readNumber_head ((1 <<< 64) - 1) "u64" (by omega) small deep rest offset
  simp only [uint64, number, ok_bind, UInt64.ofNat_toNat]

private theorem readOctet_head (x : UInt8) {depth : Nat} (deep : 0 < depth) (rest : Bytes)
    (offset : Nat) :
    readOctet depth ⟨head 0 x.toNat ++ rest, offset⟩ =
      .ok (x, ⟨rest, offset + (head 0 x.toNat).length⟩) := by
  have small := x.toNat_lt
  have number := readNumber_head 255 "u8" (n := x.toNat) (by omega) (by omega) deep rest
    offset
  simp only [readOctet, number, ok_bind, UInt8.ofNat_toNat]

private theorem readOctets_elements (b : Bytes) (fuel limit depth : Nat) (fuelled : b.length < fuel)
    (within : b.length ≤ limit) (deep : 0 < depth) (rest : Bytes) (offset : Nat) :
    readOctets fuel limit depth (.definite b.length)
        ⟨(b.flatMap fun x => head 0 x.toNat) ++ rest, offset⟩ =
      .ok (b, .definite 0, ⟨rest, offset + (b.flatMap fun x => head 0 x.toNat).length⟩) := by
  induction b generalizing fuel limit offset with
  | nil =>
    obtain ⟨fuel, rfl⟩ := Nat.exists_eq_succ_of_ne_zero (Nat.pos_iff_ne_zero.mp fuelled)
    cases limit <;> rfl
  | cons x b ih =>
    obtain ⟨fuel, rfl⟩ := Nat.exists_eq_succ_of_ne_zero (Nat.ne_zero_of_lt fuelled)
    obtain ⟨limit, rfl⟩ := Nat.exists_eq_succ_of_ne_zero (Nat.ne_zero_of_lt within)
    have more := ih fuel limit (Nat.lt_of_succ_lt_succ fuelled) (Nat.le_of_succ_le_succ within)
      (offset + (head 0 x.toNat).length)
    simp only [readOctets, List.length_cons, Extent.step, ok_bind, List.flatMap_cons,
      List.append_assoc, readOctet_head x deep, more, List.length_append, Nat.add_assoc]

private theorem length_le_elements (b : Bytes) :
    b.length ≤ (b.flatMap fun x => head 0 x.toNat).length := by
  induction b with
  | nil => exact Nat.le_refl _
  | cons x b ih =>
    have first := head_ne_nil 0 x.toNat
    rw [List.flatMap_cons, List.length_append, List.length_cons]
    omega

theorem length_le_writeOctets (b : Bytes) : b.length ≤ (writeOctets b).length := by
  have elements := length_le_elements b
  rw [writeOctets, List.length_append]
  omega

theorem lawful_octets : octets.Lawful 1 := by
  intro b depth rest offset deep fits
  obtain ⟨depth, rfl⟩ := Nat.exists_eq_add_of_le' deep
  have many := length_le_elements b
  simp only [octets, writeOctets, List.length_append] at fits ⊢
  have elements := readOctets_elements b (((b.flatMap fun x => head 0 x.toNat) ++ rest).length + 1)
    (((b.flatMap fun x => head 0 x.toNat) ++ rest).length + 1) (depth + 1)
    (by rw [List.length_append]; omega) (by rw [List.length_append]; omega) (Nat.succ_pos depth) rest
    (offset + (head 4 b.length).length)
  simp only [List.append_assoc, read_array (by omega : b.length < 1 <<< 64), ok_bind, elements,
    Extent.close, Nat.add_assoc]

theorem lawful_key : key.Lawful 1 := by
  intro k depth rest offset deep fits
  obtain ⟨depth, rfl⟩ := Nat.exists_eq_add_of_le' deep
  have many := length_le_elements k.octets
  have count := k.length_octets
  simp only [key, writeOctets, List.length_append] at fits ⊢
  have elements := readOctets_elements k.octets
    (((k.octets.flatMap fun x => head 0 x.toNat) ++ rest).length + 1) 32 (depth + 1)
    (by rw [List.length_append]; omega) (Nat.le_of_eq count) (Nat.succ_pos depth) rest
    (offset + (head 4 k.octets.length).length)
  have made : Key.ofBytes? k.octets = some k := by
    rw [Key.ofBytes?, dif_pos count]
  simp only [List.append_assoc, read_array (by omega : k.octets.length < 1 <<< 64), ok_bind, elements,
    made, Extent.close, Nat.add_assoc]

end Codec

end Cbor

end DevicePairing
