import DevicePairing.Proofs.Connection.Framing
import Mathlib.Data.List.Induction

set_option autoImplicit false
set_option relaxedAutoImplicit false

namespace DevicePairing

open DevicePairing.Bytes

private theorem Bytes.bigEndian_toNatBE (b : Bytes) : bigEndian b.length (toNatBE b) = b := by
  induction b using List.reverseRecOn with
  | nil => rfl
  | append_singleton b x ih =>
    have number : toNatBE (b ++ [x]) = 256 * toNatBE b + x.toNat := List.foldl_append
    have small : x.toNat < 256 := x.toNat_lt
    have high : toNatBE (b ++ [x]) / 256 = toNatBE b := by omega
    have low : UInt8.ofNat (toNatBE (b ++ [x])) = x := by
      apply UInt8.toNat_inj.mp
      rw [UInt8.toNat_ofNat', number]
      omega
    rw [List.length_append, List.length_singleton, bigEndian, high, ih, low]

namespace Connection

/-- What some octets begin with. -/
inductive Front where
  | record (content rest : Bytes)
  | oversized
  | short

def front (octets : Bytes) : Front :=
  match split? 4 octets with
  | none => .short
  | some (head, octets) =>
    if maxRecordLength < toNatBE head then .oversized
    else
      match split? (toNatBE head) octets with
      | none => .short
      | some (content, rest) => .record content rest

private theorem front_eq_record {octets content rest : Bytes} :
    front octets = .record content rest ↔ Fits content ∧ octets = framed [content] ++ rest := by
  constructor
  · intro found
    unfold front at found
    split at found
    · cases found
    · rename_i head tail cut
      obtain ⟨four, rfl⟩ := split?_eq_some cut
      split at found
      · cases found
      · rename_i small
        split at found
        · cases found
        · rename_i whole
          cases found
          obtain ⟨length, rfl⟩ := split?_eq_some whole
          have counted : bigEndian 4 content.length = head := by
            rw [length, ← four]
            exact bigEndian_toNatBE head
          have fits : content.length ≤ maxRecordLength := by omega
          refine ⟨fits, ?_⟩
          rw [framed_cons, framed_nil, List.append_nil, counted, List.append_assoc]
  · rintro ⟨fits, rfl⟩
    have small : content.length ≤ maxRecordLength := fits
    have counted : toNatBE (bigEndian 4 content.length) = content.length :=
      toNatBE_bigEndian (Nat.lt_of_le_of_lt small (by decide))
    have head : split? 4 (bigEndian 4 content.length ++ (content ++ rest)) =
        some (bigEndian 4 content.length, content ++ rest) := by
      have cut := split?_append (bigEndian 4 content.length) (content ++ rest)
      rwa [length_bigEndian] at cut
    rw [framed_cons, framed_nil, List.append_nil, List.append_assoc]
    simp only [front, head, counted, split?_append, if_neg (Nat.not_lt.mpr small)]

private theorem front_eq_oversized {octets : Bytes} :
    front octets = .oversized ↔
      ∃ head rest, octets = head ++ rest ∧ head.length = 4 ∧ maxRecordLength < toNatBE head := by
  constructor
  · intro found
    unfold front at found
    split at found
    · cases found
    · rename_i head rest cut
      obtain ⟨four, rfl⟩ := split?_eq_some cut
      split at found
      · rename_i large
        exact ⟨head, rest, rfl, four, large⟩
      · split at found <;> cases found
  · rintro ⟨head, rest, rfl, four, large⟩
    have cut := split?_append head rest
    rw [four] at cut
    simp only [front, cut, if_pos large]

theorem front_append_of_record {octets content rest : Bytes}
    (first : front octets = .record content rest) (more : Bytes) :
    front (octets ++ more) = .record content (rest ++ more) := by
  obtain ⟨fits, rfl⟩ := front_eq_record.mp first
  exact front_eq_record.mpr ⟨fits, List.append_assoc _ _ _⟩

theorem front_append_of_oversized {octets : Bytes} (first : front octets = .oversized)
    (more : Bytes) : front (octets ++ more) = .oversized := by
  obtain ⟨head, rest, rfl, four, large⟩ := front_eq_oversized.mp first
  exact front_eq_oversized.mpr ⟨head, rest ++ more, List.append_assoc _ _ _, four, large⟩

namespace RecordReader

/-- A reader that used up all records before these octets. -/
def having (octets : Bytes) : RecordReader := ⟨octets, none, false⟩

variable {octets : Bytes}

private theorem takeHead_having {head : Bytes} (four : head.length = 4)
    (small : toNatBE head ≤ maxRecordLength) (rest : Bytes) :
    (having (head ++ rest)).takeHead = .ok ⟨rest, some (toNatBE head), false⟩ := by
  have cut := split?_append head rest
  rw [four] at cut
  simp only [having, takeHead, cut, if_pos small]

theorem next_of_record {content rest : Bytes} (first : front octets = .record content rest)
    (ended : Bool) : (having octets).next ended = (.record content, having rest) := by
  obtain ⟨fits, rfl⟩ := front_eq_record.mp first
  have counted : toNatBE (bigEndian 4 content.length) = content.length :=
    toNatBE_bigEndian (Nat.lt_of_le_of_lt fits (by decide))
  have small : toNatBE (bigEndian 4 content.length) ≤ maxRecordLength := by
    rw [counted]
    exact fits
  have head := takeHead_having (length_bigEndian 4 content.length) small (content ++ rest)
  have sound : ∀ octets, (having octets).failed = false := fun _ => rfl
  rw [framed_cons, framed_nil, List.append_nil, List.append_assoc]
  simp only [next, sound, head, counted, takeContent?, split?_append, Option.map_some]
  rfl

theorem next_of_oversized (first : front octets = .oversized) (ended : Bool) :
    ((having octets).next ended).1 = .fault .tooLong := by
  obtain ⟨head, rest, rfl, four, large⟩ := front_eq_oversized.mp first
  have cut := split?_append head rest
  rw [four] at cut
  have long : (having (head ++ rest)).takeHead = .error .tooLong := by
    simp only [having, takeHead, cut, if_neg (Nat.not_le.mpr large)]
  have sound : (having (head ++ rest)).failed = false := rfl
  simp only [next, sound, long]
  rfl

/-- Where there is no telling, a reader waits, and at the end it finds nothing or a fault. -/
theorem next_of_short (first : front octets = .short) :
    ((having octets).next false).1 = .pending ∧
      (((having octets).next true).1 = .ended ∨
        ((having octets).next true).1 = .fault .truncated) := by
  have head : ∃ r : RecordReader, (having octets).takeHead = .ok r ∧ r.takeContent? = none := by
    unfold front at first
    split at first
    · rename_i cut
      refine ⟨having octets, ?_, rfl⟩
      simp only [having, takeHead, cut]
    · rename_i head rest cut
      obtain ⟨four, rfl⟩ := split?_eq_some cut
      split at first
      · cases first
      · rename_i small
        refine ⟨_, takeHead_having four (Nat.not_lt.mp small) rest, ?_⟩
        split at first
        · rename_i missing
          simp only [takeContent?, missing, Option.map_none]
        · cases first
  obtain ⟨r, taken, missing⟩ := head
  have sound : (having octets).failed = false := rfl
  simp only [next, sound, taken, missing]
  refine ⟨rfl, ?_⟩
  cases r.buffer.isEmpty with
  | true => exact .inl rfl
  | false => exact .inr rfl

end RecordReader

end Connection

end DevicePairing
