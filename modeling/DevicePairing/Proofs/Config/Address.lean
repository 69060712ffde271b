import DevicePairing.Config.Client
import DevicePairing.Proofs.Results
import DevicePairing.Proofs.Text.Blank
import DevicePairing.Proofs.Text.Numeral
import Mathlib.Logic.Function.Iterate

set_option autoImplicit false
set_option relaxedAutoImplicit false

/-!
Server addresses. What is taken for an address is a host and a port, and it is taken for itself
again unless white space or another scheme came after its scheme.
-/

namespace DevicePairing.Address

open DevicePairing.Text
open DevicePairing.Text.Blank (AllBlank isBlank trim trimmed_trim)

/-- The text is a host that is not empty and a number of sixteen bits, with a colon between them. -/
def HostAndPort (s : List Char) : Prop :=
  ∃ host port n, s = host ++ ':' :: port ∧ host ≠ [] ∧ Numeral.read? 65535 port = some n

/-- Nothing at the beginning of the text is taken away from an address. -/
structure Bare (s : List Char) : Prop where
  head : ∀ c ∈ s.head?, isBlank c = false
  unschemed : ¬ scheme <+: s

private theorem not_isBlank_of_isDigit {c : Char} (digit : c.isDigit = true) :
    isBlank c = false := by
  obtain ⟨low, high⟩ := Bool.and_eq_true_iff.mp digit
  have low : 48 ≤ c.toNat := of_decide_eq_true low
  have high : c.toNat ≤ 57 := of_decide_eq_true high
  simp [isBlank, Blank.ranges]
  omega

private theorem isHostAndPort_iff (s : List Char) : isHostAndPort s = true ↔ HostAndPort s := by
  unfold isHostAndPort HostAndPort
  constructor
  · intro shaped
    split at shaped
    · rename_i host port split
      obtain ⟨nonempty, number⟩ := Bool.and_eq_true_iff.mp shaped
      obtain ⟨n, read⟩ := Option.isSome_iff_exists.mp number
      exact ⟨host, port, n, Split.atLast?_eq_some split, by simpa using nonempty, read⟩
    · cases shaped
  · rintro ⟨host, port, n, rfl, nonempty, read⟩
    have absent : ':' ∉ port := by
      obtain ⟨-, digits, -, digital, rfl | rfl⟩ := Numeral.digits_of_read? read
      · exact fun member => absurd (digital ':' member) (by decide)
      · rintro (_ | ⟨_, member⟩)
        exact absurd (digital ':' member) (by decide)
    simp only [Split.atLast?_append absent, read, Option.isSome_some, Bool.and_true]
    simpa using nonempty

private theorem HostAndPort.last {s : List Char} (h : HostAndPort s) :
    ∀ c ∈ s.getLast?, isBlank c = false := by
  obtain ⟨host, port, n, rfl, -, read⟩ := h
  obtain ⟨-, digits, nonempty, digital, split⟩ := Numeral.digits_of_read? read
  have ends : ∃ front, host ++ ':' :: port = front ++ digits := by
    rcases split with rfl | rfl
    · exact ⟨host ++ [':'], by simp⟩
    · exact ⟨host ++ [':', '+'], by simp⟩
  obtain ⟨front, ends⟩ := ends
  rw [ends, List.getLast?_append_of_ne_nil front nonempty]
  exact fun c last => not_isBlank_of_isDigit (digital c (List.mem_of_getLast? last))

private theorem normalize_eq_ok {raw a : String} :
    normalize raw = .ok a ↔ HostAndPort a.toList ∧
      (trim raw.toList = scheme ++ a.toList ∨
        trim raw.toList = a.toList ∧ ¬ scheme <+: a.toList) := by
  have taken : ∀ s : List Char, (if isHostAndPort s then .ok (String.ofList s)
      else Except.error (ConfigError.invalidUri raw)) = .ok a ↔
        HostAndPort a.toList ∧ s = a.toList := by
    intro s
    rw [← isHostAndPort_iff]
    constructor
    · intro accepted
      split at accepted
      · cases accepted
        rw [String.toList_ofList]
        exact ⟨by assumption, rfl⟩
      · cases accepted
    · rintro ⟨shaped, rfl⟩
      rw [if_pos shaped, String.ofList_toList]
  rw [normalize, taken, and_congr_right_iff]
  intro shaped
  cases after : Split.after? scheme (trim raw.toList) with
  | some rest =>
    rw [Split.after?_eq_some] at after
    simp only [after, Option.getD_some, List.append_cancel_left_eq]
    refine ⟨.inl, fun either => either.resolve_right fun ⟨same, unschemed⟩ => ?_⟩
    exact unschemed ⟨rest, same⟩
  | none =>
    have unschemed : ∀ rest, trim raw.toList ≠ scheme ++ rest := by
      intro rest same
      rw [Split.after?_eq_some.mpr same] at after
      cases after
    simp only [Option.getD_none, unschemed, false_or, iff_self_and]
    rintro same ⟨rest, more⟩
    exact unschemed rest (same.trans more.symm)

private theorem normalize_eq_self_iff {a : String} :
    normalize a = .ok a ↔ HostAndPort a.toList ∧ Bare a.toList := by
  rw [normalize_eq_ok, and_congr_right_iff]
  intro shaped
  constructor
  · have trimmed := trimmed_trim a.toList
    rintro (same | ⟨same, unschemed⟩)
    · -- trimming does not make a text longer by a scheme
      obtain ⟨-, before, after, -, -, whole⟩ := Blank.trim_eq_iff.mp same
      have lengths := congrArg List.length whole
      simp only [List.length_append] at lengths
      have longer : scheme.length = 6 := by decide
      omega
    · rw [same] at trimmed
      exact ⟨trimmed.head, unschemed⟩
  · intro bare
    exact .inr ⟨Blank.trim_of_trimmed ⟨bare.head, shaped.last⟩, bare.unschemed⟩

/-- An address is a host and a port without white space after them. There is no white space and no
scheme at its beginning exactly if neither came after its scheme, and then it stays the same
however often it is taken for an address again or stored in a configuration and looked up. -/
theorem normalized_address_is_kept {raw a : String} (accepted : normalize raw = .ok a) :
    HostAndPort a.toList ∧ (∀ c ∈ a.toList.getLast?, isBlank c = false) ∧
      (Bare a.toList ↔ ∀ rest, trim raw.toList = scheme ++ rest → Bare rest) ∧
      (Bare a.toList → (∀ n : Nat, (· >>= normalize)^[n] (normalize raw) = .ok a) ∧
        ∀ (c : ClientConfig) (environment : Option String) (files : Files),
          (c.withUri a).resolveUri environment files = .ok a) := by
  obtain ⟨shaped, left⟩ := normalize_eq_ok.mp accepted
  have single : Bare a.toList ↔ ∀ rest, trim raw.toList = scheme ++ rest → Bare rest := by
    rcases left with same | ⟨same, unschemed⟩
    · simp only [same, List.append_cancel_left_eq, forall_eq']
    · refine ⟨fun _ rest schemed => ?_, fun _ => ⟨?_, unschemed⟩⟩
      · exact absurd ⟨rest, schemed.symm.trans same⟩ unschemed
      · exact same ▸ (trimmed_trim raw.toList).head
  refine ⟨shaped, shaped.last, single, fun bare => ?_⟩
  have again : normalize a = .ok a := normalize_eq_self_iff.mpr ⟨shaped, bare⟩
  refine ⟨fun n => ?_, fun c environment files => again⟩
  rw [accepted]
  exact Function.iterate_fixed again n

/-- An address with white space around it and a scheme before it is taken for the same ever
after. -/
theorem normalized_address_is_kept_of_loopback :
    normalize " tcp://[::1]:9 \n" = .ok "[::1]:9" ∧
      ∀ n : Nat, (· >>= normalize)^[n] (normalize " tcp://[::1]:9 \n") = .ok "[::1]:9" := by
  have accepted : normalize " tcp://[::1]:9 \n" = .ok "[::1]:9" := by decide
  have bare : Bare "[::1]:9".toList := by
    refine ⟨fun c first => ?_, by decide⟩
    obtain rfl : '[' = c := Option.some.inj first
    decide
  exact ⟨accepted, ((normalized_address_is_kept accepted).2.2.2 bare).1⟩

/-- One scheme is taken away and a second one is kept, and so is white space after a scheme. -/
theorem second_scheme_is_kept :
    normalize "tcp://tcp://h:1" = .ok "tcp://h:1" ∧ scheme <+: "tcp://h:1".toList ∧
      normalize "tcp://h:1" = .ok "h:1" ∧ normalize "tcp:// h:1" = .ok " h:1" ∧
      normalize " h:1" = .ok "h:1" := by
  refine ⟨?_, ?_, ?_, ?_, ?_⟩ <;> decide

end DevicePairing.Address
