import DevicePairing.Proofs.Connection.Sizes
import DevicePairing.Proofs.Text.Blank

set_option autoImplicit false
set_option relaxedAutoImplicit false

namespace DevicePairing

open DevicePairing.Text
open DevicePairing.Text.Blank (AllBlank Trimmed isBlank trim)

def nameAlphabet : List Char := "0123456789abcdef-".toList

/-- The text has the form of an identifier: thirty-six hexadecimal digits and hyphens. -/
structure IsIdentifier (s : String) : Prop where
  length : s.toList.length = 36
  alphabet : ∀ c ∈ s.toList, c ∈ nameAlphabet

private theorem hexDigit_mem : ∀ n < 16, Bytes.hexDigit n ∈ nameAlphabet := by decide

private theorem mem_of_mem_toHex {b : Bytes} {c : Char} (member : c ∈ (Bytes.toHex b).toList) :
    c ∈ nameAlphabet := by
  rw [Bytes.toHex, String.toList_ofList] at member
  obtain ⟨x, -, digit⟩ := List.mem_flatMap.mp member
  have small := x.toNat_lt
  simp only [List.mem_cons, List.not_mem_nil, or_false] at digit
  rcases digit with rfl | rfl
  · exact hexDigit_mem _ (by omega)
  · exact hexDigit_mem _ (by omega)

theorem isIdentifier_sessionName {random : Bytes} (sixteen : random.length = 16) :
    IsIdentifier (sessionName random) := by
  have hyphen : "-".toList = ['-'] := rfl
  have known : '-' ∈ nameAlphabet := by decide
  constructor
  · simp only [sessionName, String.intercalate_cons_cons, String.intercalate_singleton,
      String.toList_append, List.length_append, length_toHex, List.length_take,
      List.length_drop, List.length_map, List.length_zipIdx, List.length_reverse, sixteen, hyphen,
      List.length_singleton]
    rfl
  · simp only [sessionName, String.intercalate_cons_cons, String.intercalate_singleton,
      String.toList_append, List.forall_mem_append, hyphen, List.forall_mem_singleton, known, and_true]
    exact ⟨fun _ => mem_of_mem_toHex, fun _ => mem_of_mem_toHex, fun _ => mem_of_mem_toHex,
      fun _ => mem_of_mem_toHex, fun _ => mem_of_mem_toHex⟩

private theorem IsIdentifier.last {s : String} (h : IsIdentifier s) :
    ∀ c ∈ s.toList.getLast?, isBlank c = false := by
  have solid : nameAlphabet.all (!isBlank ·) = true := by decide
  intro c last
  have member : c ∈ nameAlphabet := h.alphabet c (List.mem_of_getLast? last)
  simpa using List.all_eq_true.mp solid c member

private theorem IsIdentifier.ne_empty {s : String} (h : IsIdentifier s) : s ≠ "" := by
  rintro rfl
  cases h.length

namespace Exchange

private theorem toList_payload (session : String) :
    (payload session).toList = "pairing:".toList ++ session.toList := by
  rw [payload, String.toList_append]
  rfl

/-- A payload names a session exactly if it is the payload of that session with white space around
it. -/
theorem session_eq_ok {p s : String} :
    session p = .ok s ↔ s ≠ "" ∧ trim p.toList = "pairing:".toList ++ s.toList := by
  have spelled : "pairing:".toList ++ s.toList = scheme.toList ++ ':' :: s.toList := rfl
  rw [spelled, session]
  constructor
  · intro named
    split at named
    · rename_i before c after split
      split at named
      · rename_i same
        obtain rfl := Except.ok.inj named
        rw [String.toList_ofList, ← same]
        exact ⟨by simp, Split.atFirst?_eq_some split⟩
      · cases named
    · cases named
  · rintro ⟨nonempty, whole⟩
    have absent : ':' ∉ scheme.toList := by decide
    rw [whole, Split.atFirst?_append absent]
    obtain ⟨c, after, split⟩ := List.exists_cons_of_ne_nil (mt String.toList_eq_nil_iff.mp nonempty)
    simp only [split, if_true]
    rw [← split, String.ofList_toList]

private theorem trimmed_payload {s : String} (nonempty : s ≠ "") :
    Trimmed ("pairing:".toList ++ s.toList) ↔ ∀ c ∈ s.toList.getLast?, isBlank c = false := by
  have kept := List.getLast?_append_of_ne_nil "pairing:".toList (mt String.toList_eq_nil_iff.mp nonempty)
  refine ⟨fun trimmed => kept ▸ trimmed.last, fun last => ⟨?_, kept.symm ▸ last⟩⟩
  rintro c first
  obtain rfl := Option.some.inj first
  decide

/-- A payload names its session exactly if the name is not empty and does not end with white
space. -/
theorem session_payload {s : String} :
    session (payload s) = .ok s ↔ s ≠ "" ∧ ∀ c ∈ s.toList.getLast?, isBlank c = false := by
  rw [session_eq_ok, toList_payload, and_congr_right_iff]
  intro nonempty
  rw [← trimmed_payload nonempty]
  exact ⟨fun same => same ▸ Blank.trimmed_trim _, Blank.trim_of_trimmed⟩

/-- White space around a payload does not count. -/
theorem session_surrounded {s : String} (h : IsIdentifier s) {before after : List Char}
    (blank : AllBlank before) (blank' : AllBlank after) :
    session (String.ofList (before ++ (payload s).toList ++ after)) = .ok s := by
  have trimmed := (trimmed_payload h.ne_empty).mpr h.last
  rw [session_eq_ok, String.toList_ofList, toList_payload]
  exact ⟨h.ne_empty, Blank.trim_append trimmed blank blank'⟩

end Exchange

end DevicePairing
