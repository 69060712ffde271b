import DevicePairing.Text.Blank
import Mathlib.Data.List.DropRight

set_option autoImplicit false
set_option relaxedAutoImplicit false

namespace DevicePairing.Text.Blank

/-- There is no white space at either end. -/
structure Trimmed (s : List Char) : Prop where
  head : ∀ c ∈ s.head?, isBlank c = false
  last : ∀ c ∈ s.getLast?, isBlank c = false

def AllBlank (s : List Char) : Prop := ∀ c ∈ s, isBlank c = true

private theorem dropWhile_append {before s : List Char} (blank : AllBlank before)
    (head : ∀ c ∈ s.head?, isBlank c = false) : (before ++ s).dropWhile isBlank = s := by
  rw [List.dropWhile_append_of_pos blank]
  cases s with
  | nil => rfl
  | cons c more => exact List.dropWhile_cons_of_neg (by simp [head c rfl])

private theorem trimEnd_append {s after : List Char} (blank : AllBlank after)
    (last : ∀ c ∈ s.getLast?, isBlank c = false) : trimEnd (s ++ after) = s := by
  have reversed : AllBlank after.reverse := fun c member => blank c (List.mem_reverse.mp member)
  rw [trimEnd, List.reverse_append, dropWhile_append reversed (by rwa [List.head?_reverse]),
    List.reverse_reverse]

theorem trim_append {s before after : List Char} (trimmed : Trimmed s) (blank : AllBlank before)
    (blank' : AllBlank after) : trim (before ++ s ++ after) = s := by
  rw [trim, List.append_assoc]
  cases s with
  | nil =>
    rw [List.nil_append, List.dropWhile_append_of_pos blank, List.dropWhile_eq_nil_iff.mpr blank']
    rfl
  | cons c more =>
    have head : ∀ d ∈ (c :: more ++ after).head?, isBlank d = false := trimmed.head
    rw [dropWhile_append blank head]
    exact trimEnd_append blank' trimmed.last

theorem trim_of_trimmed {s : List Char} (trimmed : Trimmed s) : trim s = s := by
  have nothing : AllBlank [] := nofun
  have alone := trim_append trimmed nothing nothing
  rwa [List.nil_append, List.append_nil] at alone

theorem trimmed_trim (s : List Char) : Trimmed (trim s) := by
  constructor
  · intro c first
    obtain ⟨more, split⟩ := List.rdropWhile_prefix isBlank (s.dropWhile isBlank)
    have same : (s.dropWhile isBlank).head? = some c := by
      rw [← split, List.head?_append]
      exact Option.or_eq_some_iff.mpr (.inl first)
    have stopped := List.head?_dropWhile_not isBlank s
    rwa [same] at stopped
  · intro c last
    obtain ⟨nonempty, rfl⟩ := List.mem_getLast?_eq_getLast last
    exact Bool.eq_false_iff.mpr (List.rdropWhile_last_not isBlank _ nonempty)

/-- A text is trimmed to what is trimmed already and has white space only around it. -/
theorem trim_eq_iff {s t : List Char} :
    trim s = t ↔
      Trimmed t ∧ ∃ before after, AllBlank before ∧ AllBlank after ∧ s = before ++ t ++ after := by
  constructor
  · rintro rfl
    refine ⟨trimmed_trim s, s.takeWhile isBlank, (s.dropWhile isBlank).rtakeWhile isBlank,
      fun c => List.mem_takeWhile_imp, fun c => List.mem_rtakeWhile_imp, ?_⟩
    rw [List.append_assoc, trim]
    have parts := List.rdropWhile_append_rtakeWhile (p := isBlank) (l := s.dropWhile isBlank)
    exact (List.takeWhile_append_dropWhile.symm.trans (congrArg _ parts.symm))
  · rintro ⟨trimmed, before, after, blank, blank', rfl⟩
    exact trim_append trimmed blank blank'

end DevicePairing.Text.Blank
