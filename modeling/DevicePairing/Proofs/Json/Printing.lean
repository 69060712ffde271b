import DevicePairing.Json.Printer
import Mathlib.Data.List.Basic

set_option autoImplicit false
set_option relaxedAutoImplicit false

namespace DevicePairing.Json

open DevicePairing.Bytes (hexDigit)
open DevicePairing.Text

private theorem codeUnit?_control : ∀ n < 32,
    codeUnit? '0' '0' (hexDigit (n / 16)) (hexDigit (n % 16)) = some n := by decide

private theorem readUnits_control {c : Char} {s rest : Chars} {us : List Nat}
    (control : c.toNat < 32) (read : readUnits s = some (us, rest)) :
    readUnits ('\\' :: 'u' :: '0' :: '0' :: hexDigit (c.toNat / 16) :: hexDigit (c.toNat % 16) :: s) =
      some (c.toNat :: us, rest) := by
  rw [readUnits, codeUnit?_control c.toNat control, read]
  rfl

private theorem readUnits_plain {c : Char} {s rest : Chars} {us : List Nat} (unquoted : c ≠ '"')
    (unescaped : c ≠ '\\') (printable : ¬c.toNat < 32) (read : readUnits s = some (us, rest)) :
    readUnits (c :: s) = some (c.toNat :: us, rest) := by
  have kept : ¬(c.toNat < 32 ∨ c = '\\') := not_or.mpr ⟨printable, unescaped⟩
  rw [readUnits.eq_5 c s unquoted (fun _ _ _ _ _ same => absurd same unescaped)
    (fun _ _ same => absurd same unescaped), if_neg kept, read]
  rfl

private theorem readUnits_escape (c : Char) {s rest : Chars} {us : List Nat}
    (read : readUnits s = some (us, rest)) :
    readUnits (escape c ++ s) = some (c.toNat :: us, rest) := by
  have short {x : Char} (other : x ≠ 'u') (known : shortEscape? x = some c) :
      readUnits ('\\' :: x :: s) = some (c.toNat :: us, rest) := by
    rw [readUnits.eq_4 x s fun _ _ _ _ _ same => absurd same other, known, read]
    rfl
  have code {n : Nat} (same : c.toNat = n) : some (Char.ofNat n) = some c := by
    rw [← same, Char.ofNat_toNat]
  unfold escape
  split
  · rename_i same
    exact short (by decide) (by rw [same]; rfl)
  split
  · rename_i same
    exact short (by decide) (by rw [same]; rfl)
  split
  · rename_i same
    exact short (by decide) (code same)
  split
  · rename_i same
    exact short (by decide) (code same)
  split
  · rename_i same
    exact short (by decide) (code same)
  split
  · rename_i same
    exact short (by decide) (code same)
  split
  · rename_i same
    exact short (by decide) (code same)
  split
  · rename_i control
    exact readUnits_control control read
  · rename_i unquoted unescaped _ _ _ _ _ printable
    exact readUnits_plain unquoted unescaped printable read

private theorem readUnits_flatMap (s rest : Chars) :
    readUnits (s.flatMap escape ++ '"' :: rest) = some (s.map Char.toNat, rest) := by
  induction s with
  | nil => rw [List.flatMap_nil, List.nil_append, readUnits, List.map_nil]
  | cons c s ih =>
    rw [List.flatMap_cons, List.append_assoc, readUnits_escape c ih, List.map_cons]

private theorem charsOfUnits_cons (c : Char) (us : List Nat) :
    charsOfUnits (c.toNat :: us) = (charsOfUnits us).map (c :: ·) := by
  have valid : c.toNat < 0xD800 ∨ 0xDFFF < c.toNat ∧ c.toNat < 0x110000 := c.valid
  cases us with
  | nil =>
    rw [charsOfUnits.eq_2, if_neg (by omega), Char.ofNat_toNat]
    rfl
  | cons u us =>
    rw [charsOfUnits, if_neg (by omega), if_neg (by omega), Char.ofNat_toNat]

private theorem charsOfUnits_map (s : List Char) : charsOfUnits (s.map Char.toNat) = some s := by
  induction s with
  | nil => rfl
  | cons c s ih =>
    rw [List.map_cons, charsOfUnits_cons, ih]
    rfl

private theorem readString_print (s : String) (rest : Chars) :
    readString (s.toList.flatMap escape ++ '"' :: rest) = some (some s, rest) := by
  rw [readString, readUnits_flatMap]
  change some ((charsOfUnits (s.toList.map Char.toNat)).map String.ofList, rest) = _
  rw [charsOfUnits_map, Option.map_some, String.ofList_toList]

def EndsNumber (s : Chars) : Prop :=
  ∀ c ∈ s.head?, c = ',' ∨ c = ']' ∨ c = '}'

private theorem naturalOfDigits_toDigits (n : Nat) : naturalOfDigits (Nat.toDigits 10 n) = n :=
  Nat.ofDigitChars_toDigits (by decide) (by decide)

private theorem head?_toDigits_ne (n : Nat) (positive : 0 < n) :
    (Nat.toDigits 10 n).head? ≠ some '0' := by
  have nonzero : ∀ d < 10, 0 < d → Nat.digitChar d ≠ '0' := by decide
  induction n using Nat.strongRecOn with
  | ind n ih =>
    by_cases small : n < 10
    · rw [Nat.toDigits_of_lt_base small]
      exact fun same => nonzero n small positive (Option.some.inj same)
    · rw [Nat.toDigits_of_base_le (by decide) (by omega),
        List.head?_append_of_ne_nil _ Nat.toDigits_ne_nil]
      exact ih (n / 10) (by omega) (by omega)

private theorem unpadded_toDigits (n : Nat) :
    ¬((Nat.toDigits 10 n).head? = some '0' ∧ 1 < (Nat.toDigits 10 n).length) := by
  rintro ⟨zero, long⟩
  rcases Nat.eq_zero_or_pos n with rfl | positive
  · exact absurd long (by decide)
  · exact head?_toDigits_ne n positive zero

private theorem readDigits_append {digits rest : Chars} (digital : ∀ c ∈ digits, c.isDigit = true)
    (ends : EndsNumber rest) : readDigits (digits ++ rest) = (digits, rest) := by
  rw [readDigits, List.takeWhile_append_of_pos digital, List.dropWhile_append_of_pos digital]
  cases rest with
  | nil => rw [List.takeWhile_nil, List.dropWhile_nil, List.append_nil]
  | cons c rest =>
    have other : ¬c.isDigit = true := by
      rcases ends c rfl with rfl | rfl | rfl <;> decide
    rw [List.takeWhile_cons_of_neg other, List.dropWhile_cons_of_neg other, List.append_nil]

private theorem readNumber_write (n : Nat) {rest : Chars} (ends : EndsNumber rest) :
    readNumber ((Numeral.write n).toList ++ rest) = some (.natural n, rest) := by
  have digital : ∀ c ∈ Nat.toDigits 10 n, c.isDigit = true :=
    fun c member => Nat.isDigit_of_mem_toDigits (by decide) (by decide) member
  have unsigned : ¬(Nat.toDigits 10 n ++ rest).head? = some '-' := by
    rw [List.head?_append_of_ne_nil _ Nat.toDigits_ne_nil]
    exact fun minus => absurd (digital '-' (List.mem_of_mem_head? minus)) (by decide)
  have nonempty : (Nat.toDigits 10 n).isEmpty = false :=
    List.isEmpty_eq_false_iff.mpr Nat.toDigits_ne_nil
  have whole : skipFraction rest = some rest ∧ skipExponent rest = some rest ∧
      isFractional rest = false := by
    cases rest with
    | nil => exact ⟨rfl, rfl, rfl⟩
    | cons c rest => rcases ends c rfl with rfl | rfl | rfl <;> exact ⟨rfl, rfl, rfl⟩
  obtain ⟨fraction, exponent, integral⟩ := whole
  rw [Numeral.write, String.toList_ofList, readNumber]
  simp only [unsigned, Bool.false_eq_true, if_false, readDigits_append digital ends, nonempty,
    unpadded_toDigits, false_or, fraction, integral, naturalOfDigits_toDigits]
  change (skipExponent rest).bind (fun s => some (Document.natural n, s)) = _
  rw [exponent, Option.bind_some]

mutual

/-- Every number is a natural and every string has a text. -/
def Document.IsPlain : Document → Prop
  | .null => True
  | .bool _ => True
  | .natural _ => True
  | .otherNumber => False
  | .string text => text.isSome
  | .array xs => PlainElements xs
  | .object ms => PlainMembers ms

def PlainElements : List Document → Prop
  | [] => True
  | x :: xs => x.IsPlain ∧ PlainElements xs

def PlainMembers : List (Option String × Document) → Prop
  | [] => True
  | (name, x) :: ms => name.isSome ∧ x.IsPlain ∧ PlainMembers ms

end

private theorem ne_of_isDigit {c x : Char} (digit : c.isDigit = true) (other : x.isDigit = false) :
    c ≠ x := by
  rintro rfl
  rw [digit] at other
  cases other

private theorem isBlank_of_isDigit {c : Char} (digit : c.isDigit = true) : isBlank c = false := by
  have other := @ne_of_isDigit c
  simp only [isBlank, decide_false, Bool.or_self, other digit (x := ' ') (by decide),
    other digit (x := '\n') (by decide), other digit (x := '\t') (by decide),
    other digit (x := '\r') (by decide)]

private theorem write_cons (n : Nat) :
    ∃ c s, (Numeral.write n).toList = c :: s ∧ c.isDigit = true := by
  obtain ⟨c, s, split⟩ := List.exists_cons_of_ne_nil (Nat.toDigits_ne_nil (b := 10) (n := n))
  refine ⟨c, s, String.toList_ofList.trans split, ?_⟩
  have member : c ∈ Nat.toDigits 10 n := split ▸ List.mem_cons_self
  exact Nat.isDigit_of_mem_toDigits (by decide) (by decide) member

private theorem Document.print_cons (d : Document) :
    ∃ c s, d.print = c :: s ∧ isBlank c = false ∧ c ≠ ']' := by
  have null : ∃ c s, ['n', 'u', 'l', 'l'] = c :: s ∧ isBlank c = false ∧ c ≠ ']' :=
    ⟨_, _, rfl, by decide, by decide⟩
  match d with
  | .null => exact null
  | .bool true => exact ⟨_, _, rfl, by decide, by decide⟩
  | .bool false => exact ⟨_, _, rfl, by decide, by decide⟩
  | .natural n =>
    obtain ⟨c, s, split, digit⟩ := write_cons n
    exact ⟨c, s, split, isBlank_of_isDigit digit, ne_of_isDigit digit (by decide)⟩
  | .otherNumber => exact null
  | .string none => exact null
  | .string (some s) => exact ⟨_, _, rfl, by decide, by decide⟩
  | .array xs => exact ⟨_, _, rfl, by decide, by decide⟩
  | .object ms => exact ⟨_, _, rfl, by decide, by decide⟩

private theorem skipBlank_cons {c : Char} (solid : isBlank c = false) (s : Chars) :
    skipBlank (c :: s) = c :: s :=
  List.dropWhile_cons_of_neg (Bool.eq_false_iff.mp solid)

private theorem printElements_cons (x : Document) (xs : List Document) :
    ∃ more, printElements (x :: xs) = x.print ++ more := by
  cases xs with
  | nil => exact ⟨[], (List.append_nil _).symm⟩
  | cons y ys => exact ⟨',' :: printElements (y :: ys), rfl⟩

private theorem printMembers_cons (m : Option String × Document)
    (ms : List (Option String × Document)) : ∃ more, printMembers (m :: ms) = '"' :: more := by
  cases ms with
  | nil => exact ⟨_, rfl⟩
  | cons m' ms => exact ⟨_, rfl⟩

private theorem readValue_digit {c : Char} (digit : c.isDigit = true) (fuel : Nat) (s : Chars) :
    readValue (fuel + 1) (c :: s) = readNumber (c :: s) := by
  have other := @ne_of_isDigit c
  rw [readValue, skipBlank_cons (isBlank_of_isDigit digit)]
  split
  · rename_i same
    cases same
  iterate 6
    · rename_i same
      exact absurd (List.cons.inj same).1 (other digit (by decide))
  · rfl

/-- The fuel is enough for every printed text that it is twice as long as. -/
structure Reads (fuel : Nat) : Prop where
  value : ∀ d rest, d.IsPlain → EndsNumber rest → 2 * d.print.length ≤ fuel →
    readValue fuel (d.print ++ rest) = some (d, rest)
  elements : ∀ x xs rest, PlainElements (x :: xs) →
    2 * (printElements (x :: xs)).length + 1 ≤ fuel →
    readElements fuel (printElements (x :: xs) ++ ']' :: rest) = some (x :: xs, rest)
  members : ∀ m ms rest, PlainMembers (m :: ms) →
    2 * (printMembers (m :: ms)).length + 1 ≤ fuel →
    readMembers fuel (printMembers (m :: ms) ++ '}' :: rest) = some (m :: ms, rest)

namespace Reads

variable {fuel : Nat} (h : Reads fuel)

include h

private theorem array_succ (xs : List Document) (rest : Chars) (plain : PlainElements xs)
    (enough : 2 * (printElements xs).length + 1 ≤ fuel) :
    readValue (fuel + 1) ('[' :: (printElements xs ++ ']' :: rest)) = some (.array xs, rest) := by
  rw [readValue, skipBlank_cons (by decide)]
  cases xs with
  | nil => rfl
  | cons x xs =>
    have read := h.elements x xs rest plain enough
    obtain ⟨more, first⟩ := printElements_cons x xs
    obtain ⟨c, s, head, solid, inner⟩ := x.print_cons
    rw [first, head, List.append_assoc, List.cons_append] at read ⊢
    simp only [skipBlank_cons solid]
    split
    · rename_i same
      exact absurd (List.cons.inj same).1 inner
    · rw [read]
      rfl

private theorem object_succ (ms : List (Option String × Document)) (rest : Chars)
    (plain : PlainMembers ms) (enough : 2 * (printMembers ms).length + 1 ≤ fuel) :
    readValue (fuel + 1) ('{' :: (printMembers ms ++ '}' :: rest)) = some (.object ms, rest) := by
  rw [readValue, skipBlank_cons (by decide)]
  cases ms with
  | nil => rfl
  | cons m ms =>
    have read := h.members m ms rest plain enough
    obtain ⟨more, first⟩ := printMembers_cons m ms
    rw [first, List.cons_append] at read ⊢
    simp only [skipBlank_cons (by decide : isBlank '"' = false)]
    exact congrArg (Option.map fun p => (Document.object p.1, p.2)) read

private theorem value_succ (d : Document) (rest : Chars) (plain : d.IsPlain)
    (ends : EndsNumber rest) (enough : 2 * d.print.length ≤ fuel + 1) :
    readValue (fuel + 1) (d.print ++ rest) = some (d, rest) := by
  match d with
  | .null => rfl
  | .bool true => rfl
  | .bool false => rfl
  | .natural n =>
    obtain ⟨c, s, split, digit⟩ := write_cons n
    have number := readNumber_write n ends
    rw [split, List.cons_append] at number
    rw [Document.print, split, List.cons_append, readValue_digit digit, number]
  | .string (some s) =>
    rw [Document.print, printString, List.cons_append, List.cons_append, List.append_assoc,
      List.singleton_append, readValue, skipBlank_cons (by decide)]
    simp only [readString_print, Option.map_some]
  | .array xs =>
    have length : (Document.array xs).print.length = (printElements xs).length + 2 := by
      simp [Document.print]
    rw [Document.print, List.cons_append, List.cons_append, List.append_assoc,
      List.singleton_append]
    exact h.array_succ xs rest plain (by omega)
  | .object ms =>
    have length : (Document.object ms).print.length = (printMembers ms).length + 2 := by
      simp [Document.print]
    rw [Document.print, List.cons_append, List.cons_append, List.append_assoc,
      List.singleton_append]
    exact h.object_succ ms rest plain (by omega)

private theorem elements_succ (x : Document) (xs : List Document) (rest : Chars)
    (plain : PlainElements (x :: xs))
    (enough : 2 * (printElements (x :: xs)).length ≤ fuel) :
    readElements (fuel + 1) (printElements (x :: xs) ++ ']' :: rest) = some (x :: xs, rest) := by
  obtain ⟨first, plain⟩ := plain
  cases xs with
  | nil =>
    have read := h.value x (']' :: rest) first (by simp [EndsNumber]) enough
    rw [printElements, readElements, read]
    simp only [Option.bind_eq_bind, Option.bind_some, skipBlank_cons (by decide : isBlank ']' = false)]
  | cons y ys =>
    have length : (printElements (x :: y :: ys)).length =
        x.print.length + (printElements (y :: ys)).length + 1 := by
      simp [printElements]
      omega
    have read := h.value x (',' :: (printElements (y :: ys) ++ ']' :: rest)) first
      (by simp [EndsNumber]) (by omega)
    have others := h.elements y ys rest plain (by omega)
    rw [printElements, List.append_assoc, List.cons_append, readElements, read]
    simp only [Option.bind_eq_bind, Option.bind_some, skipBlank_cons (by decide : isBlank ',' = false),
      others]

private theorem members_succ (m : Option String × Document) (ms : List (Option String × Document))
    (rest : Chars) (plain : PlainMembers (m :: ms))
    (enough : 2 * (printMembers (m :: ms)).length ≤ fuel) :
    readMembers (fuel + 1) (printMembers (m :: ms) ++ '}' :: rest) = some (m :: ms, rest) := by
  obtain ⟨name, x⟩ := m
  obtain ⟨named, first, plain⟩ := plain
  obtain ⟨name, rfl⟩ := Option.isSome_iff_exists.mp named
  have quote : isBlank '"' = false := by decide
  have colon : isBlank ':' = false := by decide
  cases ms with
  | nil =>
    have length : (printMembers [(some name, x)]).length =
        (printString name).length + x.print.length + 1 := by
      simp [printMembers]
      omega
    have read := h.value x ('}' :: rest) first (by simp [EndsNumber]) (by omega)
    simp only [printMembers, printString, Option.getD_some, List.cons_append, List.append_assoc,
      List.nil_append, readMembers, skipBlank_cons quote, readString_print, Option.bind_eq_bind,
      Option.bind_some, skipBlank_cons colon, read,
      skipBlank_cons (by decide : isBlank '}' = false)]
  | cons m ms =>
    have length : (printMembers ((some name, x) :: m :: ms)).length =
        (printString name).length + x.print.length + (printMembers (m :: ms)).length + 2 := by
      simp [printMembers]
      omega
    have read := h.value x (',' :: (printMembers (m :: ms) ++ '}' :: rest)) first
      (by simp [EndsNumber]) (by omega)
    have others := h.members m ms rest plain (by omega)
    simp only [printMembers, printString, Option.getD_some, List.cons_append, List.append_assoc,
      List.nil_append, readMembers, skipBlank_cons quote, readString_print, Option.bind_eq_bind,
      Option.bind_some, skipBlank_cons colon, read,
      skipBlank_cons (by decide : isBlank ',' = false), others]

end Reads

theorem reads (fuel : Nat) : Reads fuel := by
  induction fuel with
  | zero =>
    refine ⟨fun d rest plain ends enough => ?_, fun x xs rest plain enough => ?_,
      fun m ms rest plain enough => ?_⟩
    · obtain ⟨c, s, split, -⟩ := d.print_cons
      simp [split] at enough
    · omega
    · omega
  | succ fuel ih =>
    exact ⟨ih.value_succ, fun x xs rest plain enough => ih.elements_succ x xs rest plain (by omega),
      fun m ms rest plain enough => ih.members_succ m ms rest plain (by omega)⟩

theorem parse?_toText {d : Document} (plain : d.IsPlain) : Document.parse? d.toText = some d := by
  have read := (reads (2 * d.print.length + 2)).value d [] plain nofun (by omega)
  rw [List.append_nil] at read
  rw [Document.parse?, Document.toText]
  simp only [String.toList_ofList, read]
  rfl

end DevicePairing.Json
