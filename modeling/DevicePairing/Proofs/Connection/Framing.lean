import DevicePairing.Connection.Framing
import DevicePairing.Proofs.Cbor.Lawful

set_option autoImplicit false
set_option relaxedAutoImplicit false

namespace DevicePairing

open DevicePairing.Bytes

namespace Connection

/-- The content of a record is not longer than allowed. -/
def Fits (content : Bytes) : Prop := content.length ≤ maxRecordLength

def framed (contents : List Bytes) : Bytes :=
  contents.flatMap fun content => bigEndian 4 content.length ++ content

@[simp] theorem framed_nil : framed [] = [] := rfl

theorem framed_cons (content : Bytes) (more : List Bytes) :
    framed (content :: more) = bigEndian 4 content.length ++ (content ++ framed more) := by
  rw [framed, List.flatMap_cons, List.append_assoc]
  rfl

theorem framed_append (contents more : List Bytes) :
    framed (contents ++ more) = framed contents ++ framed more := List.flatMap_append

theorem writeRecord_eq_ok {content octets : Bytes} :
    writeRecord content = .ok octets ↔ Fits content ∧ octets = framed [content] := by
  unfold writeRecord
  split
  · rename_i fits
    rw [Except.ok.injEq, framed_cons, framed_nil, List.append_nil]
    exact ⟨fun same => ⟨fits, same.symm⟩, fun same => same.2.symm⟩
  · rename_i long
    exact ⟨nofun, fun same => absurd same.1 long⟩

private theorem bigEndian_length_lt {n : Nat} (fits : n ≤ maxRecordLength) : n < 1 <<< (8 * 4) :=
  Nat.lt_of_le_of_lt fits (by decide)

namespace RecordReader

/-- What the reader has of the records that it did not find yet, from the head of the next one
on. -/
def ahead (r : RecordReader) : Bytes :=
  match r.expected with
  | none => r.buffer
  | some n => bigEndian 4 n ++ r.buffer

theorem ahead_push (r : RecordReader) (segment : Bytes) :
    (r.push segment).ahead = r.ahead ++ segment := by
  unfold ahead RecordReader.push
  cases r.expected with
  | none => rfl
  | some n => rw [List.append_assoc]

/-- The reader is on its way through some records: what is ahead of it are their octets, up to
those that are still coming. -/
structure Awaits (r : RecordReader) (coming : Bytes) (contents : List Bytes) : Prop where
  sound : r.failed = false
  expected : ∀ n, r.expected = some n → n ≤ maxRecordLength
  octets : r.ahead ++ coming = framed contents
  fits : ∀ content ∈ contents, Fits content

namespace Awaits

variable {r : RecordReader} {coming : Bytes} {contents : List Bytes}

theorem fresh (fits : ∀ content ∈ contents, Fits content) :
    Awaits .fresh (framed contents) contents :=
  ⟨rfl, nofun, rfl, fits⟩

theorem push (h : Awaits r coming contents) (n : Nat) :
    Awaits (r.push (coming.take n)) (coming.drop n) contents := by
  refine ⟨h.sound, h.expected, ?_, h.fits⟩
  rw [ahead_push, List.append_assoc, List.take_append_drop, h.octets]

theorem append (h : Awaits r coming contents) {more : List Bytes}
    (fits : ∀ content ∈ more, Fits content) :
    Awaits r (coming ++ framed more) (contents ++ more) := by
  refine ⟨h.sound, h.expected, ?_, ?_⟩
  · rw [← List.append_assoc, h.octets, framed_append]
  · intro content member
    rcases List.mem_append.mp member with old | new
    · exact h.fits content old
    · exact fits content new

private theorem eq_nil (h : Awaits r coming []) : r.ahead = [] ∧ coming = [] :=
  List.append_eq_nil_iff.mp h.octets

private theorem takeHead (h : Awaits r coming contents) :
    ∃ r', r.takeHead = .ok r' ∧ Awaits r' coming contents ∧ r'.ahead = r.ahead ∧
      (r'.expected = none → r'.buffer.length < 4) := by
  obtain ⟨buffer, expected, failed⟩ := r
  obtain rfl : failed = false := h.sound
  cases expected with
  | some n => exact ⟨_, rfl, h, rfl, nofun⟩
  | none =>
    cases enough : split? 4 buffer with
    | none =>
      refine ⟨⟨buffer, none, false⟩, ?_, h, rfl, fun _ => split?_eq_none enough⟩
      simp only [RecordReader.takeHead, enough]
    | some cut =>
      obtain ⟨front, rest⟩ := cut
      obtain ⟨four, rfl⟩ := split?_eq_some enough
      have octets : front ++ (rest ++ coming) = framed contents := by
        rw [← List.append_assoc]
        exact h.octets
      cases contents with
      | nil =>
        rw [framed_nil, List.append_eq_nil_iff] at octets
        rw [octets.1] at four
        cases four
      | cons content more =>
        have fits : content.length ≤ maxRecordLength := h.fits content List.mem_cons_self
        rw [framed_cons] at octets
        obtain ⟨rfl, more⟩ := List.append_inj octets (by rw [four, length_bigEndian])
        have counted := toNatBE_bigEndian (bigEndian_length_lt fits)
        refine ⟨⟨rest, some content.length, false⟩, ?_, ⟨rfl, ?_, ?_, h.fits⟩, rfl, nofun⟩
        · simp only [RecordReader.takeHead, enough, counted, if_pos fits]
        · intro n same
          cases same
          exact fits
        · rw [framed_cons, ← more, ← List.append_assoc]
          rfl

private theorem takeContent (h : Awaits r coming contents)
    (short : r.expected = none → r.buffer.length < 4) :
    (∃ content more r', contents = content :: more ∧ r.takeContent? = some (content, r') ∧
        Awaits r' coming more) ∨
      (r.takeContent? = none ∧
        ∀ content more, contents = content :: more → r.ahead.length < 4 + content.length) := by
  obtain ⟨buffer, expected, failed⟩ := r
  obtain rfl : failed = false := h.sound
  have octets := h.octets
  cases expected with
  | none =>
    have few : buffer.length < 4 := short rfl
    exact .inr ⟨rfl, fun content more _ => Nat.lt_of_lt_of_le few (Nat.le_add_right _ _)⟩
  | some n =>
    have small : n ≤ maxRecordLength := h.expected n rfl
    cases contents with
    | nil =>
      have lengths := congrArg List.length h.eq_nil.1
      rw [ahead, List.length_append, length_bigEndian, List.length_nil] at lengths
      omega
    | cons content more =>
      have fits : content.length ≤ maxRecordLength := h.fits content List.mem_cons_self
      rw [framed_cons, ahead, List.append_assoc] at octets
      obtain ⟨head, octets⟩ := List.append_inj octets (by rw [length_bigEndian, length_bigEndian])
      obtain rfl : n = content.length := by
        have numbers := congrArg toNatBE head
        rwa [toNatBE_bigEndian (bigEndian_length_lt small),
          toNatBE_bigEndian (bigEndian_length_lt fits)] at numbers
      cases found : split? content.length buffer with
      | none =>
        refine .inr ⟨?_, ?_⟩
        · simp only [RecordReader.takeContent?, found, Option.map_none]
        · rintro content' more' same
          obtain ⟨rfl, -⟩ := List.cons.inj same
          rw [ahead, List.length_append, length_bigEndian]
          exact Nat.add_lt_add_left (split?_eq_none found) 4
      | some cut =>
        obtain ⟨front, rest⟩ := cut
        obtain ⟨whole, rfl⟩ := split?_eq_some found
        rw [List.append_assoc] at octets
        obtain ⟨rfl, left⟩ := List.append_inj octets whole
        refine .inl ⟨front, more, ⟨rest, none, false⟩, rfl, ?_, rfl, nofun, left, ?_⟩
        · simp only [RecordReader.takeContent?, found, Option.map_some]
        · exact fun c member => h.fits c (List.mem_cons_of_mem front member)

private theorem length_ahead_of_record {content : Bytes} {more : List Bytes} {r' : RecordReader}
    (h : Awaits r coming (content :: more)) (h' : Awaits r' coming more) :
    r.ahead.length = 4 + content.length + r'.ahead.length := by
  have lengths := congrArg List.length h.octets
  have lengths' := congrArg List.length h'.octets
  rw [framed_cons, List.length_append, List.length_append, List.length_append,
    length_bigEndian] at lengths
  rw [List.length_append] at lengths'
  omega

/-- A reader finds the next record as soon as all of it came. -/
theorem next_of_whole {content : Bytes} {more : List Bytes} (h : Awaits r coming (content :: more))
    (whole : 4 + content.length ≤ r.ahead.length) (ended : Bool) :
    ∃ r', r.next ended = (.record content, r') ∧ Awaits r' coming more := by
  obtain ⟨r', used, h', same, short⟩ := h.takeHead
  rw [RecordReader.next, h.sound, used]
  rcases h'.takeContent short with ⟨content', more', r'', split, found, h''⟩ | ⟨-, partly⟩
  · obtain ⟨rfl, rfl⟩ := List.cons.inj split
    refine ⟨r'', ?_, h''⟩
    simp only [found]
    rfl
  · have less := partly content more rfl
    rw [same] at less
    omega

/-- Before that it waits, and if nothing more comes, the connection has ended inside a record unless
nothing came or just the head. -/
theorem next_of_partial (h : Awaits r coming contents)
    (partly : ∀ content more, contents = content :: more → r.ahead.length < 4 + content.length)
    (ended : Bool) :
    (r.next ended).1 =
      if !ended then .pending
      else if r.ahead.length = 0 ∨ r.ahead.length = 4 then .ended else .fault .truncated := by
  obtain ⟨r', used, h', same, short⟩ := h.takeHead
  rw [RecordReader.next, h.sound, used]
  rcases h'.takeContent short with ⟨content, more, r'', rfl, -, h''⟩ | ⟨missing, -⟩
  · have less := partly content more rfl
    have lengths := h.length_ahead_of_record h''
    omega
  · have buffer : r'.buffer.isEmpty = decide (r.ahead.length = 0 ∨ r.ahead.length = 4) := by
      rw [← same, Bool.eq_iff_iff, List.isEmpty_iff_length_eq_zero, decide_eq_true_iff, ahead]
      cases expected : r'.expected with
      | none =>
        have few := short expected
        simp only
        omega
      | some n =>
        rw [List.length_append, length_bigEndian]
        omega
    simp only [missing, buffer, decide_eq_true_eq]
    cases ended with
    | false => rfl
    | true =>
      simp only [Bool.not_true, Bool.false_eq_true, if_false]
      split <;> rfl

/-- A reader finds the next record as soon as it is there, the end when there is none, and nothing
else. -/
theorem next (h : Awaits r coming contents) {ended : Bool} (last : ended = true → coming = []) :
    (∃ content more r', contents = content :: more ∧ r.next ended = (.record content, r') ∧
        Awaits r' coming more) ∨
      ((r.next ended).1 = .pending ∧ ended = false ∧ (coming = [] → contents = [])) ∨
      ((r.next ended).1 = .ended ∧ ended = true ∧ contents = []) := by
  by_cases whole : ∃ content more, contents = content :: more ∧ 4 + content.length ≤ r.ahead.length
  · obtain ⟨content, more, rfl, whole⟩ := whole
    obtain ⟨r', found, h'⟩ := h.next_of_whole whole ended
    exact .inl ⟨content, more, r', rfl, found, h'⟩
  · right
    have partly : ∀ content more, contents = content :: more →
        r.ahead.length < 4 + content.length :=
      fun content more same => Nat.lt_of_not_le fun enough => whole ⟨content, more, same, enough⟩
    have finished : coming = [] → contents = [] := by
      rintro rfl
      cases contents with
      | nil => rfl
      | cons content more =>
        have less := partly content more rfl
        have lengths := congrArg List.length h.octets
        rw [List.append_nil, framed_cons, List.length_append, List.length_append,
          length_bigEndian] at lengths
        omega
    have found := h.next_of_partial partly ended
    cases ended with
    | false => exact .inl ⟨found, rfl, finished⟩
    | true =>
      obtain rfl := finished (last rfl)
      rw [h.eq_nil.1] at found
      exact .inr ⟨found, rfl, rfl⟩

theorem next_nothing (h : Awaits r coming []) : (r.next false).1 = .pending := by
  rcases h.next (fun ended : false = true => absurd ended Bool.false_ne_true) with
    ⟨_, _, _, same, -, -⟩ | ⟨next, -, -⟩ | ⟨-, ended, -⟩
  · cases same
  · exact next
  · cases ended

end Awaits

end RecordReader

end Connection

end DevicePairing
