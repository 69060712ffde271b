import DevicePairing.Connection.Server
import DevicePairing.Proofs.Frame
import DevicePairing.Proofs.Text.Utf8

set_option autoImplicit false
set_option relaxedAutoImplicit false

/-!
What octets are read as a frame. The two versions differ in texts only, a frame is the last one
exactly if its first octet is the tag of a response, and each way to fail has octets of its own.
-/

namespace DevicePairing.Frame

open DevicePairing.Connection (ServerSide)
open DevicePairing.Text

private theorem mem_tagTable {version : ProtocolVersion} {tag : UInt8} :
    tag ∈ tagTable version ↔ tag = responseTag ∨ version = .v1 ∧ tag = infoTag := by
  cases version <;> simp [tagTable]

/-- Octets after a tag that hold nothing of its type: they are no response, or no text is written
like them. -/
inductive Unreadable : UInt8 → Bytes → Prop where
  | response {payload : Bytes} (none : ∀ r, PairResponse.codec.decode payload ≠ .ok r) :
      Unreadable responseTag payload
  | info {payload : Bytes} (none : ∀ text, Utf8.ofString text ≠ payload) :
      Unreadable infoTag payload

/-- What octets can be read as under a version. -/
inductive Reading (version : ProtocolVersion) : Bytes → Except FrameError Frame → Prop where
  | empty : Reading version [] (.error .empty)
  | unknown {tag : UInt8} (payload : Bytes) (unknown : tag ∉ tagTable version) :
      Reading version (tag :: payload) (.error (.unknownType tag))
  | response {payload : Bytes} {r : PairResponse} (read : PairResponse.codec.decode payload = .ok r) :
      Reading version (responseTag :: payload) (.ok (.response r))
  | info (text : String) (known : infoTag ∈ tagTable version) :
      Reading version (encode (.info text)) (.ok (.info text))
  | unreadable {tag : UInt8} {payload : Bytes} (known : tag ∈ tagTable version)
      (unreadable : Unreadable tag payload) (detail : String) :
      Reading version (tag :: payload) (.error (.payload detail))

section

variable {version : ProtocolVersion}

private theorem reading_response (payload : Bytes) :
    Reading version (responseTag :: payload) (decodeResponse payload) := by
  unfold decodeResponse
  cases decoded : PairResponse.codec.decode payload with
  | ok r => exact .response decoded
  | error cause =>
    refine .unreadable (mem_tagTable.mpr (.inl rfl)) (.response fun r read => ?_) _
    rw [decoded] at read
    cases read

private theorem reading_info (payload : Bytes) (known : infoTag ∈ tagTable version) :
    Reading version (infoTag :: payload) (decodeInfo payload) := by
  unfold decodeInfo
  cases read : Utf8.toString payload with
  | ok text =>
    rw [← Utf8.ofString_of_toString read]
    exact .info text known
  | error fault =>
    refine .unreadable known (.info fun text written => ?_) _
    rw [← written, Utf8.toString_ofString] at read
    cases read

private theorem reading_decode (b : Bytes) : Reading version b (decode version b) := by
  cases b with
  | nil => exact .empty
  | cons tag payload =>
    rw [decode]
    split
    · rename_i unknown
      exact .unknown payload unknown
    · rename_i known
      rw [not_not] at known
      split
      · rename_i same
        rw [same]
        exact reading_response payload
      · rename_i other
        obtain rfl : tag = infoTag := ((mem_tagTable.mp known).resolve_left other).2
        exact reading_info payload known

theorem reading_of_eq {b : Bytes} {result : Except FrameError Frame}
    (h : decode version b = result) : Reading version b result := by
  rw [← h]
  exact reading_decode b

private theorem decode_of_unknown {tag : UInt8} (unknown : tag ∉ tagTable version)
    (payload : Bytes) :
    decode version (tag :: payload) = .error (.unknownType tag) := if_pos unknown

private theorem decode_eq_decode {b : Bytes} (other : b.head? ≠ some infoTag) :
    decode .v1 b = decode .v2 b := by
  cases b with
  | nil => rfl
  | cons tag payload =>
    have different : tag ≠ infoTag := fun same => other (congrArg some same)
    simp only [decode, mem_tagTable, different, and_false, or_false]

private theorem decode_eq_empty {b : Bytes} : decode version b = .error .empty ↔ b = [] := by
  constructor
  · intro h
    cases reading_of_eq h
    rfl
  · rintro rfl
    rfl

private theorem decode_eq_unknownType {b : Bytes} {tag : UInt8} :
    decode version b = .error (.unknownType tag) ↔ b.head? = some tag ∧ tag ∉ tagTable version := by
  constructor
  · intro h
    cases reading_of_eq h with
    | unknown payload unknown => exact ⟨rfl, unknown⟩
  · rintro ⟨first, unknown⟩
    obtain ⟨payload, rfl⟩ := List.head?_eq_some_iff.mp first
    exact decode_of_unknown unknown payload

private theorem decode_eq_payload {b : Bytes} :
    (∃ detail, decode version b = .error (.payload detail)) ↔
      ∃ tag payload, b = tag :: payload ∧ tag ∈ tagTable version ∧ Unreadable tag payload := by
  constructor
  · rintro ⟨detail, h⟩
    cases reading_of_eq h with
    | unreadable known unreadable => exact ⟨_, _, rfl, known, unreadable⟩
  · rintro ⟨tag, payload, rfl, known, unreadable⟩
    generalize read : decode version (tag :: payload) = result
    cases reading_of_eq read with
    | unknown payload unknown => exact absurd known unknown
    | response accepted =>
      cases unreadable with
      | response none => exact absurd accepted (none _)
    | info text known =>
      cases unreadable with
      | info none => exact absurd rfl (none text)
    | unreadable known unreadable detail => exact ⟨detail, rfl⟩

private theorem encode_of_decode_info {b : Bytes} {text : String}
    (h : decode version b = .ok (.info text)) : encode (.info text) = b := by
  cases reading_of_eq h with
  | info text known => rfl

private theorem head?_of_decode {b : Bytes} {f : Frame} (h : decode version b = .ok f) :
    b.head? = some f.tag := by
  cases reading_of_eq h <;> rfl

private theorem isTerminal_iff_tag (f : Frame) : f.isTerminal = true ↔ f.tag = responseTag := by
  cases f with
  | response r => exact iff_of_true rfl rfl
  | info text => exact iff_of_false Bool.false_ne_true (by decide : infoTag ≠ responseTag)

private theorem passOn_of_decode {b : Bytes} {f : Frame} (h : decode version b = .ok f) :
    (ServerSide.passOn (.ok b)).2 = f.isTerminal := by
  simp only [ServerSide.passOn, head?_of_decode h]
  cases f <;> rfl

end

private theorem decode_encode (version : ProtocolVersion) {f : Frame}
    (fits : Countable (encode f)) :
    decode version (encode f) =
      if f.tag ∈ tagTable version then .ok f else .error (.unknownType f.tag) := by
  cases f with
  | response r =>
    have known : (Frame.response r).tag ∈ tagTable version := mem_tagTable.mpr (.inl rfl)
    rw [if_pos known, decode_response version fits]
  | info text =>
    cases version with
    | v1 => exact decode_info text
    | v2 => exact decode_of_unknown (by decide) _

/-- How octets are read under a version, and by the server that passes them on. -/
structure Readable (version : ProtocolVersion) (b : Bytes) : Prop where
  text : ∀ text, decode version b = .ok (.info text) → encode (.info text) = b
  last : ∀ f, decode version b = .ok f → (f.isTerminal = true ↔ b.head? = some responseTag)
  closing : ∀ f, decode version b = .ok f → (ServerSide.passOn (.ok b)).2 = f.isTerminal
  empty : decode version b = .error .empty ↔ b = []
  unknown : ∀ tag, decode version b = .error (.unknownType tag) ↔
    b.head? = some tag ∧ tag ∉ tagTable version
  payload : (∃ detail, decode version b = .error (.payload detail)) ↔
    ∃ tag payload, b = tag :: payload ∧ tag ∈ tagTable version ∧ Unreadable tag payload

/-- Frames are read back under the versions that know their tags. Whatever octets come, what the
second version accepts the first reads alike, and the versions differ after the tag of a text only;
the new device and the server take the same frames for the last ones; and each error has octets of
its own. -/
theorem frames_have_one_reading :
    (∀ (f : Frame) (version : ProtocolVersion), Countable (encode f) →
      decode version (encode f) =
        if f.tag ∈ tagTable version then .ok f else .error (.unknownType f.tag)) ∧
    ∀ b : Bytes,
      (∀ f, decode .v2 b = .ok f → decode .v1 b = .ok f) ∧
      (decode .v1 b ≠ decode .v2 b → b.head? = some infoTag) ∧
      ∀ version, Readable version b := by
  refine ⟨fun f version fits => decode_encode version fits, fun b => ⟨?_, ?_, fun version => ?_⟩⟩
  · intro f h
    have other : b.head? ≠ some infoTag := by
      rw [head?_of_decode h]
      cases reading_of_eq h with
      | response read => exact (by decide : some responseTag ≠ some infoTag)
      | info text known => exact absurd known (by decide)
    rw [decode_eq_decode other, h]
  · intro different
    by_contra other
    exact different (decode_eq_decode other)
  · refine ⟨fun text h => encode_of_decode_info h, fun f h => ?_, fun f h => passOn_of_decode h,
      decode_eq_empty, fun tag => decode_eq_unknownType, decode_eq_payload⟩
    rw [isTerminal_iff_tag, head?_of_decode h, Option.some.injEq]

namespace Sample

def denial : Frame := .response ⟨"sess-1", .rejected "denied"⟩

private theorem denial_countable : Countable (encode denial) := by
  show (encode denial).length < 1 <<< 64
  decide +kernel

end Sample

theorem frames_have_one_reading_of_denial :
    Countable (encode Sample.denial) ∧
      decode .v2 (encode Sample.denial) = .ok Sample.denial ∧
      Readable .v2 (encode Sample.denial) :=
  ⟨Sample.denial_countable, frames_have_one_reading.1 Sample.denial .v2 Sample.denial_countable,
    (frames_have_one_reading.2 (encode Sample.denial)).2.2 .v2⟩

end DevicePairing.Frame
