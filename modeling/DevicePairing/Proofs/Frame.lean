import DevicePairing.Frame
import DevicePairing.Proofs.Cbor.Compound

set_option autoImplicit false
set_option relaxedAutoImplicit false

namespace DevicePairing

open DevicePairing.Cbor

theorem Certificate.lawful_codec : Certificate.codec.Lawful 2 := by
  refine Codec.Lawful.convert (Codec.lawful_record _ ?_ (by decide)) fun c => rfl
  exact ⟨Codec.lawful_octets, Codec.lawful_text.mono (by decide), Codec.lawful_text.mono (by decide),
    Codec.lawful_key, Codec.lawful_uint64.mono (by decide), Codec.lawful_octets, trivial⟩

theorem IssuedCredentials.lawful_codec : IssuedCredentials.codec.Lawful 3 := by
  refine Codec.Lawful.convert (Codec.lawful_record _ ?_ (by decide)) fun i => rfl
  exact ⟨Certificate.lawful_codec, Codec.lawful_key.mono (by decide), trivial⟩

private theorem Outcome.lawful_reasonCodec : Outcome.reasonCodec.Lawful 1 := by
  refine Codec.Lawful.convert (Codec.lawful_record _ ?_ (by decide)) fun reason => rfl
  exact ⟨Codec.lawful_text, trivial⟩

theorem Outcome.lawful_codec : Outcome.codec.Lawful 4 := by
  intro o
  cases o with
  | approved issued => exact Codec.reads_wrapping rfl IssuedCredentials.lawful_codec issued
  | rejected reason =>
    have lawful := Outcome.lawful_reasonCodec.mono (by decide : 1 ≤ 3)
    refine Codec.reads_variant rfl fun depth rest offset deep fits => ?_
    simp only [lawful reason depth rest offset deep fits, Results.ok_bind]

theorem PairResponse.lawful_codec : PairResponse.codec.Lawful 5 := by
  refine Codec.Lawful.convert (Codec.lawful_record _ ?_ (by decide)) fun r => rfl
  exact ⟨Codec.lawful_text.mono (by decide), Outcome.lawful_codec, trivial⟩

namespace Frame

/-- The octets fit the memory of a machine of sixty-four bits, which can count no more. -/
def Countable (b : Bytes) : Prop := b.length < 1 <<< 64

/-- A response is read back under both versions. -/
theorem decode_response (version : ProtocolVersion) {r : PairResponse}
    (fits : Countable (encode (.response r))) :
    decode version (encode (.response r)) = .ok (.response r) := by
  have counted : (PairResponse.codec.write r).length < 1 <<< 64 := by
    simp only [Countable, encode, List.length_cons] at fits
    omega
  have known : ¬ responseTag ∉ tagTable version := by cases version <;> decide
  rw [encode, decode, if_neg known, if_pos rfl, decodeResponse,
    PairResponse.lawful_codec.decode_write (by decide) counted]

/-- A text is read back under the first version. -/
theorem decode_info (text : String) : decode .v1 (encode (.info text)) = .ok (.info text) := by
  rw [encode, decode, if_neg (by decide), if_neg (by decide), decodeInfo,
    Text.Utf8.toString_ofString]

theorem approved_ne_rejected (session : String) (issued : IssuedCredentials) (reason : String) :
    encode (.response ⟨session, .approved issued⟩) ≠
      encode (.response ⟨session, .rejected reason⟩) := by
  intro same
  have approved : writeText "Approved" = 0x68 :: 0x41 :: Text.Utf8.ofString "pproved" := by decide
  have rejected : writeText "Rejected" = 0x68 :: 0x52 :: Text.Utf8.ofString "ejected" := by decide
  simp only [encode, PairResponse.codec, Codec.convert, Codec.record, Fields.write,
    List.cons.injEq, List.append_assoc, List.append_cancel_left_eq, Outcome.codec, Codec.choice,
    writeVariant, approved, rejected, List.cons_append, true_and] at same
  exact absurd same.1 (by decide)

end Frame

end DevicePairing
