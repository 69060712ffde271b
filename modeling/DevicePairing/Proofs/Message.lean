import DevicePairing.Connection.Message
import DevicePairing.Proofs.Frame

set_option autoImplicit false
set_option relaxedAutoImplicit false

namespace DevicePairing

open DevicePairing.Cbor

theorem ProtocolVersion.lawful_codec : ProtocolVersion.codec.Lawful 0 := by
  intro v
  cases v <;> exact Codec.reads_constant rfl

theorem PairRequest.lawful_codec : PairRequest.codec.Lawful 2 := by
  refine Codec.Lawful.convert (Codec.lawful_record _ ?_ (by decide)) fun r => rfl
  exact ⟨Codec.lawful_text.mono (by decide), Codec.lawful_text.mono (by decide),
    Codec.lawful_text.mono (by decide), Codec.lawful_key,
    ProtocolVersion.lawful_codec.mono (by decide), trivial⟩

theorem Opened.lawful_codec : Opened.codec.Lawful 1 := by
  refine Codec.Lawful.convert (Codec.lawful_record _ ?_ (by decide)) fun o => rfl
  exact ⟨Codec.lawful_text, ProtocolVersion.lawful_codec, Codec.lawful_optional_text, trivial⟩

theorem PairingData.lawful_codec : PairingData.codec.Lawful 1 := by
  refine Codec.Lawful.convert (Codec.lawful_record _ ?_ (by decide)) fun d => rfl
  exact ⟨Codec.lawful_text, Codec.lawful_text, Codec.lawful_text, Codec.lawful_text,
    Codec.lawful_text, trivial⟩

theorem LookupBody.lawful_codec : LookupBody.codec.Lawful 1 := by
  refine Codec.Lawful.convert (Codec.lawful_record _ ?_ (by decide)) fun b => rfl
  exact ⟨Codec.lawful_text, trivial⟩

theorem ApprovalBody.lawful_codec : ApprovalBody.codec.Lawful 2 := by
  refine Codec.Lawful.convert (Codec.lawful_record _ ?_ (by decide)) fun b => rfl
  exact ⟨Codec.lawful_text.mono (by decide), Codec.lawful_octets,
    Codec.lawful_text.mono (by decide), Codec.lawful_text.mono (by decide), trivial⟩

theorem RejectionBody.lawful_codec : RejectionBody.codec.Lawful 1 := by
  refine Codec.Lawful.convert (Codec.lawful_record _ ?_ (by decide)) fun b => rfl
  exact ⟨Codec.lawful_text, Codec.lawful_text, trivial⟩

theorem Operation.lawful_codec : Operation.codec.Lawful 0 := by
  intro o
  cases o <;> exact Codec.reads_constant rfl

theorem SignedRequest.lawful_codec : SignedRequest.codec.Lawful 3 := by
  refine Codec.Lawful.convert (Codec.lawful_record _ ?_ (by decide)) fun r => rfl
  exact ⟨Operation.lawful_codec.mono (by decide), Certificate.lawful_codec,
    Codec.lawful_octets.mono (by decide), Codec.lawful_octets.mono (by decide), trivial⟩

theorem ErrorCode.lawful_wireCodec : ErrorCode.wireCodec.Lawful 0 := by
  intro e
  cases e <;> exact Codec.reads_constant rfl

theorem WireError.lawful_wireCodec : WireError.wireCodec.Lawful 1 := by
  refine Codec.Lawful.convert (Codec.lawful_record _ ?_ (by decide)) fun e => rfl
  exact ⟨ErrorCode.lawful_wireCodec, Codec.lawful_text, trivial⟩

namespace Connection

theorem CallMessage.lawful_codec : CallMessage.codec.Lawful 4 := by
  intro m
  cases m with
  | pairDevice r => exact Codec.reads_wrapping rfl (PairRequest.lawful_codec.mono (by decide)) r
  | pairingData r => exact Codec.reads_wrapping rfl SignedRequest.lawful_codec r
  | approve r => exact Codec.reads_wrapping rfl SignedRequest.lawful_codec r
  | reject r => exact Codec.reads_wrapping rfl SignedRequest.lawful_codec r

theorem Reply.lawful_codec : Reply.codec.Lawful 2 := by
  intro r
  cases r with
  | opened o => exact Codec.reads_wrapping rfl Opened.lawful_codec o
  | pairingData d => exact Codec.reads_wrapping rfl PairingData.lawful_codec d
  | ack => exact (Codec.reads_constant rfl).mono (by decide)
  | error e => exact Codec.reads_wrapping rfl WireError.lawful_wireCodec e

theorem StreamRecord.lawful_codec : StreamRecord.codec.Lawful 2 := by
  intro r
  cases r with
  | frame octets => exact Codec.reads_wrapping rfl Codec.lawful_octets octets
  | error e => exact Codec.reads_wrapping rfl WireError.lawful_wireCodec e

end Connection

end DevicePairing
