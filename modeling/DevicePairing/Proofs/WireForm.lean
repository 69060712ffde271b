import DevicePairing.Proofs.Cbor.Extension
import DevicePairing.Proofs.Message

set_option autoImplicit false
set_option relaxedAutoImplicit false

/-!
The written form of everything that is written. A value is read back from its octets, and its octets
say where they end: with anything after them they are refused, and so they are without their last
octets. Different values of a type are written differently.
-/

namespace DevicePairing

open DevicePairing.Cbor

private theorem Certificate.steady_codec : Steady Certificate.codec.read := by
  refine Codec.steady_convert (Codec.steady_record ?_) _ _
  exact ⟨Codec.steady_octets, Codec.steady_text, Codec.steady_text, Codec.steady_key,
    Codec.steady_uint64, Codec.steady_octets, trivial⟩

private theorem IssuedCredentials.steady_codec : Steady IssuedCredentials.codec.read := by
  refine Codec.steady_convert (Codec.steady_record ?_) _ _
  exact ⟨Certificate.steady_codec, Codec.steady_key, trivial⟩

private theorem Outcome.steady_reasonCodec : Steady Outcome.reasonCodec.read := by
  refine Codec.steady_convert (Codec.steady_record ?_) _ _
  exact ⟨Codec.steady_text, trivial⟩

private theorem Outcome.steady_codec : Steady Outcome.codec.read := by
  refine Codec.steady_choice fun v member => ?_
  simp only [List.mem_cons, List.not_mem_nil, or_false] at member
  obtain rfl | rfl := member
  · exact Variant.steady_wrapping IssuedCredentials.steady_codec
  · exact Variant.steady_withFields Outcome.steady_reasonCodec

private theorem PairResponse.steady_codec : Steady PairResponse.codec.read := by
  refine Codec.steady_convert (Codec.steady_record ?_) _ _
  exact ⟨Codec.steady_text, Outcome.steady_codec, trivial⟩

private theorem ProtocolVersion.steady_codec : Steady ProtocolVersion.codec.read :=
  Codec.steady_names _ _ _

private theorem Operation.steady_codec : Steady Operation.codec.read :=
  Codec.steady_names _ _ _

private theorem ErrorCode.steady_wireCodec : Steady ErrorCode.wireCodec.read :=
  Codec.steady_names _ _ _

private theorem PairRequest.steady_codec : Steady PairRequest.codec.read := by
  refine Codec.steady_convert (Codec.steady_record ?_) _ _
  exact ⟨Codec.steady_text, Codec.steady_text, Codec.steady_text, Codec.steady_key,
    ProtocolVersion.steady_codec, trivial⟩

private theorem Opened.steady_codec : Steady Opened.codec.read := by
  refine Codec.steady_convert (Codec.steady_record ?_) _ _
  exact ⟨Codec.steady_text, ProtocolVersion.steady_codec, Codec.steady_optional_text, trivial⟩

private theorem PairingData.steady_codec : Steady PairingData.codec.read := by
  refine Codec.steady_convert (Codec.steady_record ?_) _ _
  exact ⟨Codec.steady_text, Codec.steady_text, Codec.steady_text, Codec.steady_text,
    Codec.steady_text, trivial⟩

private theorem LookupBody.steady_codec : Steady LookupBody.codec.read := by
  refine Codec.steady_convert (Codec.steady_record ?_) _ _
  exact ⟨Codec.steady_text, trivial⟩

private theorem ApprovalBody.steady_codec : Steady ApprovalBody.codec.read := by
  refine Codec.steady_convert (Codec.steady_record ?_) _ _
  exact ⟨Codec.steady_text, Codec.steady_octets, Codec.steady_text, Codec.steady_text, trivial⟩

private theorem RejectionBody.steady_codec : Steady RejectionBody.codec.read := by
  refine Codec.steady_convert (Codec.steady_record ?_) _ _
  exact ⟨Codec.steady_text, Codec.steady_text, trivial⟩

private theorem SignedRequest.steady_codec : Steady SignedRequest.codec.read := by
  refine Codec.steady_convert (Codec.steady_record ?_) _ _
  exact ⟨Operation.steady_codec, Certificate.steady_codec, Codec.steady_octets,
    Codec.steady_octets, trivial⟩

private theorem WireError.steady_wireCodec : Steady WireError.wireCodec.read := by
  refine Codec.steady_convert (Codec.steady_record ?_) _ _
  exact ⟨ErrorCode.steady_wireCodec, Codec.steady_text, trivial⟩

namespace Credentials

theorem lawful_blobCodec : blobCodec.Lawful 3 := by
  refine Codec.Lawful.convert (Codec.lawful_record _ ?_ (by decide)) fun c => rfl
  exact ⟨Codec.lawful_key.mono (by decide), Certificate.lawful_codec,
    Codec.lawful_key.mono (by decide), trivial⟩

private theorem steady_blobCodec : Steady blobCodec.read := by
  refine Codec.steady_convert (Codec.steady_record ?_) _ _
  exact ⟨Codec.steady_key, Certificate.steady_codec, Codec.steady_key, trivial⟩

end Credentials

namespace Connection

private theorem CallMessage.steady_codec : Steady CallMessage.codec.read := by
  refine Codec.steady_choice fun v member => ?_
  simp only [List.mem_cons, List.not_mem_nil, or_false] at member
  obtain rfl | rfl | rfl | rfl := member
  · exact Variant.steady_wrapping PairRequest.steady_codec
  · exact Variant.steady_wrapping SignedRequest.steady_codec
  · exact Variant.steady_wrapping SignedRequest.steady_codec
  · exact Variant.steady_wrapping SignedRequest.steady_codec

private theorem Reply.steady_codec : Steady Reply.codec.read := by
  refine Codec.steady_choice fun v member => ?_
  simp only [List.mem_cons, List.not_mem_nil, or_false] at member
  obtain rfl | rfl | rfl | rfl := member
  · exact Variant.steady_wrapping Opened.steady_codec
  · exact Variant.steady_wrapping PairingData.steady_codec
  · exact trivial
  · exact Variant.steady_wrapping WireError.steady_wireCodec

private theorem StreamRecord.steady_codec : Steady StreamRecord.codec.read := by
  refine Codec.steady_choice fun v member => ?_
  simp only [List.mem_cons, List.not_mem_nil, or_false] at member
  obtain rfl | rfl := member
  · exact Variant.steady_wrapping Codec.steady_octets
  · exact Variant.steady_wrapping WireError.steady_wireCodec

end Connection

/-- The types that have a written form: the messages of a pairing with their parts, the messages of
a connection, and stored credentials. -/
inductive WireType where
  | version
  | pairRequest
  | opened
  | outcome
  | response
  | certificate
  | issued
  | lookup
  | pairingData
  | approval
  | rejection
  | operation
  | signedRequest
  | errorCode
  | error
  | call
  | reply
  | streamRecord
  | credentials
  deriving DecidableEq

namespace WireType

def Value : WireType → Type
  | version => ProtocolVersion
  | pairRequest => PairRequest
  | opened => Opened
  | outcome => Outcome
  | response => PairResponse
  | certificate => Certificate
  | issued => IssuedCredentials
  | lookup => LookupBody
  | pairingData => PairingData
  | approval => ApprovalBody
  | rejection => RejectionBody
  | operation => Operation
  | signedRequest => SignedRequest
  | errorCode => ErrorCode
  | error => WireError
  | call => Connection.CallMessage
  | reply => Connection.Reply
  | streamRecord => Connection.StreamRecord
  | credentials => Credentials

/-- How the values of a type are written and read. -/
def codec : (t : WireType) → Codec t.Value
  | version => ProtocolVersion.codec
  | pairRequest => PairRequest.codec
  | opened => Opened.codec
  | outcome => Outcome.codec
  | response => PairResponse.codec
  | certificate => Certificate.codec
  | issued => IssuedCredentials.codec
  | lookup => LookupBody.codec
  | pairingData => PairingData.codec
  | approval => ApprovalBody.codec
  | rejection => RejectionBody.codec
  | operation => Operation.codec
  | signedRequest => SignedRequest.codec
  | errorCode => ErrorCode.wireCodec
  | error => WireError.wireCodec
  | call => Connection.CallMessage.codec
  | reply => Connection.Reply.codec
  | streamRecord => Connection.StreamRecord.codec
  | credentials => Credentials.blobCodec

private theorem lawful_codec (t : WireType) : t.codec.Lawful 5 := by
  cases t with
  | version => exact ProtocolVersion.lawful_codec.mono (by decide)
  | pairRequest => exact PairRequest.lawful_codec.mono (by decide)
  | opened => exact Opened.lawful_codec.mono (by decide)
  | outcome => exact Outcome.lawful_codec.mono (by decide)
  | response => exact PairResponse.lawful_codec
  | certificate => exact Certificate.lawful_codec.mono (by decide)
  | issued => exact IssuedCredentials.lawful_codec.mono (by decide)
  | lookup => exact LookupBody.lawful_codec.mono (by decide)
  | pairingData => exact PairingData.lawful_codec.mono (by decide)
  | approval => exact ApprovalBody.lawful_codec.mono (by decide)
  | rejection => exact RejectionBody.lawful_codec.mono (by decide)
  | operation => exact Operation.lawful_codec.mono (by decide)
  | signedRequest => exact SignedRequest.lawful_codec.mono (by decide)
  | errorCode => exact ErrorCode.lawful_wireCodec.mono (by decide)
  | error => exact WireError.lawful_wireCodec.mono (by decide)
  | call => exact Connection.CallMessage.lawful_codec.mono (by decide)
  | reply => exact Connection.Reply.lawful_codec.mono (by decide)
  | streamRecord => exact Connection.StreamRecord.lawful_codec.mono (by decide)
  | credentials => exact Credentials.lawful_blobCodec.mono (by decide)

private theorem steady_codec (t : WireType) : Steady t.codec.read := by
  cases t with
  | version => exact ProtocolVersion.steady_codec
  | pairRequest => exact PairRequest.steady_codec
  | opened => exact Opened.steady_codec
  | outcome => exact Outcome.steady_codec
  | response => exact PairResponse.steady_codec
  | certificate => exact Certificate.steady_codec
  | issued => exact IssuedCredentials.steady_codec
  | lookup => exact LookupBody.steady_codec
  | pairingData => exact PairingData.steady_codec
  | approval => exact ApprovalBody.steady_codec
  | rejection => exact RejectionBody.steady_codec
  | operation => exact Operation.steady_codec
  | signedRequest => exact SignedRequest.steady_codec
  | errorCode => exact ErrorCode.steady_wireCodec
  | error => exact WireError.steady_wireCodec
  | call => exact Connection.CallMessage.steady_codec
  | reply => exact Connection.Reply.steady_codec
  | streamRecord => exact Connection.StreamRecord.steady_codec
  | credentials => exact Credentials.steady_blobCodec

end WireType

/-- The octets of a value stand for this value, for no other one, and end where the value ends. -/
structure SelfDelimiting {α : Type} (k : Codec α) (a : α) : Prop where
  decode_write : k.decode (k.write a) = .ok a
  /-- An octet after the value is refused, whatever follows it. -/
  longer : ∀ x s, k.decode (k.write a ++ x :: s) =
    .error (.malformed .trailingData ((k.write a).length + 1))
  shorter : ∀ b s, s ≠ [] → k.write a = b ++ s → ∃ e, k.decode b = .error e
  injective : ∀ a', k.write a' = k.write a → a' = a

/-- Every value is read back from its octets and from nothing longer or shorter, as long as its
octets fit the memory of a machine: texts and strings of octets may have any length, a payload may
be lacking or not, and a time of issue may be any number of sixty-four bits. -/
theorem wire_form_is_self_delimiting (t : WireType) (a : t.Value)
    (fits : Frame.Countable (t.codec.write a)) : SelfDelimiting t.codec a := by
  have shallow : 5 < maxDepth := by decide
  have back := t.lawful_codec.decode_write shallow fits
  refine ⟨back, t.lawful_codec.decode_append shallow fits, ?_, ?_⟩
  · intro b s more parts
    rw [parts] at back
    cases decoded : t.codec.decode b with
    | ok a' => exact absurd decoded (Codec.decode_front t.steady_codec more back)
    | error e => exact ⟨e, rfl⟩
  · intro a' same
    have other := t.lawful_codec.decode_write shallow (a := a') (by rw [same]; exact fits)
    rw [same, back] at other
    exact (Except.ok.inj other).symm

namespace Sample

def latestApproval : PairResponse :=
  ⟨"é", .approved ⟨⟨[0, 23, 24, 255], "", "*", .ofNat 0, 0xFFFFFFFFFFFFFFFF, []⟩, .ofNat 1⟩⟩

private theorem latestApproval_countable :
    Frame.Countable (PairResponse.codec.write latestApproval) := by
  show (PairResponse.codec.write latestApproval).length < 1 <<< 64
  decide +kernel

end Sample

theorem wire_form_of_latestApproval :
    Frame.Countable (PairResponse.codec.write Sample.latestApproval) ∧
      SelfDelimiting PairResponse.codec Sample.latestApproval :=
  ⟨Sample.latestApproval_countable,
    wire_form_is_self_delimiting .response Sample.latestApproval Sample.latestApproval_countable⟩

end DevicePairing
