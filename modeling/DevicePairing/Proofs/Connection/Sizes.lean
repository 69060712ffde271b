import DevicePairing.Proofs.Cbor.Size
import DevicePairing.Proofs.Connection.Answers
import DevicePairing.Proofs.Session.Rights

set_option autoImplicit false
set_option relaxedAutoImplicit false

namespace DevicePairing

open DevicePairing.Cbor

theorem Verifies.length {key : Key} {message signature : Bytes}
    (h : Verifies key message signature) : signature.length = 64 := by
  obtain ⟨s, split, -⟩ := h
  have half : ∀ {b : Bytes} {k : Key}, Key.ofBytes? b = some k → b.length = 32 := by
    intro b k made
    unfold Key.ofBytes? at made
    split at made
    · assumption
    · cases made
  obtain ⟨point, first, split⟩ := Option.bind_eq_some_iff.mp split
  obtain ⟨scalar, second, -⟩ := Option.bind_eq_some_iff.mp split
  have front := half first
  have back := half second
  rw [List.length_take] at front
  rw [List.length_drop] at back
  omega

theorem Ed25519.length_sign (k : Ed25519.SecretKey) (message : Bytes) :
    (Ed25519.sign k message).length = 64 := by
  have point : ∀ p : Key, ∀ s : Nat, (p.octets ++ Bytes.littleEndian 32 s).length = 64 := by
    intro p s
    rw [List.length_append, p.length_octets, Bytes.length_littleEndian]
  exact point _ _

theorem length_toHex (b : Bytes) : (Bytes.toHex b).toList.length = 2 * b.length := by
  induction b with
  | nil => rfl
  | cons x b ih =>
    rw [Bytes.toHex, String.toList_ofList] at ih ⊢
    rw [List.flatMap_cons, List.length_append, ih, List.length_cons]
    simp only [List.length_cons, List.length_nil]
    omega

theorem length_sessionName_le (random : Bytes) : (sessionName random).toList.length ≤ 36 := by
  have hyphen : "-".toList.length = 1 := rfl
  simp only [sessionName, String.intercalate_cons_cons, String.intercalate_singleton,
    String.toList_append, List.length_append, length_toHex, List.length_take, hyphen]
  omega

theorem length_payload (session : String) :
    (Exchange.payload session).toList.length = 8 + session.toList.length := by
  have scheme : (Exchange.scheme ++ ":").toList.length = 8 := rfl
  rw [Exchange.payload, String.toList_append, List.length_append, scheme]

section

variable (κ : Measure)

def PairRequest.weights : Weights [String, String, String, Key, ProtocolVersion] :=
  (κ.text, κ.text, κ.text, fun k => κ.numbers k.octets, fun _ => 0, ())

def Certificate.weights : Weights [Bytes, String, String, Key, UInt64, Bytes] :=
  (κ.numbers, κ.text, κ.text, fun k => κ.numbers k.octets, fun _ => 0, κ.numbers, ())

def Certificate.weight (c : Certificate) : Nat :=
  κ.numbers c.deviceKey.octets + κ.numbers c.signature

def SignedRequest.weights : Weights [Operation, Certificate, Bytes, Bytes] :=
  (fun _ => 0, Certificate.weight κ, κ.numbers, κ.numbers, ())

def SignedRequest.weight (r : SignedRequest) : Nat :=
  r.certificate.weight κ + κ.numbers r.body + κ.numbers r.signature

/-- What a request to open a session says about the device. -/
def PairRequest.weight (r : PairRequest) : Nat :=
  κ.text r.name + κ.text r.description + κ.text r.restrictions

def LookupBody.weights : Weights [String] := (κ.text, ())

def ApprovalBody.weights : Weights [String, Bytes, String, String] :=
  (κ.text, κ.numbers, κ.text, κ.text, ())

def ApprovalBody.weight (b : ApprovalBody) : Nat :=
  κ.text b.session + κ.numbers b.node + κ.text b.deviceName + κ.text b.restrictions

def RejectionBody.weights : Weights [String, String] := (κ.text, κ.text, ())

def RejectionBody.weight (b : RejectionBody) : Nat := κ.text b.session + κ.text b.reason

def Connection.CallMessage.weight : Connection.CallMessage → Nat
  | .pairDevice r => r.weight κ
  | .pairingData r => r.weight κ
  | .approve r => r.weight κ
  | .reject r => r.weight κ

end

variable {κ : Measure}

private theorem ProtocolVersion.pays_codec : Pays κ ProtocolVersion.codec.read fun _ => 0 :=
  Codec.pays_names ..

private theorem Operation.pays_codec : Pays κ Operation.codec.read fun _ => 0 := Codec.pays_names ..

private theorem PairRequest.pays_codec : Pays κ PairRequest.codec.read (PairRequest.weight κ) := by
  refine Codec.pays_convert (Pays.mono (Codec.pays_record (PairRequest.weights κ) ?_) ?_)
  · exact ⟨Codec.pays_text, nofun, Codec.pays_text, nofun, Codec.pays_text, nofun, Codec.pays_key,
      nofun, ProtocolVersion.pays_codec, nofun, trivial⟩
  · rintro ⟨name, description, restrictions, key, version, ⟨⟩⟩
    simp only [PairRequest.weight, PairRequest.weights, Weights.tuple]
    omega

private theorem Certificate.pays_codec : Pays κ Certificate.codec.read (Certificate.weight κ) := by
  refine Codec.pays_convert (Pays.mono (Codec.pays_record (Certificate.weights κ) ?_) ?_)
  · exact ⟨Codec.pays_octets, nofun, Codec.pays_text, nofun, Codec.pays_text, nofun,
      Codec.pays_key, nofun, Codec.pays_uint64, nofun, Codec.pays_octets, nofun, trivial⟩
  · rintro ⟨node, deviceName, restrictions, key, issuedAt, signature, ⟨⟩⟩
    simp only [Certificate.weight, Certificate.weights, Weights.tuple]
    omega

theorem SignedRequest.pays_codec : Pays κ SignedRequest.codec.read (SignedRequest.weight κ) := by
  refine Codec.pays_convert (Pays.mono (Codec.pays_record (SignedRequest.weights κ) ?_) ?_)
  · exact ⟨Operation.pays_codec, nofun, Certificate.pays_codec, nofun, Codec.pays_octets, nofun,
      Codec.pays_octets, nofun, trivial⟩
  · rintro ⟨operation, certificate, body, signature, ⟨⟩⟩
    simp only [SignedRequest.weight, SignedRequest.weights, Weights.tuple]
    omega

theorem LookupBody.pays_codec : Pays κ LookupBody.codec.read fun b => κ.text b.session := by
  refine Codec.pays_convert (Pays.mono (Codec.pays_record (LookupBody.weights κ) ?_) ?_)
  · exact ⟨Codec.pays_text, nofun, trivial⟩
  · rintro ⟨session, ⟨⟩⟩
    exact Nat.le_refl _

theorem ApprovalBody.pays_codec : Pays κ ApprovalBody.codec.read (ApprovalBody.weight κ) := by
  refine Codec.pays_convert (Pays.mono (Codec.pays_record (ApprovalBody.weights κ) ?_) ?_)
  · exact ⟨Codec.pays_text, nofun, Codec.pays_octets, nofun, Codec.pays_text, nofun,
      Codec.pays_text, nofun, trivial⟩
  · rintro ⟨session, node, deviceName, restrictions, ⟨⟩⟩
    simp only [ApprovalBody.weight, ApprovalBody.weights, Weights.tuple]
    omega

theorem RejectionBody.pays_codec : Pays κ RejectionBody.codec.read (RejectionBody.weight κ) := by
  refine Codec.pays_convert (Pays.mono (Codec.pays_record (RejectionBody.weights κ) ?_) ?_)
  · exact ⟨Codec.pays_text, nofun, Codec.pays_text, nofun, trivial⟩
  · rintro ⟨session, reason, ⟨⟩⟩
    exact Nat.le_refl _

theorem Connection.CallMessage.pays_codec :
    Pays κ CallMessage.codec.read (CallMessage.weight κ) := by
  refine Codec.pays_choice fun v member => ?_
  simp only [List.mem_cons, List.not_mem_nil, or_false] at member
  rcases member with rfl | rfl | rfl | rfl
  · exact Variant.pays_wrapping PairRequest.pays_codec
  · exact Variant.pays_wrapping SignedRequest.pays_codec
  · exact Variant.pays_wrapping SignedRequest.pays_codec
  · exact Variant.pays_wrapping SignedRequest.pays_codec

namespace Connection

open DevicePairing.Text
open DevicePairing.Session (StreamItem)

section

open DevicePairing.Cbor.Measure (plain)

theorem length_error_le (e : WireError) :
    (Reply.codec.write (.error e)).length ≤ 56 + plain.text e.message := by
  have whole := total_writeVariant plain "Error" (WireError.wireCodec.write e)
  have content : plain.total (WireError.wireCodec.write e) =
      plain.total (head 5 2) + plain.names ["code", "message"] +
        (plain.total (ErrorCode.wireCodec.write e.code) + (plain.total (writeText e.message) + 0)) :=
    Codec.total_record ..
  have code : plain.total (ErrorCode.wireCodec.write e.code) ≤ 26 := by
    cases e.code <;> decide
  have message := Measure.total_writeText_le Measure.plain_atMost e.message
  have named : plain.octet 0xA1 + plain.names ["Error"] + plain.total (head 5 2) +
      plain.names ["code", "message"] = 21 := by decide
  rw [Measure.total_plain] at whole
  show (writeVariant "Error" (WireError.wireCodec.write e)).length ≤ _
  omega

theorem length_opened_le (o : Opened) :
    (Reply.codec.write (.opened o)).length ≤
      75 + plain.text o.session + o.exchangePayload.elim 0 plain.text := by
  have whole := total_writeVariant plain "Opened" (Opened.codec.write o)
  have content : plain.total (Opened.codec.write o) =
      plain.total (head 5 3) + plain.names ["session_id", "protocol_version", "exchange_payload"] +
        (plain.total (writeText o.session) + (plain.total (ProtocolVersion.codec.write o.version) +
          (plain.total ((Codec.optional Codec.text).write o.exchangePayload) + 0))) :=
    Codec.total_record ..
  have session := Measure.total_writeText_le Measure.plain_atMost o.session
  have version : plain.total (ProtocolVersion.codec.write o.version) = 3 := by
    cases o.version <;> decide
  have payload : plain.total ((Codec.optional Codec.text).write o.exchangePayload) ≤
      9 + o.exchangePayload.elim 0 plain.text := by
    cases o.exchangePayload with
    | none => decide
    | some s => exact Measure.total_writeText_le Measure.plain_atMost s
  have named : plain.octet 0xA1 + plain.names ["Opened"] + plain.total (head 5 3) +
      plain.names ["session_id", "protocol_version", "exchange_payload"] = 54 := by decide
  rw [Measure.total_plain] at whole
  show (writeVariant "Opened" (Opened.codec.write o)).length ≤ _
  omega

theorem length_data_le (d : PairingData) :
    (Reply.codec.write (.pairingData d)).length ≤
      117 + plain.text d.session + plain.text d.exchangePayload + plain.text d.name +
        plain.text d.description + plain.text d.restrictions := by
  have whole := total_writeVariant plain "PairingData" (PairingData.codec.write d)
  have content : plain.total (PairingData.codec.write d) =
      plain.total (head 5 5) +
        plain.names ["session_id", "exchange_payload", "name", "description", "restrictions"] +
        (plain.total (writeText d.session) + (plain.total (writeText d.exchangePayload) +
          (plain.total (writeText d.name) + (plain.total (writeText d.description) +
            (plain.total (writeText d.restrictions) + 0))))) :=
    Codec.total_record ..
  have text := fun s => Measure.total_writeText_le Measure.plain_atMost s
  have session := text d.session
  have payload := text d.exchangePayload
  have name := text d.name
  have description := text d.description
  have restrictions := text d.restrictions
  have named : plain.octet 0xA1 + plain.names ["PairingData"] + plain.total (head 5 5) +
      plain.names ["session_id", "exchange_payload", "name", "description", "restrictions"] = 72 := by
    decide
  rw [Measure.total_plain] at whole
  show (writeVariant "PairingData" (PairingData.codec.write d)).length ≤ _
  omega

theorem total_certificate_le {κ : Measure} {k : Nat} (h : κ.AtMost k) (c : Certificate) :
    κ.total (Certificate.codec.write c) ≤ k * 190 + κ.numbers c.node + κ.text c.deviceName +
      κ.text c.restrictions + κ.numbers c.signature := by
  have content : κ.total (Certificate.codec.write c) =
      κ.total (head 5 6) +
        κ.names ["node_id", "device_name", "restrictions", "device_public_key", "issued_at",
          "signature"] +
        (κ.total (writeOctets c.node) + (κ.total (writeText c.deviceName) +
          (κ.total (writeText c.restrictions) + (κ.total (Codec.key.write c.deviceKey) +
            (κ.total (head 0 c.issuedAt.toNat) + (κ.total (writeOctets c.signature) + 0)))))) :=
    Codec.total_record ..
  have size : κ.total (head 5 6) ≤ k * 1 := Measure.total_le h _
  have names := Measure.names_le h
    ["node_id", "device_name", "restrictions", "device_public_key", "issued_at", "signature"]
  have node := Measure.total_writeOctets_le h c.node
  have deviceName := Measure.total_writeText_le h c.deviceName
  have restrictions := Measure.total_writeText_le h c.restrictions
  have deviceKey := Measure.total_key_le h c.deviceKey
  have issuedAt := Measure.total_head_le h 0 c.issuedAt.toNat
  have signature := Measure.total_writeOctets_le h c.signature
  have named : plain.names ["node_id", "device_name", "restrictions", "device_public_key",
      "issued_at", "signature"] = 71 := by decide
  rw [named] at names
  omega

theorem length_signed_le (r : SignedRequest) :
    (SignedRequest.codec.write r).length ≤ 254 + plain.numbers r.certificate.node +
      plain.text r.certificate.deviceName + plain.text r.certificate.restrictions +
      plain.numbers r.certificate.signature + plain.numbers r.body + plain.numbers r.signature := by
  have content : plain.total (SignedRequest.codec.write r) =
      plain.total (head 5 4) + plain.names ["op", "certificate", "body", "signature"] +
        (plain.total (Operation.codec.write r.operation) +
          (plain.total (Certificate.codec.write r.certificate) +
            (plain.total (writeOctets r.body) + (plain.total (writeOctets r.signature) + 0)))) :=
    Codec.total_record ..
  have operation : plain.total (Operation.codec.write r.operation) ≤ 15 := by
    cases r.operation <;> decide
  have certificate := total_certificate_le Measure.plain_atMost r.certificate
  have body := Measure.total_writeOctets_le Measure.plain_atMost r.body
  have signature := Measure.total_writeOctets_le Measure.plain_atMost r.signature
  have named : plain.total (head 5 4) + plain.names ["op", "certificate", "body", "signature"] =
      31 := by decide
  rw [Measure.total_plain] at content
  omega

end

section

open DevicePairing.Cbor.Measure (plain nested)

theorem length_frame_le (octets : Bytes) :
    (itemRecord (.ok octets)).length ≤ 16 + nested.total octets := by
  have whole := total_writeVariant plain "Frame" (writeOctets octets)
  have content := Measure.total_writeOctets_le Measure.plain_atMost octets
  have named : plain.octet 0xA1 + plain.names ["Frame"] = 7 := by decide
  rw [Measure.total_plain] at whole
  rw [Measure.numbers_plain] at content
  show (writeVariant "Frame" (writeOctets octets)).length ≤ _
  omega

theorem nested_response_le (session : String) (outcome : Outcome) :
    nested.total (Frame.encode (.response ⟨session, outcome⟩)) ≤
      59 + nested.text session + nested.total (Outcome.codec.write outcome) := by
  have tagged : nested.total (Frame.encode (.response ⟨session, outcome⟩)) =
      nested.octet Frame.responseTag + nested.total (PairResponse.codec.write ⟨session, outcome⟩) :=
    Measure.total_cons ..
  have content : nested.total (PairResponse.codec.write ⟨session, outcome⟩) =
      nested.total (head 5 2) + nested.names ["session_id", "outcome"] +
        (nested.total (writeText session) + (nested.total (Outcome.codec.write outcome) + 0)) :=
    Codec.total_record ..
  have text := Measure.total_writeText_le Measure.nested_atMost session
  have named : nested.octet Frame.responseTag + nested.total (head 5 2) +
      nested.names ["session_id", "outcome"] = 41 := by decide
  omega

theorem nested_rejected_le (reason : String) :
    nested.total (Outcome.codec.write (.rejected reason)) ≤ 54 + nested.text reason := by
  have whole := total_writeVariant nested "Rejected" (Outcome.reasonCodec.write reason)
  have content : nested.total (Outcome.reasonCodec.write reason) =
      nested.total (head 5 1) + nested.names ["reason"] + (nested.total (writeText reason) + 0) :=
    Codec.total_record ..
  have text := Measure.total_writeText_le Measure.nested_atMost reason
  have named : nested.octet 0xA1 + nested.names ["Rejected"] + nested.total (head 5 1) +
      nested.names ["reason"] = 36 := by decide
  show nested.total (writeVariant "Rejected" (Outcome.reasonCodec.write reason)) ≤ _
  omega

theorem nested_approved_le (i : IssuedCredentials) :
    nested.total (Outcome.codec.write (.approved i)) ≤ 600 + nested.numbers i.certificate.node +
      nested.text i.certificate.deviceName + nested.text i.certificate.restrictions +
      nested.numbers i.certificate.signature := by
  have whole := total_writeVariant nested "Approved" (IssuedCredentials.codec.write i)
  have content : nested.total (IssuedCredentials.codec.write i) =
      nested.total (head 5 2) + nested.names ["certificate", "authority_key"] +
        (nested.total (Certificate.codec.write i.certificate) +
          (nested.total (Codec.key.write i.authorityKey) + 0)) :=
    Codec.total_record ..
  have certificate := total_certificate_le Measure.nested_atMost i.certificate
  have authorityKey := Measure.total_key_le Measure.nested_atMost i.authorityKey
  have named : nested.octet 0xA1 + nested.names ["Approved"] + nested.total (head 5 2) +
      nested.names ["certificate", "authority_key"] = 74 := by decide
  show nested.total (writeVariant "Approved" (IssuedCredentials.codec.write i)) ≤ _
  omega

end

end Connection

end DevicePairing
