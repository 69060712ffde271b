import DevicePairing.Proofs.Connection.Sizes
import DevicePairing.Proofs.Session.Events
import DevicePairing.Proofs.Session.Origin

set_option autoImplicit false
set_option relaxedAutoImplicit false

/-!
What can be delivered over connections. A record is limited, and the answers to a call are shaped
differently from the call: an approval comes back as a certificate inside a frame inside an item,
and what a new device says comes back beside the name of its session. A call that leaves some room
in its record is certain to be answered with records that fit.
-/

namespace DevicePairing

open DevicePairing.Cbor
open DevicePairing.Cbor.Measure (plain nested)

namespace Connection

open DevicePairing.Clock
open DevicePairing.Session

/-! ### Calls that leave room -/

/-- The octets that a call has to leave free in its record. To look up and to reject none are
needed. -/
def CallMessage.room : CallMessage → Nat
  | .pairDevice _ => 1024
  | .approve _ => 1024
  | _ => 0

/-- The content of a record is read as the call, and there is room left in the record. -/
structure CallMessage.ComesIn (m : CallMessage) (content : Bytes) : Prop where
  decoded : CallMessage.codec.decode content = .ok m
  roomy : content.length + m.room ≤ maxRecordLength

private theorem CallMessage.ComesIn.weight {m : CallMessage} {content : Bytes}
    (h : m.ComesIn content) : m.weight plain + m.room ≤ maxRecordLength := by
  have read : m.weight plain ≤ plain.total content := CallMessage.pays_codec.decode h.decoded
  have roomy := h.roomy
  rw [Measure.total_plain] at read
  omega

private theorem CallMessage.action_injective {m m' : CallMessage} (same : m.action = m'.action) :
    m = m' := by
  cases m <;> cases m' <;> cases same <;> rfl

private theorem nested_body_le {r : SignedRequest} {operation : Operation} {authorityKey : Key}
    (signed : r.SignedFor operation) (certified : r.certificate.SignedBy authorityKey) :
    nested.total r.body + 160 ≤ r.weight plain := by
  have signature := signed.verifies.length
  have signature' := certified.length
  have key := r.certificate.deviceKey.length_octets
  have counted := Measure.length_le_nested r.signature
  have counted' := Measure.length_le_nested r.certificate.signature
  have counted'' := Measure.length_le_nested r.certificate.deviceKey.octets
  simp only [SignedRequest.weight, Certificate.weight, Measure.numbers_plain]
  omega

/-- Every call of a run came in a record with room left. -/
def Carried (as : List Action) : Prop :=
  ∀ m : CallMessage, m.action ∈ as → ∃ content, m.ComesIn content

/-! ### Stream items -/

private theorem fits_timeout : Fits (itemRecord (.error .timeout)) := by
  show (itemRecord (.error .timeout)).length ≤ maxRecordLength
  decide

private theorem text_name_le {κ : Measure} {k : Nat} (h : κ.AtMost k) (entropy : Entropy) :
    κ.text (Service.nextName entropy) ≤ k * 144 ∧
      κ.text (Exchange.payload (Service.nextName entropy)) ≤ k * 176 := by
  have short : (Service.nextName entropy).toList.length ≤ 36 := length_sessionName_le _
  have name := Measure.text_le h (Service.nextName entropy)
  have payload := Measure.text_le h (Exchange.payload (Service.nextName entropy))
  rw [length_payload] at payload
  constructor
  · exact Nat.le_trans name (Nat.mul_le_mul_left k (by omega))
  · exact Nat.le_trans payload (Nat.mul_le_mul_left k (by omega))

private theorem fits_greeting {w : World} {a : Action} {x : StreamItem} (h : a.Greets w x) :
    Fits (itemRecord x) := by
  obtain ⟨r, -, member⟩ := h
  unfold Life.prelude at member
  split at member
  · obtain rfl := List.mem_singleton.mp member
    have size := length_frame_le
      (Frame.encode (.info (Exchange.payload (Service.nextName w.entropy))))
    have content : nested.total (Frame.encode
        (.info (Exchange.payload (Service.nextName w.entropy)))) =
          1 + nested.text (Exchange.payload (Service.nextName w.entropy)) := Measure.total_cons ..
    have payload := (text_name_le Measure.nested_atMost w.entropy).2
    show (itemRecord _).length ≤ 65536
    omega
  · cases member

private theorem fits_rejected {r : SignedRequest} {body : RejectionBody} {authorityKey : Key}
    (signed : r.SignedFor .rejectPairing) (certified : r.certificate.SignedBy authorityKey)
    (decoded : RejectionBody.codec.decode r.body = .ok body)
    (roomy : r.weight plain ≤ maxRecordLength) :
    Fits (itemRecord (.ok (Frame.encode (.response ⟨body.session, .rejected body.reason⟩)))) := by
  have size := length_frame_le (Frame.encode (.response ⟨body.session, .rejected body.reason⟩))
  have frame := nested_response_le body.session (.rejected body.reason)
  have outcome := nested_rejected_le body.reason
  have weight : nested.text body.session + nested.text body.reason ≤ nested.total r.body :=
    RejectionBody.pays_codec.decode decoded
  have rest := nested_body_le signed certified
  simp only [Fits]
  omega

private theorem fits_approved {r : SignedRequest} {body : ApprovalBody} {a : NodeAuthority}
    {authorityKey key : Key} {issuedAt : UInt64} (signed : r.SignedFor .approvePairing)
    (certified : r.certificate.SignedBy authorityKey)
    (decoded : ApprovalBody.codec.decode r.body = .ok body) (node : a.node = body.node)
    (roomy : r.weight plain + 1024 ≤ maxRecordLength) :
    Fits (itemRecord (.ok (Frame.encode (.response ⟨body.session,
      .approved (a.issueCredentials issuedAt key body.deviceName body.restrictions)⟩)))) := by
  generalize issued : a.issueCredentials issuedAt key body.deviceName body.restrictions = i
  have size := length_frame_le (Frame.encode (.response ⟨body.session, .approved i⟩))
  have frame := nested_response_le body.session (.approved i)
  have outcome := nested_approved_le i
  have weight : nested.text body.session + nested.numbers body.node + nested.text body.deviceName +
      nested.text body.restrictions ≤ nested.total r.body := ApprovalBody.pays_codec.decode decoded
  have rest := nested_body_le signed certified
  have signature := Measure.numbers_le Measure.nested_atMost i.certificate.signature
  have length : i.certificate.signature.length = 64 := by
    rw [← issued]
    exact Ed25519.length_sign _ _
  have node' : i.certificate.node = body.node := by rw [← issued, ← node]; rfl
  have name : i.certificate.deviceName = body.deviceName := by rw [← issued]; rfl
  have restrictions : i.certificate.restrictions = body.restrictions := by rw [← issued]; rfl
  rw [node', name, restrictions] at outcome
  rw [length] at signature
  simp only [Fits]
  omega

private theorem fits_decided {b : Beginning} {before : List Action} {h : Happening} {d : Decision}
    (asked : h.decision? (Session.run b.world before) = some d)
    (roomy : ∀ m : CallMessage, m.action = .service h → m.weight plain + m.room ≤ maxRecordLength)
    (key : Key) :
    Fits (itemRecord (.ok (Frame.encode (.response ⟨d.session, d.outcome key⟩)))) := by
  cases h with
  | approve r =>
    simp only [Happening.decision?] at asked
    split at asked
    · cases asked
    · rename_i body a check
      cases asked
      obtain ⟨opened, granted⟩ := (Service.checkApproval_eq_ok body a).mp check
      obtain ⟨⟨signed, decoded⟩, known, certified⟩ :=
        (Service.openAuthorized_eq_ok body a).mp opened
      rw [authority_run] at known
      have node : a.node = body.node := (node_of_registered known).trans granted.1.symm
      exact fits_approved signed certified decoded node (roomy (.approve r) rfl)
  | reject r =>
    simp only [Happening.decision?] at asked
    split at asked
    · cases asked
    · rename_i body check
      cases asked
      obtain ⟨a, opened⟩ := (Service.checkRejection_eq_ok body).mp check
      obtain ⟨⟨signed, decoded⟩, -, certified⟩ := (Service.openAuthorized_eq_ok body a).mp opened
      exact fits_rejected signed certified decoded (roomy (.reject r) rfl)
  | _ => cases asked

private theorem fits_of_sends {b : Beginning} {before : List Action} {a : Action} {x : StreamItem}
    (sends : a.Sends (Session.run b.world before) x)
    (roomy : ∀ m : CallMessage, m.action = a → m.weight plain + m.room ≤ maxRecordLength) :
    Fits (itemRecord x) := by
  rcases sends with rfl | ⟨h, d, e, rfl, asked, -, rfl⟩
  · exact fits_timeout
  · exact fits_decided asked roomy e.request.deviceKey

private theorem fits_sent {b : Beginning} {as : List Action} (carried : Carried as) {i : Nat}
    {c : Channel} (at_i : (Session.run b.world as).system.channels[i]? = some c) {x : StreamItem}
    (member : x ∈ c.sent) : Fits (itemRecord x) := by
  obtain ⟨before, a, later, rfl, sends | greets⟩ := sent_origin at_i member
  · refine fits_of_sends sends fun m same => ?_
    obtain ⟨content, comes⟩ := carried m (by rw [same]; simp)
    exact comes.weight
  · exact fits_greeting greets

/-! ### Replies -/

/-- The body that was signed for a call cannot be read. -/
def CallMessage.Unreadable : CallMessage → DecodeError → Prop
  | .pairDevice _, _ => False
  | .pairingData r, cause => LookupBody.codec.decode r.body = .error cause
  | .approve r, cause => ApprovalBody.codec.decode r.body = .error cause
  | .reject r, cause => RejectionBody.codec.decode r.body = .error cause

/-- The reply tells what is wrong with the body that was signed for a call. -/
def CallMessage.QuotedBy (m : CallMessage) (reply : Reply) : Prop :=
  ∃ cause, m.Unreadable cause ∧ reply = .error ⟨.codec, cause.message⟩

/-- The reply to a call fits, or it quotes a body that cannot be read. -/
def Returns (m : CallMessage) (reply : Reply) : Prop :=
  Fits (Reply.codec.write reply) ∨ m.QuotedBy reply

private theorem returns_failure {m : CallMessage} {named : String → Prop} {e : PairingError}
    (h : Failure named m.Unreadable e)
    (short : ∀ session, named session → plain.text session + 160 ≤ maxRecordLength) :
    Returns m (.error e.toWire) := by
  have message : plain.text e.toWire.message + 160 ≤ maxRecordLength →
      Returns m (.error e.toWire) := by
    intro less
    have size := length_error_le e.toWire
    refine .inl ?_
    simp only [Fits]
    omega
  cases h with
  | otherVersion requested offered =>
    refine message ?_
    cases requested <;> cases offered <;> decide
  | refused r =>
    refine message ?_
    cases r with
    | otherOperation signed used => cases signed <;> cases used <;> decide
    | _ => decide
  | improperKey => exact message (by decide)
  | unreadable spoiled => exact .inr ⟨_, spoiled, rfl⟩
  | notFound h => exact message (short _ h)
  | resolved h => exact message (short _ h)
  | tooEarly r =>
    refine message ?_
    cases r <;> decide

private theorem fits_data {b : Beginning} {as : List Action} (carried : Carried as)
    {session : String}
    {e : Entry} (entry : (Session.run b.world as).system.sessions.get? session = some e) :
    Fits (Reply.codec.write (.pairingData (Service.describe session e))) := by
  obtain ⟨before, a, later, rfl, opens, rfl, payload⟩ := entry_origin entry
  have called : (CallMessage.pairDevice e.request).action ∈ before ++ a :: later := by
    rw [opens]
    simp [CallMessage.action]
  obtain ⟨content, comes⟩ := carried (.pairDevice e.request) called
  have weight : plain.text e.request.name + plain.text e.request.description +
      plain.text e.request.restrictions + 1024 ≤ 65536 := comes.weight
  obtain ⟨name, named⟩ := text_name_le Measure.plain_atMost (Session.run b.world before).entropy
  have size := length_data_le
    (Service.describe (Service.nextName (Session.run b.world before).entropy) e)
  simp only [Service.describe, payload] at size
  show (Reply.codec.write (.pairingData (Service.describe _ e))).length ≤ 65536
  simp only [Service.describe, payload]
  omega

theorem fits_opened (w : World) (r : PairRequest) :
    Fits (Reply.codec.write (.opened (w.system.accept w.now w.entropy r).opened)) := by
  obtain ⟨name, payload⟩ := text_name_le Measure.plain_atMost w.entropy
  have session : (w.system.accept w.now w.entropy r).opened.session =
      Service.nextName w.entropy := rfl
  have exchangePayload : (w.system.accept w.now w.entropy r).opened.exchangePayload = none ∨
      (w.system.accept w.now w.entropy r).opened.exchangePayload =
        some (Exchange.payload (Service.nextName w.entropy)) := by
    simp only [Service.accept]
    cases r.version with
    | v1 => exact .inl rfl
    | v2 => exact .inr rfl
  generalize (w.system.accept w.now w.entropy r).opened = o at session exchangePayload
  have size := length_opened_le o
  rw [session] at size
  show (Reply.codec.write (.opened o)).length ≤ 65536
  rcases exchangePayload with none | some
  · rw [none, Option.elim_none] at size
    omega
  · rw [some, Option.elim_some] at size
    omega

private theorem fits_ack : Fits (Reply.codec.write .ack) := by
  show (Reply.codec.write .ack).length ≤ maxRecordLength
  decide

private theorem text_session_le {α : Type} {k : Codec α} (session : α → String) {s : Service}
    {operation : Operation} {r : SignedRequest} {body : α} {a : NodeAuthority}
    (pays : Pays plain k.read fun b => plain.text (session b))
    (opened : s.openAuthorized k operation r = .ok (body, a))
    (roomy : r.weight plain ≤ maxRecordLength) :
    plain.text (session body) + 160 ≤ maxRecordLength := by
  obtain ⟨⟨signed, decoded⟩, -, certified⟩ := (Service.openAuthorized_eq_ok body a).mp opened
  have weight : plain.text (session body) ≤ plain.total r.body := pays.decode decoded
  have rest := nested_body_le signed certified
  have longer := Measure.length_le_nested r.body
  rw [Measure.total_plain] at weight
  omega

section

variable {w : World} {r : SignedRequest}

private theorem returns_pairingData (roomy : r.weight plain ≤ maxRecordLength)
    (told : ∀ session e, w.system.sessions.get? session = some e →
      Fits (Reply.codec.write (.pairingData (Service.describe session e)))) :
    Returns (.pairingData r) (ServerSide.answer (.pairingData r) w).1.1 := by
  simp only [ServerSide.answer, Transport.Direct.pairingData]
  cases result : w.system.pairingData r with
  | error cause =>
    refine returns_failure (Service.failure_of_pairingData result) ?_
    rintro session ⟨a, opened⟩
    exact text_session_le LookupBody.session LookupBody.pays_codec opened roomy
  | ok d =>
    obtain ⟨⟨body, a⟩, -, shown⟩ := Results.bind_eq_ok.mp result
    simp only at shown
    split at shown
    · rename_i e entry
      split at shown
      · cases shown
        exact .inl (told body.session e entry)
      · cases shown
    · cases shown

private theorem returns_approve (roomy : r.weight plain ≤ maxRecordLength) :
    Returns (.approve r) (ServerSide.answer (.approve r) w).1.1 := by
  simp only [ServerSide.answer, Transport.Direct.approve]
  cases result : (w.system.approve w.issuedAt r).1 with
  | error cause =>
    refine returns_failure (Service.failure_of_approve result) ?_
    rintro session ⟨body, a, check, rfl⟩
    have opened := ((Service.checkApproval_eq_ok body a).mp check).1
    refine text_session_le ApprovalBody.session ?_ opened roomy
    refine ApprovalBody.pays_codec.mono fun b => ?_
    simp only [ApprovalBody.weight]
    omega
  | ok _ => exact .inl fits_ack

private theorem returns_reject (roomy : r.weight plain ≤ maxRecordLength) :
    Returns (.reject r) (ServerSide.answer (.reject r) w).1.1 := by
  simp only [ServerSide.answer, Transport.Direct.reject]
  cases result : (w.system.reject r).1 with
  | error cause =>
    refine returns_failure (Service.failure_of_reject result) ?_
    rintro session ⟨body, check, rfl⟩
    obtain ⟨a, opened⟩ := (Service.checkRejection_eq_ok body).mp check
    refine text_session_le RejectionBody.session ?_ opened roomy
    exact RejectionBody.pays_codec.mono fun b => Nat.le_add_right _ _
  | ok _ => exact .inl fits_ack

end

private theorem returns_answer {b : Beginning} {as : List Action} (carried : Carried as)
    {m : CallMessage} {content : Bytes} (comes : m.ComesIn content) :
    Returns m (ServerSide.answer m (Session.run b.world as)).1.1 := by
  have weight := comes.weight
  cases m with
  | pairDevice r =>
    simp only [ServerSide.answer, Transport.Direct.pairDevice, Service.openSession_eq]
    cases check : (Session.run b.world as).system.checkOpening r with
    | error cause =>
      refine returns_failure (Service.failure_of_checkOpening check) ?_
      exact fun _ impossible => impossible.elim
    | ok _ => exact .inl (fits_opened (Session.run b.world as) r)
  | pairingData r => exact returns_pairingData weight fun _ _ entry => fits_data carried entry
  | approve r => exact returns_approve (Nat.le_of_add_right_le weight)
  | reject r => exact returns_reject weight

/-! ### What is written -/

private theorem written_close (s : ServerSide) (w : World) : (s.close w).1.written = s.written := by
  unfold ServerSide.close
  split <;> rfl

private theorem written_handle {m : CallMessage} {content : Bytes}
    (decoded : CallMessage.codec.decode content = .ok m) (s : ServerSide) {w : World}
    (fits : Fits (Reply.codec.write (ServerSide.answer m w).1.1)) :
    (s.handle content w).1.written =
      s.written ++ [Reply.codec.write (ServerSide.answer m w).1.1] := by
  simp only [ServerSide.handle, decoded]
  generalize ServerSide.answer m w = answer at fits
  obtain ⟨⟨reply, channel⟩, w'⟩ := answer
  have small : (Reply.codec.write reply).length ≤ maxRecordLength := fits
  cases channel with
  | none =>
    simp only [ServerSide.writeLast, ServerSide.write?, if_pos small, Option.getD_some,
      written_close]
  | some i => simp only [ServerSide.write?, if_pos small]

private theorem written_forward? {s : ServerSide} {i : Nat} {w w' : World} {x : StreamItem}
    (found : w.receive i = (.item x, w')) (fits : Fits (itemRecord x)) :
    ∃ s' w'', s.forward? i w = some (s', w'') ∧ s'.written = s.written ++ [itemRecord x] := by
  have small : (StreamRecord.codec.write (ServerSide.passOn x).1).length ≤ maxRecordLength := fits
  simp only [ServerSide.forward?, found, ServerSide.write?, if_pos small]
  cases (ServerSide.passOn x).2 with
  | true => exact ⟨_, _, rfl, written_close _ _⟩
  | false => exact ⟨_, _, rfl, rfl⟩

theorem sent_of_receive {w w' : World} {i : Nat} {x : StreamItem}
    (found : w.receive i = (.item x, w')) :
    ∃ c, w.system.channels[i]? = some c ∧ x ∈ c.sent := by
  have here : Tasks.channel? w.system i = w.system.channels[i]? := rfl
  rw [Environment.receive, here] at found
  cases at_i : w.system.channels[i]? with
  | none =>
    rw [at_i] at found
    cases found
  | some c =>
    rw [at_i] at found
    have first : c.receive.1 = .item x := congrArg Prod.fst found
    refine ⟨c, rfl, ?_⟩
    rcases c.receive_cases with ⟨y, next, same⟩ | same | same
    · rw [same] at first
      cases first
      exact List.mem_of_getElem? next
    · rw [same] at first
      cases first
    · rw [same] at first
      cases first

private theorem told_of_decided {s s' : Service} {d : Decision}
    (decided : s.decide d.session d.resolution d.outcome = (.ok (), s')) :
    ∃ e i c, s.sessions.get? d.session = some e ∧ e.sender = some i ∧ s'.channels[i]? = some c ∧
      c.receiving = true ∧
      c.sent.getLast? =
        some (.ok (Frame.encode (.response ⟨d.session, d.outcome e.request.deviceKey⟩))) := by
  rw [Service.decide_eq] at decided
  split at decided
  · cases decided
  · rename_i e entry
    split at decided
    · cases decided
    · cases decided
    · rename_i i _ listener
      obtain ⟨sender, c, at_i, receiving⟩ := Service.listener?_eq_some listener
      cases decided
      refine ⟨e, i, (c.push (.ok (Frame.encode (.response ⟨d.session,
        d.outcome e.request.deviceKey⟩)))).dropSender, entry, sender, ?_, receiving,
        List.getLast?_concat⟩
      have same : ((s.ending d.session e (.resolved d.resolution)).channels)[i]? = some c := at_i
      simp only [Service.tell, Service.releaseSender, Service.modifyChannel, List.getElem?_modify_eq,
        same]
      rfl
    · cases decided
    · cases decided

private theorem decision_of_ack {m : CallMessage} {w : World}
    (ack : (ServerSide.answer m w).1.1 = .ack) :
    ∃ h d, m.action = .service h ∧ h.decision? w = some d ∧
      w.system.decide d.session d.resolution d.outcome =
        (.ok (), (ServerSide.answer m w).2.system) := by
  obtain ⟨told, -, world⟩ := answer_eq m w
  have made : ∀ h, m.action = .service h → (h.perform w).1 = .decided (.ok ()) →
      ∃ h d, m.action = .service h ∧ h.decision? w = some d ∧
        w.system.decide d.session d.resolution d.outcome =
          (.ok (), (ServerSide.answer m w).2.system) := by
    intro h action made
    obtain ⟨d, asked⟩ := Happening.decision?_of_made made
    rw [action, Action.perform, Happening.perform_of_decision asked] at world
    rw [Happening.perform_of_decision asked] at made
    refine ⟨h, d, action, asked, Prod.ext (Answer.decided.inj made) ?_⟩
    rw [world]
    rfl
  rw [ack] at told
  cases m with
  | pairDevice r =>
    simp only [ServerSide.answer] at ack
    split at ack <;> cases ack
  | pairingData r =>
    simp only [ServerSide.answer, Reply.ofResult] at ack
    split at ack <;> cases ack
  | approve r => exact made (.approve r) rfl told.symm
  | reject r => exact made (.reject r) rfl told.symm

/-- What can be delivered of a service over connections. -/
structure Delivers (w : World) : Prop where
  items : ∀ (s : ServerSide) i x w', w.receive i = (.item x, w') →
    ∃ s' w'', s.forward? i w = some (s', w'') ∧ s'.written = s.written ++ [itemRecord x]
  /-- Every call that leaves room gets its reply, unless the reply does not fit because it quotes a
  signed body that cannot be read. -/
  replies : ∀ (s : ServerSide) (m : CallMessage) content, m.ComesIn content →
    (s.handle content w).1.written = s.written ++ [Reply.codec.write (ServerSide.answer m w).1.1] ∨
      ¬ Fits (Reply.codec.write (ServerSide.answer m w).1.1) ∧
        m.QuotedBy (ServerSide.answer m w).1.1
  /-- Every decision that is acknowledged to a call that leaves room has put the last frame of its
  session into the channel of the new device, which is still there, and the frame fits. -/
  decisions : ∀ (m : CallMessage) content, m.ComesIn content → (ServerSide.answer m w).1.1 = .ack →
    ∃ r e i c, w.system.sessions.get? r.session = some e ∧ e.sender = some i ∧
      (ServerSide.answer m w).2.system.channels[i]? = some c ∧ c.receiving = true ∧
      c.sent.getLast? = some (.ok (Frame.encode (.response r))) ∧
      Fits (itemRecord (.ok (Frame.encode (.response r))))

/-- Whatever a service was asked over connections, by calls that left room in their records, can be
answered over connections. -/
theorem roomy_calls_are_delivered {b : Beginning} {as : List Action} (carried : Carried as) :
    Delivers (Session.run b.world as) where
  items := by
    intro s i x w' found
    obtain ⟨c, at_i, member⟩ := sent_of_receive found
    exact written_forward? found (fits_sent carried at_i member)
  replies := by
    intro s m content comes
    by_cases fits : Fits (Reply.codec.write (ServerSide.answer m (Session.run b.world as)).1.1)
    · exact .inl (written_handle comes.decoded s fits)
    · exact .inr ⟨fits, (returns_answer carried comes).resolve_left fits⟩
  decisions := by
    intro m content comes ack
    obtain ⟨h, d, action, asked, decided⟩ := decision_of_ack ack
    obtain ⟨e, i, c, entry, sender, at_i, receiving, last⟩ := told_of_decided decided
    -- the call that decided is the one that left room: no other call is the same action
    refine ⟨_, e, i, c, entry, sender, at_i, receiving, last, ?_⟩
    refine fits_decided asked (fun m' same => ?_) e.request.deviceKey
    obtain rfl := CallMessage.action_injective (same.trans action.symm)
    exact comes.weight

namespace Sample

def hub : Credentials := Credentials.enroll Session.Sample.authority 0 ⟨Key.ofNat 2⟩ "hub" ""

def named (name : String) : PairRequest := ⟨name, "", "", Key.ofNat 1, .v2⟩

def opening (name : String) : List Action :=
  [.service (.register Session.Sample.authority), .openSession (named name)]

def approval : SignedRequest :=
  SignedRequest.sealBody ApprovalBody.codec hub .approvePairing
    ⟨Session.Sample.session, [7], "lamp", ""⟩

end Sample

private theorem carried_of_written {as : List Action}
    (roomy : ∀ m : CallMessage, m.action ∈ as →
      (CallMessage.codec.write m).length + m.room ≤ maxRecordLength) : Carried as := by
  intro m member
  have short := roomy m member
  exact ⟨_, CallMessage.decode_write (Nat.le_trans (Nat.le_add_right _ _) short), short⟩

private theorem length_sealed_le (operation : Operation) (body : Bytes) :
    (SignedRequest.codec.write (SignedRequest.sealBytes Sample.hub operation body)).length ≤
      515 + 2 * body.length := by
  generalize made : SignedRequest.sealBytes Sample.hub operation body = r
  have signed := length_signed_le r
  have node := Measure.numbers_le Measure.plain_atMost r.certificate.node
  have certified := Measure.numbers_le Measure.plain_atMost r.certificate.signature
  have content := Measure.numbers_le Measure.plain_atMost r.body
  have signature := Measure.numbers_le Measure.plain_atMost r.signature
  have lengths : r.certificate.signature.length = 64 ∧ r.signature.length = 64 := by
    rw [← made]
    exact ⟨Ed25519.length_sign _ _, Ed25519.length_sign _ _⟩
  have parts : r.certificate.node.length = 1 ∧ plain.text r.certificate.deviceName = 3 ∧
      plain.text r.certificate.restrictions = 0 ∧ r.body = body := by
    rw [← made]
    exact ⟨rfl, (by decide : plain.text "hub" = 3), rfl, rfl⟩
  obtain ⟨one, name, restrictions, same⟩ := parts
  rw [one] at node
  rw [lengths.1] at certified
  rw [lengths.2] at signature
  rw [same] at content signed
  omega

private theorem roomy_approval :
    (CallMessage.codec.write (.approve Sample.approval)).length +
      (CallMessage.approve Sample.approval).room ≤ maxRecordLength := by
  have whole :=
    total_writeVariant plain "ApprovePairing" (SignedRequest.codec.write Sample.approval)
  have content : (SignedRequest.codec.write Sample.approval).length ≤
      515 + 2 * (ApprovalBody.codec.write ⟨Session.Sample.session, [7], "lamp", ""⟩).length :=
    length_sealed_le ..
  have body :
      (ApprovalBody.codec.write ⟨Session.Sample.session, [7], "lamp", ""⟩).length ≤ 200 := by
    decide
  have rest : plain.octet 0xA1 + plain.names ["ApprovePairing"] = 16 := by decide
  have room : (CallMessage.approve Sample.approval).room = 1024 := rfl
  have record : (CallMessage.codec.write (.approve Sample.approval)).length =
      (writeVariant "ApprovePairing" (SignedRequest.codec.write Sample.approval)).length := rfl
  have limit : maxRecordLength = 65536 := rfl
  rw [Measure.total_plain, Measure.total_plain] at whole
  omega

/-- An approval that leaves room is acknowledged, and its frame can be delivered. -/
theorem roomy_calls_are_delivered_of_approved :
    Carried (Sample.opening "lamp") ∧
      Delivers (Session.run Session.Sample.beginning.world (Sample.opening "lamp")) ∧
      (CallMessage.approve Sample.approval).ComesIn
        (CallMessage.codec.write (.approve Sample.approval)) ∧
      (ServerSide.answer (.approve Sample.approval)
        (Session.run Session.Sample.beginning.world (Sample.opening "lamp"))).1.1 = .ack := by
  have carried : Carried (Sample.opening "lamp") := by
    refine carried_of_written fun m member => ?_
    have opens : m.action = .openSession (Sample.named "lamp") := by
      simp only [Sample.opening, List.mem_cons, List.not_mem_nil, or_false] at member
      rcases member with registers | opens
      · cases m <;> cases registers
      · exact opens
    obtain rfl : m = .pairDevice (Sample.named "lamp") := CallMessage.action_injective opens
    decide +kernel
  have fits : Fits (CallMessage.codec.write (.approve Sample.approval)) :=
    Nat.le_trans (Nat.le_add_right _ _) roomy_approval
  exact ⟨carried, roomy_calls_are_delivered carried, ⟨CallMessage.decode_write fits, roomy_approval⟩,
    by decide +kernel⟩

/-! ### A name that leaves no room -/

namespace Sample

def ready : World :=
  Session.run Session.Sample.beginning.world [.service (.register Session.Sample.authority)]

def lookUp : SignedRequest :=
  SignedRequest.sealBody LookupBody.codec hub .getPairingData ⟨Session.Sample.session⟩

def data (name : String) : PairingData :=
  ⟨Session.Sample.session, Exchange.payload Session.Sample.session, name, "", ""⟩

end Sample

private theorem fits_lookUp : Fits (CallMessage.codec.write (.pairingData Sample.lookUp)) := by
  have whole := total_writeVariant plain "GetPairingData" (SignedRequest.codec.write Sample.lookUp)
  have content : (SignedRequest.codec.write Sample.lookUp).length ≤
      515 + 2 * (LookupBody.codec.write ⟨Session.Sample.session⟩).length := length_sealed_le ..
  have body : (LookupBody.codec.write ⟨Session.Sample.session⟩).length = 50 := by decide
  have rest : plain.octet 0xA1 + plain.names ["GetPairingData"] = 16 := by decide
  rw [Measure.total_plain, Measure.total_plain] at whole
  show (writeVariant "GetPairingData" (SignedRequest.codec.write Sample.lookUp)).length ≤ 65536
  omega

private theorem text_replicate (n : Nat) :
    plain.text (String.ofList (List.replicate n 'a')) = n := by
  rw [Measure.text, Measure.total_plain, Text.Utf8.ofString, String.toList_ofList]
  induction n with
  | zero => rfl
  | succ n ih =>
    rw [Text.Utf8.encode] at ih ⊢
    rw [List.replicate_succ, List.flatMap_cons, List.length_append, ih]
    exact Nat.add_comm 1 n

section

variable {name : String}

private theorem fits_named (short : plain.text name ≤ 65400) :
    Fits (CallMessage.codec.write (.pairDevice (Sample.named name))) := by
  have whole := total_writeVariant plain "PairDevice" (PairRequest.codec.write (Sample.named name))
  have content : plain.total (PairRequest.codec.write (Sample.named name)) =
      plain.total (head 5 5) +
        plain.names ["name", "description", "restrictions", "device_public_key", "protocol_version"] +
        (plain.total (writeText name) + (plain.total (writeText "") +
          (plain.total (writeText "") + (plain.total (Codec.key.write (Key.ofNat 1)) +
            (plain.total (ProtocolVersion.codec.write .v2) + 0))))) := Codec.total_record ..
  have text := Measure.total_writeText_le Measure.plain_atMost name
  have rest : plain.octet 0xA1 + plain.names ["PairDevice"] + plain.total (head 5 5) +
      plain.names ["name", "description", "restrictions", "device_public_key", "protocol_version"] +
      (plain.total (writeText "") + (plain.total (writeText "") +
        (plain.total (Codec.key.write (Key.ofNat 1)) +
          plain.total (ProtocolVersion.codec.write .v2)))) = 117 := by decide
  rw [Measure.total_plain] at whole
  show (writeVariant "PairDevice" (PairRequest.codec.write (Sample.named name))).length ≤ 65536
  omega

private theorem not_fits_data (long : 65400 ≤ plain.text name) :
    ¬ Fits (Reply.codec.write (.pairingData (Sample.data name))) := by
  have whole := total_writeVariant plain "PairingData" (PairingData.codec.write (Sample.data name))
  have content : plain.total (PairingData.codec.write (Sample.data name)) =
      plain.total (head 5 5) +
        plain.names ["session_id", "exchange_payload", "name", "description", "restrictions"] +
        (plain.total (writeText Session.Sample.session) +
          (plain.total (writeText (Exchange.payload Session.Sample.session)) +
            (plain.total (writeText name) + (plain.total (writeText "") +
              (plain.total (writeText "") + 0))))) :=
    Codec.total_record ..
  have text : plain.text name ≤ plain.total (writeText name) := by
    rw [writeText, Measure.total_append]
    exact Nat.le_add_left _ _
  have rest : plain.octet 0xA1 + plain.names ["PairingData"] + plain.total (head 5 5) +
      plain.names ["session_id", "exchange_payload", "name", "description", "restrictions"] +
      (plain.total (writeText Session.Sample.session) +
        plain.total (writeText (Exchange.payload Session.Sample.session))) = 156 := by decide
  rw [Measure.total_plain] at whole
  show ¬ (writeVariant "PairingData" (PairingData.codec.write (Sample.data name))).length ≤ 65536
  omega

private theorem checked_named (name : String) :
    Sample.ready.system.checkOpening (Sample.named name) = .ok () := by
  have point : Ed25519.isPublicKey (Key.ofNat 1) = true := by decide +kernel
  have spoken : ProtocolVersion.v2 ∈ Sample.ready.system.config.supportedVersions := by decide
  simp only [Service.checkOpening, Sample.named, spoken, point]
  rfl

private theorem answer_named (name : String) :
    (ServerSide.answer (.pairDevice (Sample.named name)) Sample.ready).1.1 =
        .opened (Sample.ready.system.accept Sample.ready.now Sample.ready.entropy
          (Sample.named name)).opened ∧
      (ServerSide.answer (.pairDevice (Sample.named name)) Sample.ready).1.2 = some 0 ∧
      (ServerSide.answer (.pairDevice (Sample.named name)) Sample.ready).2.system =
        (Sample.ready.system.accept Sample.ready.now Sample.ready.entropy
          (Sample.named name)).service := by
  simp only [ServerSide.answer, Transport.Direct.pairDevice, Service.openSession_eq, checked_named]
  exact ⟨rfl, rfl, rfl⟩

private theorem handle_named (short : plain.text name ≤ 65400) :
    (ServerSide.accepted.handle (CallMessage.codec.write (.pairDevice (Sample.named name)))
        Sample.ready).1.stage = .streaming 0 ∧
      (ServerSide.accepted.handle (CallMessage.codec.write (.pairDevice (Sample.named name)))
        Sample.ready).2.system =
          (Sample.ready.system.accept Sample.ready.now Sample.ready.entropy
            (Sample.named name)).service := by
  obtain ⟨reply, stream, system⟩ := answer_named name
  have decoded := CallMessage.decode_write (fits_named short)
  have fits := fits_opened Sample.ready (Sample.named name)
  rw [← reply] at fits
  rw [handle_stream decoded stream fits]
  generalize ServerSide.answer (.pairDevice (Sample.named name)) Sample.ready = answer at system
  exact ⟨rfl, system⟩

private theorem openAuthorized_lookUp :
    Sample.ready.system.openAuthorized LookupBody.codec .getPairingData Sample.lookUp =
      .ok (⟨Session.Sample.session⟩, Session.Sample.authority) := by decide +kernel

private theorem pairingData_named (name : String) :
    (Sample.ready.system.accept Sample.ready.now Sample.ready.entropy
      (Sample.named name)).service.pairingData Sample.lookUp = .ok (Sample.data name) := by
  have session : Service.nextName Sample.ready.entropy = Session.Sample.session := by decide
  have authorities := congrArg Prod.snd (Service.setup_accept Sample.ready.system Sample.ready.now
    Sample.ready.entropy (Sample.named name))
  have opened := (Service.openAuthorized_eq_ok _ _).mp openAuthorized_lookUp
  simp only [Service.setup] at authorities
  rw [← authorities, ← Service.openAuthorized_eq_ok] at opened
  rw [Service.pairingData, opened, Results.ok_bind]
  simp only [Service.accept, Table.get?_put, session, if_pos]
  rfl

private theorem handle_lookUp {w : World}
    (told : w.system.pairingData Sample.lookUp = .ok (Sample.data name))
    (long : 65400 ≤ plain.text name) :
    (ServerSide.accepted.handle (CallMessage.codec.write (.pairingData Sample.lookUp))
        w).1.written = [] ∧
      (ServerSide.accepted.handle (CallMessage.codec.write (.pairingData Sample.lookUp))
        w).1.stage = .closed := by
  have decoded := CallMessage.decode_write fits_lookUp
  have reply : (ServerSide.answer (.pairingData Sample.lookUp) w).1.1 =
      .pairingData (Sample.data name) := by
    simp only [ServerSide.answer, Transport.Direct.pairingData, told]
    rfl
  have large := not_fits_data long
  rw [← reply] at large
  rw [handle_silent decoded rfl rfl large]
  exact ⟨rfl, rfl⟩

end

namespace Sample

def longName : String := String.ofList (List.replicate 65400 'a')

def opens : Bytes := CallMessage.codec.write (.pairDevice (named longName))

def asks : Bytes := CallMessage.codec.write (.pairingData lookUp)

def opened : ServerSide × World := ServerSide.accepted.handle opens ready

def told : ServerSide × World := ServerSide.accepted.handle asks opened.2

end Sample

/-- There are calls that fit into their records and what is told about the session does not: the
connection is closed without a word. -/
theorem long_name_is_not_told :
    (Fits Sample.opens ∧ Sample.opened.1.stage = .streaming 0) ∧
      (Fits Sample.asks ∧ CallMessage.codec.decode Sample.asks = .ok (.pairingData Sample.lookUp)) ∧
      Sample.opened.2.system.pairingData Sample.lookUp = .ok (Sample.data Sample.longName) ∧
      ¬ Fits (Reply.codec.write (.pairingData (Sample.data Sample.longName))) ∧
      Sample.told.1.written = [] ∧ Sample.told.1.stage = .closed := by
  have length : plain.text Sample.longName = 65400 := text_replicate 65400
  obtain ⟨stage, system⟩ := handle_named (Nat.le_of_eq length)
  have told : Sample.opened.2.system.pairingData Sample.lookUp =
      .ok (Sample.data Sample.longName) := by
    rw [Sample.opened, Sample.opens, system]
    exact pairingData_named Sample.longName
  exact ⟨⟨fits_named (Nat.le_of_eq length), stage⟩,
    ⟨fits_lookUp, CallMessage.decode_write fits_lookUp⟩, told,
    not_fits_data (Nat.le_of_eq length.symm), handle_lookUp told (Nat.le_of_eq length.symm)⟩

end Connection

end DevicePairing
