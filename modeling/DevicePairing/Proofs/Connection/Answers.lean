import DevicePairing.Connection.Client
import DevicePairing.Connection.Server
import DevicePairing.Proofs.Connection.Framing
import DevicePairing.Proofs.Error.Crossing
import DevicePairing.Proofs.Message
import DevicePairing.Proofs.Session.Viewed

set_option autoImplicit false
set_option relaxedAutoImplicit false

namespace DevicePairing

open DevicePairing.Cbor
open DevicePairing.Session
open DevicePairing.Clock

namespace Session

/-- How a call can fail, where the sessions are given that it may name, and what may have been wrong
with the body that was signed for it. -/
inductive Failure (named : String → Prop) (spoiled : DecodeError → Prop) : PairingError → Prop where
  | otherVersion (requested offered : ProtocolVersion) :
      Failure named spoiled (.protocolMismatch requested offered)
  | refused (r : Refusal) : Failure named spoiled r.toPairingError
  | improperKey : Failure named spoiled (.codec "invalid device public key")
  | unreadable {cause : DecodeError} (h : spoiled cause) :
      Failure named spoiled (.codec cause.message)
  | notFound {session : String} (h : named session) :
      Failure named spoiled (.sessionNotFound session)
  | resolved {session : String} (h : named session) :
      Failure named spoiled (.sessionAlreadyResolved session)
  | tooEarly (r : Resolution) :
      Failure named spoiled (.invalidState
        ("invalid pairing transition " ++ State.created.name ++ " -> " ++ (State.resolved r).name))

variable {named : String → Prop} {spoiled : DecodeError → Prop}

private theorem Failure.crosses {e : PairingError} (h : Failure named spoiled e) : e.Crosses := by
  cases h with
  | otherVersion requested offered => exact PairingError.crosses_protocolMismatch requested offered
  | _ => rfl

private theorem Failure.mono {named' : String → Prop} {spoiled' : DecodeError → Prop}
    {e : PairingError}
    (h : Failure named spoiled e) (more : ∀ session, named session → named' session)
    (worse : ∀ cause, spoiled cause → spoiled' cause) : Failure named' spoiled' e := by
  cases h with
  | otherVersion requested offered => exact .otherVersion requested offered
  | refused refusal => exact .refused refusal
  | improperKey => exact .improperKey
  | unreadable same => exact .unreadable (worse _ same)
  | notFound same => exact .notFound (more _ same)
  | resolved same => exact .resolved (more _ same)
  | tooEarly q => exact .tooEarly q

namespace Service

variable {s : Service} {r : SignedRequest} {e : PairingError}

theorem failure_of_checkOpening {q : PairRequest} (h : s.checkOpening q = .error e) :
    Failure (fun _ => False) (fun _ => False) e := by
  unfold checkOpening at h
  split at h
  · cases h
    exact .otherVersion _ _
  · split at h
    · cases h
      exact .improperKey
    · cases h

private theorem failure_of_openAuthorized {α : Type} {k : Codec α} {operation : Operation}
    (h : s.openAuthorized k operation r = .error e) :
    Failure named (fun cause => k.decode r.body = .error cause) e := by
  unfold openAuthorized at h
  rcases Results.bind_eq_error.mp h with refused | ⟨body, -, h⟩
  · rcases Results.bind_eq_error.mp refused with unsigned | ⟨-, -, unreadable⟩
    · obtain ⟨refusal, -, rfl⟩ := Results.mapError_eq_error.mp unsigned
      exact .refused refusal
    · obtain ⟨cause, failed, rfl⟩ := Results.mapError_eq_error.mp unreadable
      exact .unreadable failed
  · rcases Results.bind_eq_error.mp h with unknown | ⟨a, -, h⟩
    · obtain ⟨refusal, -, rfl⟩ := Results.mapError_eq_error.mp unknown
      exact .refused refusal
    · cases h

theorem failure_of_pairingData (h : s.pairingData r = .error e) :
    Failure (fun session => ∃ a,
      s.openAuthorized LookupBody.codec .getPairingData r = .ok (⟨session⟩, a))
      (fun cause => LookupBody.codec.decode r.body = .error cause) e := by
  unfold pairingData at h
  rcases Results.bind_eq_error.mp h with refused | ⟨⟨body, a⟩, opened, h⟩
  · exact failure_of_openAuthorized refused
  · simp only at h
    split at h
    · split at h
      · cases h
      · cases h
        exact .notFound ⟨a, opened⟩
    · cases h
      exact .notFound ⟨a, opened⟩

private theorem failure_of_checkApproval (h : s.checkApproval r = .error e) :
    Failure named (fun cause => ApprovalBody.codec.decode r.body = .error cause) e := by
  unfold checkApproval at h
  rcases Results.bind_eq_error.mp h with refused | ⟨⟨body, a⟩, -, h⟩
  · exact failure_of_openAuthorized refused
  · rcases Results.bind_eq_error.mp h with ungranted | ⟨-, -, h⟩
    · obtain ⟨refusal, -, rfl⟩ := Results.mapError_eq_error.mp ungranted
      exact .refused refusal
    · cases h

private theorem failure_of_checkRejection (h : s.checkRejection r = .error e) :
    Failure named (fun cause => RejectionBody.codec.decode r.body = .error cause) e := by
  unfold checkRejection at h
  rcases Results.bind_eq_error.mp h with refused | ⟨body, -, h⟩
  · exact failure_of_openAuthorized refused
  · cases h

private theorem failure_of_decide {session : String} {q : Resolution} {outcome : Key → Outcome}
    (h : (s.decide session q outcome).1 = .error e) :
    Failure (fun name => name = session) (fun _ => False) e := by
  rw [decide_eq] at h
  split at h
  · cases h
    exact .notFound rfl
  · split at h
    · cases h
      exact .resolved rfl
    · cases h
      exact .notFound rfl
    · cases h
    · cases h
      exact .tooEarly q
    · cases h
      exact .notFound rfl

theorem failure_of_approve {issuedAt : UInt64} (h : (s.approve issuedAt r).1 = .error e) :
    Failure (fun session => ∃ body a, s.checkApproval r = .ok (body, a) ∧ session = body.session)
      (fun cause => ApprovalBody.codec.decode r.body = .error cause) e := by
  unfold approve at h
  cases check : s.checkApproval r with
  | error cause =>
    rw [check] at h
    cases h
    exact failure_of_checkApproval check
  | ok granted =>
    rw [check] at h
    exact (failure_of_decide h).mono (fun _ same => ⟨granted.1, granted.2, rfl, same⟩)
      fun _ impossible => impossible.elim

theorem failure_of_reject (h : (s.reject r).1 = .error e) :
    Failure (fun session => ∃ body, s.checkRejection r = .ok body ∧ session = body.session)
      (fun cause => RejectionBody.codec.decode r.body = .error cause) e := by
  unfold reject at h
  cases check : s.checkRejection r with
  | error cause =>
    rw [check] at h
    cases h
    exact failure_of_checkRejection check
  | ok body =>
    rw [check] at h
    exact (failure_of_decide h).mono (fun _ same => ⟨body, rfl, same⟩)
      fun _ impossible => impossible.elim

end Service

end Session

namespace Connection

def CallMessage.action : CallMessage → Action
  | .pairDevice r => .openSession r
  | .pairingData r => .service (.lookUp r)
  | .approve r => .service (.approve r)
  | .reject r => .service (.reject r)

def CallMessage.told (m : CallMessage) (i : Nat) (r : Except PairingError Reply) : Answer :=
  match m with
  | .pairDevice _ => .opened ((r.bind Client.expectOpened).map fun o => (o, i))
  | .pairingData _ => .data (r.bind Client.expectPairingData)
  | .approve _ => .decided (r.bind Client.expectAck)
  | .reject _ => .decided (r.bind Client.expectAck)

def Reply.received : Reply → Except PairingError Reply
  | .error e => .error (.ofWire e)
  | r => .ok r

def openedChannel? : Answer → Option Nat
  | .opened (.ok (_, i)) => some i
  | _ => none

theorem Reply.reply?_write {r : Reply} (fits : Fits (Reply.codec.write r)) :
    Client.reply? (.record (Reply.codec.write r)) = some r.received := by
  have counted : (Reply.codec.write r).length < 1 <<< 64 := Nat.lt_of_le_of_lt fits (by decide)
  have decoded : Client.decodeRecord Reply.codec (Reply.codec.write r) = .ok r := by
    rw [Client.decodeRecord, Reply.lawful_codec.decode_write (by decide) counted]
    rfl
  simp only [Client.reply?, decoded, Results.ok_bind]
  cases r <;> rfl

private theorem expect_error {α : Type} {expect : Reply → Except PairingError α} {e : PairingError}
    (crosses : e.Crosses) : (Reply.received (.error e.toWire)).bind expect = .error e := by
  rw [Reply.received, crosses]
  rfl

/-- The reply of the server tells the caller what the same call made directly answers, and leaves
the same world behind. -/
theorem answer_eq (m : CallMessage) (w : World) :
    m.told w.system.channels.length (ServerSide.answer m w).1.1.received = (m.action.perform w).1 ∧
      (ServerSide.answer m w).1.2 = openedChannel? (m.action.perform w).1 ∧
      (ServerSide.answer m w).2 = (m.action.perform w).2 := by
  cases m with
  | pairDevice r =>
    simp only [ServerSide.answer, CallMessage.action, Action.perform, Transport.Direct.pairDevice,
      Service.openSession_eq]
    cases check : w.system.checkOpening r with
    | error cause =>
      have crossed : (Reply.received (.error cause.toWire)).bind Client.expectOpened = .error cause :=
        expect_error (Service.failure_of_checkOpening check).crosses
      refine ⟨?_, rfl, rfl⟩
      simp only [Except.map, CallMessage.told, crossed]
    | ok _ =>
      refine ⟨?_, rfl, rfl⟩
      simp only [Except.map, CallMessage.told, Reply.received, Except.bind, Client.expectOpened,
        Service.accept, Service.length_channels_remove]
  | pairingData r =>
    simp only [ServerSide.answer, CallMessage.action, Action.perform, Happening.perform,
      Transport.Direct.pairingData]
    refine ⟨congrArg Answer.data ?_, rfl, trivial⟩
    cases result : w.system.pairingData r with
    | error cause => exact expect_error (Service.failure_of_pairingData result).crosses
    | ok d => rfl
  | approve r =>
    simp only [ServerSide.answer, CallMessage.action, Action.perform, Happening.perform,
      Transport.Direct.approve]
    refine ⟨congrArg Answer.decided ?_, rfl, trivial⟩
    cases result : (w.system.approve w.issuedAt r).1 with
    | error cause => exact expect_error (Service.failure_of_approve result).crosses
    | ok _ => rfl
  | reject r =>
    simp only [ServerSide.answer, CallMessage.action, Action.perform, Happening.perform,
      Transport.Direct.reject]
    refine ⟨congrArg Answer.decided ?_, rfl, trivial⟩
    cases result : (w.system.reject r).1 with
    | error cause => exact expect_error (Service.failure_of_reject result).crosses
    | ok _ => rfl

theorem CallMessage.decode_write {m : CallMessage} (fits : Fits (CallMessage.codec.write m)) :
    CallMessage.codec.decode (CallMessage.codec.write m) = .ok m := by
  have counted : (CallMessage.codec.write m).length < 1 <<< 64 :=
    Nat.lt_of_le_of_lt fits (by decide)
  exact CallMessage.lawful_codec.decode_write (by decide) counted

section

variable {m : CallMessage} {content : Bytes} {s : ServerSide} {w : World}

theorem handle_single (decoded : CallMessage.codec.decode content = .ok m)
    (single : (ServerSide.answer m w).1.2 = none) (stage : s.stage = .receiving)
    (fits : Fits (Reply.codec.write (ServerSide.answer m w).1.1)) :
    s.handle content w =
      ({ s with
          written := s.written ++ [Reply.codec.write (ServerSide.answer m w).1.1]
          stage := .closed }, (ServerSide.answer m w).2) := by
  simp only [ServerSide.handle, decoded]
  generalize ServerSide.answer m w = answer at single fits
  obtain ⟨⟨reply, channel⟩, w'⟩ := answer
  obtain rfl : channel = none := single
  have small : (Reply.codec.write reply).length ≤ maxRecordLength := fits
  simp only [ServerSide.writeLast, ServerSide.write?, if_pos small, Option.getD_some,
    ServerSide.close, stage]

/-- A reply that is too long closes the connection without a word. -/
theorem handle_silent (decoded : CallMessage.codec.decode content = .ok m)
    (single : (ServerSide.answer m w).1.2 = none) (stage : s.stage = .receiving)
    (long : ¬ Fits (Reply.codec.write (ServerSide.answer m w).1.1)) :
    s.handle content w = ({ s with stage := .closed }, (ServerSide.answer m w).2) := by
  simp only [ServerSide.handle, decoded]
  generalize ServerSide.answer m w = answer at single long
  obtain ⟨⟨reply, channel⟩, w'⟩ := answer
  obtain rfl : channel = none := single
  have large : ¬ (Reply.codec.write reply).length ≤ maxRecordLength := long
  simp only [ServerSide.writeLast, ServerSide.write?, if_neg large, Option.getD_none,
    ServerSide.close, stage]

theorem handle_stream {i : Nat} (decoded : CallMessage.codec.decode content = .ok m)
    (stream : (ServerSide.answer m w).1.2 = some i)
    (fits : Fits (Reply.codec.write (ServerSide.answer m w).1.1)) :
    s.handle content w =
      ({ s with
          written := s.written ++ [Reply.codec.write (ServerSide.answer m w).1.1]
          stage := .streaming i }, (ServerSide.answer m w).2) := by
  simp only [ServerSide.handle, decoded]
  generalize ServerSide.answer m w = answer at stream fits
  obtain ⟨⟨reply, channel⟩, w'⟩ := answer
  obtain rfl : channel = some i := stream
  have small : (Reply.codec.write reply).length ≤ maxRecordLength := fits
  simp only [ServerSide.write?, if_pos small]

end

/-- Whether an item ends a stream: an error does, and a frame that no frame follows. -/
def ends : StreamItem → Bool
  | .error _ => true
  | .ok octets =>
    match Frame.decode .v1 octets with
    | .ok f => f.isTerminal
    | .error _ => false

def untilEnd : List StreamItem → List StreamItem
  | [] => []
  | x :: xs => if ends x then [x] else x :: untilEnd xs

theorem untilEnd_of_open {xs : List StreamItem} (none : ∀ x ∈ xs, ends x = false)
    (ys : List StreamItem) : untilEnd (xs ++ ys) = xs ++ untilEnd ys := by
  induction xs with
  | nil => rfl
  | cons x xs ih =>
    have first : ends x = false := none x List.mem_cons_self
    rw [List.cons_append, untilEnd, first, if_neg Bool.false_ne_true, List.cons_append,
      ih fun y member => none y (List.mem_cons_of_mem x member)]

theorem untilEnd_of_ended {xs : List StreamItem} {x : StreamItem} (none : ∀ x ∈ xs, ends x = false)
    (ended : ends x = true) (ys : List StreamItem) : untilEnd (xs ++ x :: ys) = xs ++ [x] := by
  rw [untilEnd_of_open none, untilEnd, if_pos ended]

theorem untilEnd_eq_self {xs : List StreamItem} (none : ∀ x ∈ xs, ends x = false) :
    untilEnd xs = xs := by
  have whole := untilEnd_of_open none []
  rwa [List.append_nil, untilEnd, List.append_nil] at whole

def StreamRecord.item : StreamRecord → StreamItem
  | .frame octets => .ok octets
  | .error e => .error (.ofWire e)

theorem StreamRecord.streamStep_write {r : StreamRecord}
    (fits : Fits (StreamRecord.codec.write r)) :
    Client.streamStep (.record (StreamRecord.codec.write r)) =
      match r.item with
      | .ok octets => .item octets
      | .error cause => .failure cause := by
  have counted : (StreamRecord.codec.write r).length < 1 <<< 64 :=
    Nat.lt_of_le_of_lt fits (by decide)
  have decoded : Client.decodeRecord StreamRecord.codec (StreamRecord.codec.write r) = .ok r := by
    rw [Client.decodeRecord, StreamRecord.lawful_codec.decode_write (by decide) counted]
    rfl
  rw [Client.streamStep, decoded]
  cases r <;> rfl

def itemRecord (x : StreamItem) : Bytes := StreamRecord.codec.write (ServerSide.passOn x).1

private theorem countable_of_fits {octets : Bytes} (fits : Fits (itemRecord (.ok octets))) :
    Frame.Countable octets := by
  have longer : octets.length ≤ (itemRecord (.ok octets)).length := by
    have content := Codec.length_le_writeOctets octets
    have whole : itemRecord (.ok octets) = writeVariant "Frame" (writeOctets octets) := rfl
    rw [whole, writeVariant, List.length_append]
    omega
  exact Nat.lt_of_le_of_lt (Nat.le_trans longer fits) (by decide)

/-- The server takes for the last item exactly the one that ends the stream. -/
theorem passOn_last {x : StreamItem} (proper : Proper x) (fits : Fits (itemRecord x)) :
    (ServerSide.passOn x).2 = ends x := by
  rcases proper with rfl | ⟨f, rfl⟩
  · rfl
  · cases f with
    | response r =>
      rw [ends, Frame.decode_response .v1 (countable_of_fits fits)]
      rfl
    | info text =>
      rw [ends, Frame.decode_info]
      rfl

theorem streamStep_itemRecord {x : StreamItem} (proper : Proper x) (fits : Fits (itemRecord x)) :
    Client.streamStep (.record (itemRecord x)) =
      match x with
      | .ok octets => .item octets
      | .error cause => .failure cause := by
  rw [itemRecord, StreamRecord.streamStep_write fits]
  rcases proper with rfl | ⟨f, rfl⟩ <;> rfl

end Connection

end DevicePairing
