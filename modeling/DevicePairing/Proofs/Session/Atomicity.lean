import DevicePairing.Proofs.Session.Desertion
import DevicePairing.Proofs.Session.Isolation
import DevicePairing.Proofs.Session.Representation
import DevicePairing.Proofs.Session.Senders

set_option autoImplicit false
set_option relaxedAutoImplicit false

/-!
Calls that fail. They leave everything as it was, whichever check they fail, except that a decision
on a session whose new device has gone lets this session expire. That is all it does: nothing is
sent, and whatever else is stored stays.
-/

namespace DevicePairing.Session

open DevicePairing
open DevicePairing.Clock

namespace Service

/-- The session waits, and the receiver of its channel has gone. -/
structure Abandoned (s : Service) (session : String) (e : Entry) (i : Nat) : Prop where
  entry : s.sessions.get? session = some e
  waits : e.state = .awaitingApproval
  sender : e.sender = some i
  gone : s.Gone i

/-- The session expired and its sender was released. Nothing else was changed. -/
structure Expires (s s' : Service) (session : String) (e : Entry) (i : Nat) : Prop where
  sessions : ∀ name, s'.sessions.get? name =
    if session = name then some (e.ended .expired) else s.sessions.get? name
  count : s'.count = s.count
  channels : s'.channels = s.channels.modify i Channel.dropSender
  supervisors : s'.supervisors = s.supervisors
  setup : s'.setup = s.setup

variable {s s' : Service} {session : String} {e : Entry} {i : Nat}

private theorem Expires.sent (h : Expires s s' session e i) :
    s'.channels.map Channel.sent = s.channels.map Channel.sent := by
  rw [h.channels]
  apply List.ext_getElem?
  intro j
  rw [List.getElem?_map, List.getElem?_map, List.getElem?_modify]
  cases s.channels[j]? with
  | none => rfl
  | some c => by_cases same : i = j <;> simp [same, Channel.dropSender]

private theorem length_put {κ α : Type} [DecidableEq κ] {t : Table κ α} {key : κ} {a : α}
    (known : t.get? key = some a) (a' : α) : (t.put key a').length = t.length := by
  induction t with
  | nil => cases known
  | cons row t ih =>
    obtain ⟨k, b⟩ := row
    by_cases same : k = key
    · simp [Table.put, same]
    · rw [Table.get?, if_neg same] at known
      simp [Table.put, same, ih known]

private theorem expires_ending (entry : s.sessions.get? session = some e) :
    Expires s ((s.ending session e .expired).releaseSender (some i)) session e i where
  sessions := fun _ => Table.get?_put ..
  count := length_put entry _
  channels := rfl
  supervisors := rfl
  setup := rfl

end Service

section

variable {b : Beginning} {as : List Action} {session : String} {q : Resolution}
  {outcome : Key → Outcome}

private theorem decide_of_abandoned {s : Service} {e : Entry} {i : Nat}
    (abandoned : s.Abandoned session e i) :
    s.decide session q outcome =
      (.error (.sessionNotFound session), (s.ending session e .expired).releaseSender (some i)) := by
  have deaf := Service.listener?_of_gone abandoned.gone abandoned.sender
  rw [Service.decide_eq, abandoned.entry]
  simp only [abandoned.waits, deaf, abandoned.sender]

private theorem decide_failed {cause : PairingError}
    (failed : ((run b.world as).system.decide session q outcome).1 = .error cause) :
    ((run b.world as).system.decide session q outcome).2 = (run b.world as).system ∨
      ∃ e i, (run b.world as).system.Abandoned session e i := by
  cases entry : (run b.world as).system.sessions.get? session with
  | none =>
    left
    rw [Service.decide_eq, entry]
  | some e =>
    rcases (represents_run entry).state_cases with ⟨final, -⟩ | ⟨waits, i, sender⟩
    · left
      rw [Service.decide_eq, entry]
      simp only
      cases state : e.state with
      | resolved q' => rfl
      | expired => rfl
      | _ =>
        rw [state] at final
        cases final
    · right
      obtain ⟨c, at_i⟩ := (owned_run b as).channel ⟨session, e, entry, sender⟩
      refine ⟨e, i, entry, waits, sender, c, at_i, ?_⟩
      by_contra here
      have hears : (run b.world as).system.listener? e = some i := by
        rw [Service.listener?, sender, Option.filter_some, Service.isReceiving, at_i]
        exact if_pos (Bool.of_not_eq_false here)
      rw [Service.decide_eq, entry] at failed
      simp only [waits, hears] at failed
      cases failed

end

private theorem decision_of_check {w : World} {r : SignedRequest} {operation : Operation}
    (decides : operation ≠ .getPairingData) (passed : w.system.check r operation = .ok ()) :
    ∃ d, (Happening.ofRequest r operation).decision? w = some d := by
  rw [Service.check_eq_ok] at passed
  obtain ⟨a, known⟩ := passed.certified
  cases operation with
  | getPairingData => exact absurd rfl decides
  | approvePairing =>
    obtain ⟨body, readable⟩ := passed.readable
    have opened := (Service.openAuthorized_eq_ok body a).mpr ⟨⟨passed.signed, readable⟩, known⟩
    have granted := (Service.checkApproval_eq_ok body a).mpr
      ⟨opened, passed.granting rfl body readable⟩
    exact ⟨_, Happening.decision?_of_checkApproval granted⟩
  | rejectPairing =>
    obtain ⟨body, readable⟩ := passed.readable
    have opened := (Service.openAuthorized_eq_ok body a).mpr ⟨⟨passed.signed, readable⟩, known⟩
    have granted := (Service.checkRejection_eq_ok body).mpr ⟨a, opened⟩
    refine ⟨⟨body.session, .rejected, fun _ => .rejected body.reason⟩, ?_⟩
    simp only [Happening.ofRequest, Happening.decision?, granted]

/-- A decision that is made after all checks finds the session that it names without its new device:
the session expires, and the caller is told that there is none. -/
structure ComesTooLate (w : World) (r : SignedRequest) (operation : Operation) (session : String)
    (e : Entry) (i : Nat) : Prop where
  entitled : Entitled w.system.authorities.get? r operation
  named : (Happening.ofRequest r operation).named? = some session
  abandoned : w.system.Abandoned session e i

/-- What can be said of all calls that fail in a world. -/
structure Atomic (w : World) : Prop where
  /-- A session is refused before anything is done: no entry is made, no supervisor is started and
  no random octets are drawn. -/
  opening : ∀ r cause, ((Action.openSession r).perform w).1 = .opened (.error cause) →
    w.system.checkOpening r = .error cause ∧ ((Action.openSession r).perform w).2 = w
  lookUp : ∀ r, ((Happening.lookUp r).perform w).2 = w
  /-- A decision that fails changes nothing unless it comes too late for the new device. -/
  decision : ∀ r operation cause,
    ((Happening.ofRequest r operation).perform w).1 = .decided (.error cause) →
      ((Happening.ofRequest r operation).perform w).2 = w ∨
        ∃ session e i, ComesTooLate w r operation session e i
  late : ∀ r operation session e i, operation ≠ .getPairingData →
    ComesTooLate w r operation session e i →
      ∃ s, (Happening.ofRequest r operation).perform w =
          (.decided (.error (.sessionNotFound session)), w.withSystem s) ∧
        w.system.Expires s session e i
  /-- Nothing is put on a channel when a call fails, so no certificate either. -/
  silent : ∀ (a : Action) (cause : PairingError), (a.perform w).1.error? = some cause →
    (a.perform w).2.system.channels.map Channel.sent = w.system.channels.map Channel.sent

section

variable {w : World} {r : SignedRequest} {operation : Operation}

private theorem ComesTooLate.perform {session : String} {e : Entry} {i : Nat}
    (decides : operation ≠ .getPairingData) (late : ComesTooLate w r operation session e i) :
    ∃ s, (Happening.ofRequest r operation).perform w =
        (.decided (.error (.sessionNotFound session)), w.withSystem s) ∧
      w.system.Expires s session e i := by
  have passed := (Service.check_eq_ok w.system r operation).mpr late.entitled
  obtain ⟨d, asked⟩ := decision_of_check decides passed
  obtain rfl : d.session = session :=
    Option.some.inj ((Happening.named?_of_decision asked).symm.trans late.named)
  refine ⟨_, ?_, Service.expires_ending late.abandoned.entry⟩
  rw [Happening.perform_of_decision asked, decide_of_abandoned late.abandoned]

end

section

variable {b : Beginning} {as : List Action} {r : SignedRequest} {operation : Operation}

private theorem perform_failed {cause : PairingError}
    (failed : ((Happening.ofRequest r operation).perform (run b.world as)).1 =
      .decided (.error cause)) :
    ((Happening.ofRequest r operation).perform (run b.world as)).2 = run b.world as ∨
      ∃ session e i, ComesTooLate (run b.world as) r operation session e i := by
  have decides : operation ≠ .getPairingData := by
    rintro rfl
    cases failed
  cases check : (run b.world as).system.check r operation with
  | error cause => exact .inl (congrArg Prod.snd (Happening.perform_of_check_error check))
  | ok _ =>
    obtain ⟨d, asked⟩ := decision_of_check decides check
    have entitled := (Service.check_eq_ok (run b.world as).system r operation).mp check
    rw [Happening.perform_of_decision asked] at failed ⊢
    rcases decide_failed (Answer.decided.inj failed) with same | ⟨e, i, abandoned⟩
    · exact .inl (by rw [same]; rfl)
    · exact .inr ⟨d.session, e, i, entitled, Happening.named?_of_decision asked, abandoned⟩

private theorem opening_failed {w : World} {q : PairRequest} {cause : PairingError}
    (failed : ((Action.openSession q).perform w).1 = .opened (.error cause)) :
    w.system.checkOpening q = .error cause ∧ ((Action.openSession q).perform w).2 = w := by
  simp only [Action.perform, Transport.Direct.pairDevice, Service.openSession_eq] at failed ⊢
  cases check : w.system.checkOpening q with
  | ok _ =>
    simp only [check, Except.map] at failed
    cases failed
  | error cause' =>
    simp only [check, Except.map, Answer.opened.injEq, Except.error.injEq] at failed ⊢
    exact ⟨failed, trivial⟩

private theorem silent_decision {cause : PairingError}
    (failed : ((Happening.ofRequest r operation).perform (run b.world as)).1 =
      .decided (.error cause)) :
    ((Happening.ofRequest r operation).perform (run b.world as)).2.system.channels.map Channel.sent =
      (run b.world as).system.channels.map Channel.sent := by
  have decides : operation ≠ .getPairingData := by
    rintro rfl
    cases failed
  rcases perform_failed failed with same | ⟨session, e, i, late⟩
  · rw [same]
  · obtain ⟨s, performed, expires⟩ := late.perform decides
    rw [performed]
    exact expires.sent

end

private theorem silent_failed {b : Beginning} {as : List Action} {a : Action} {cause : PairingError}
    (failed : (a.perform (run b.world as)).1.error? = some cause) :
    (a.perform (run b.world as)).2.system.channels.map Channel.sent =
      (run b.world as).system.channels.map Channel.sent := by
  cases a with
  | service h =>
    cases h with
    | lookUp r => rfl
    | approve r =>
      have refused : ((Happening.ofRequest r .approvePairing).perform (run b.world as)).1 =
          .decided (.error cause) := congrArg Answer.decided (Answer.error?_decided.mp failed)
      exact silent_decision refused
    | reject r =>
      have refused : ((Happening.ofRequest r .rejectPairing).perform (run b.world as)).1 =
          .decided (.error cause) := congrArg Answer.decided (Answer.error?_decided.mp failed)
      exact silent_decision refused
    | _ => cases failed
  | openSession q =>
    rw [(opening_failed (congrArg Answer.opened (Answer.error?_opened.mp failed))).2]
  | _ => cases failed

/-- In every run, a call that fails is as if it had not been made, but for the decisions that come
too late for the new device. -/
theorem failed_calls_are_atomic (b : Beginning) (as : List Action) : Atomic (run b.world as) where
  opening _ _ := opening_failed
  lookUp _ := rfl
  decision _ _ _ := perform_failed
  late _ _ _ _ _ decides late := late.perform decides
  silent _ _ := silent_failed

end DevicePairing.Session
