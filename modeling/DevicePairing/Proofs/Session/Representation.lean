import DevicePairing.Proofs.Session.Lives
import DevicePairing.Proofs.Session.Origin
import DevicePairing.Proofs.Session.Rights

set_option autoImplicit false
set_option relaxedAutoImplicit false

/-!
What the registry holds. Every entry is what has become of the last opening of its session, and it
has a sender exactly while the session waits. So whoever decides a session that waits, or lets it
expire, finds its sender, and no session is ever asked to go where it cannot go.
-/

namespace DevicePairing.Session

open DevicePairing
open DevicePairing.Clock

/-- In a run a session was opened by a request at some time over the channel `i`, and it was not
opened again after that. -/
def LastOpened (b : Beginning) (as : List Action) (session : String) (r : PairRequest)
    (openedAt i : Nat) : Prop :=
  ∃ before a later o, as = before ++ a :: later ∧
    (Step.mk (run b.world before) a).opening? = some (r, o, i) ∧ o.session = session ∧
    (run b.world before).now = openedAt ∧
    session ∉ openings (steps (run b.world (before ++ [a])) later)

private theorem LastOpened.snoc {b : Beginning} {as : List Action} {session : String}
    {r : PairRequest} {openedAt i : Nat} (h : LastOpened b as session r openedAt i) {a : Action}
    (other : session ∉ openings [⟨run b.world as, a⟩]) :
    LastOpened b (as ++ [a]) session r openedAt i := by
  obtain ⟨before, x, later, o, rfl, opened, named, time, last⟩ := h
  refine ⟨before, x, later ++ [a], o, by rw [List.append_assoc, List.cons_append], opened, named, time,
    ?_⟩
  rw [List.append_cons, run_append] at other
  rw [steps_snoc, openings_append, List.mem_append, not_or]
  exact ⟨last, other⟩

theorem Step.entry_cases {w : World} {a : Action} {session : String} {e' : Entry}
    (entry' : (a.perform w).2.system.sessions.get? session = some e') :
    (∃ o i, (Step.mk w a).opening? = some (e'.request, o, i) ∧ o.session = session ∧
        w.system.checkOpening e'.request = .ok () ∧
        e' = ⟨.awaitingApproval, e'.request, Exchange.payload session, some i, w.now⟩) ∨
      session ∉ openings [⟨w, a⟩] ∧ ∃ e, w.system.sessions.get? session = some e ∧ e.Goes e' := by
  by_cases opens : ∃ r, a = .openSession r
  · obtain ⟨r, rfl⟩ := opens
    have opening := opening?_eq w (.openSession r)
    simp only [Action.perform, Transport.Direct.pairDevice, Service.openSession_eq] at entry'
    cases check : w.system.checkOpening r with
    | error cause =>
      simp only [check] at opening entry'
      refine .inr ⟨?_, e', entry', .nowhere⟩
      simp [openings, opening]
    | ok _ =>
      simp only [check, Except.map, Service.accept, Table.get?_put] at opening entry'
      split at entry'
      · rename_i same
        cases entry'
        refine .inl ⟨_, _, opening, same, check, ?_⟩
        rw [← same]
        rfl
      · rename_i other
        refine .inr ⟨?_, Service.Keeps.remove _ (Service.nextName w.entropy) session e' entry'⟩
        simpa [openings, opening] using Ne.symm other
  · have unopened : (Step.mk w a).opening? = none := by
      rw [opening?_eq]
      cases a with
      | openSession r => exact absurd ⟨r, rfl⟩ opens
      | _ => rfl
    rcases Action.entry_cases entry' with old | ⟨opened, -⟩
    · refine .inr ⟨?_, old⟩
      simp [openings, unopened]
    · exact absurd ⟨_, opened⟩ opens

/-- Unless its session was opened anew, an entry that is there after a step is what has become of
the one that was there. -/
theorem Step.entry_of_unopened {w : World} {a : Action} {session : String} {e' : Entry}
    (other : session ∉ openings [⟨w, a⟩])
    (entry' : (a.perform w).2.system.sessions.get? session = some e') :
    ∃ e, w.system.sessions.get? session = some e ∧ e.Goes e' := by
  rcases Step.entry_cases entry' with ⟨o, j, opened, named, -, -⟩ | ⟨-, goes⟩
  · refine absurd ?_ other
    simp [openings, opened, named]
  · exact goes

/-- What an entry of a run tells of its session. -/
structure Represents (b : Beginning) (as : List Action) (session : String) (e : Entry) : Prop where
  opened : ∃ i, LastOpened b as session e.request e.openedAt i ∧ ∀ j, e.sender = some j → j = i
  isPublicKey : Ed25519.isPublicKey e.request.deviceKey = true
  exchangePayload : e.exchangePayload = Exchange.payload session
  state_ne_created : e.state ≠ .created
  sender_iff : e.sender.isSome = true ↔ e.state = .awaitingApproval

theorem Service.isPublicKey_of_checkOpening {s : Service} {r : PairRequest}
    (accepted : s.checkOpening r = .ok ()) : Ed25519.isPublicKey r.deviceKey = true := by
  unfold checkOpening at accepted
  split at accepted
  · cases accepted
  · split at accepted
    · cases accepted
    · rename_i valid
      simpa using valid

private theorem Represents.snoc {b : Beginning} {as : List Action} {session : String} {e e' : Entry}
    (h : Represents b as session e) (goes : e.Goes e') {a : Action}
    (other : session ∉ openings [⟨run b.world as, a⟩]) :
    Represents b (as ++ [a]) session e' := by
  obtain ⟨i, last, sender⟩ := h.opened
  cases goes with
  | nowhere =>
    exact ⟨⟨i, last.snoc other, sender⟩, h.isPublicKey, h.exchangePayload, h.state_ne_created,
      h.sender_iff⟩
  | @toEnd state unfinished final =>
    refine ⟨⟨i, last.snoc other, nofun⟩, h.isPublicKey, h.exchangePayload, ?_, ?_⟩
    · rintro rfl
      cases final
    · refine ⟨nofun, ?_⟩
      rintro rfl
      cases final

theorem represents_run {b : Beginning} {as : List Action} {session : String} {e : Entry}
    (entry : (run b.world as).system.sessions.get? session = some e) :
    Represents b as session e := by
  induction as using List.reverseRecOn generalizing e with
  | nil => cases entry
  | append_singleton as a ih =>
    rw [run_snoc] at entry
    rcases Step.entry_cases entry with ⟨o, i, opened, named, accepted, new⟩ | ⟨other, e₀, old, goes⟩
    · rw [new]
      refine ⟨⟨i, ⟨as, a, [], o, rfl, opened, named, rfl, List.not_mem_nil⟩, ?_⟩,
        Service.isPublicKey_of_checkOpening accepted, rfl, nofun, ?_⟩
      · intro j same
        exact (Option.some.inj same).symm
      · exact ⟨fun _ => rfl, fun _ => rfl⟩
    · exact (ih old).snoc goes other

namespace Represents

variable {b : Beginning} {as : List Action} {session : String} {e : Entry}
  (h : Represents b as session e)
include h

theorem state_cases :
    e.state.isFinal = true ∧ e.sender = none ∨
      e.state = .awaitingApproval ∧ ∃ i, e.sender = some i := by
  have sender := h.sender_iff
  cases state : e.state with
  | created => exact absurd state h.state_ne_created
  | awaitingApproval => exact .inr ⟨rfl, Option.isSome_iff_exists.mp (sender.mpr state)⟩
  | _ =>
    rw [state] at sender
    exact .inl ⟨rfl, Option.not_isSome_iff_eq_none.mp fun some => nomatch sender.mp some⟩

private theorem expire {s : Service} (entry : s.sessions.get? session = some e) :
    e.state.isFinal = true ∧ s.expire session = (none, s) ∨
      ∃ i, e.sender = some i ∧ s.expire session = (some i, s.ending session e .expired) := by
  rcases h.state_cases with ⟨final, -⟩ | ⟨state, i, sender⟩
  · refine .inl ⟨final, ?_⟩
    simp only [Service.expire, entry, State.transition, State.not_mayFollow_of_isFinal final]
    rfl
  · refine .inr ⟨i, sender, ?_⟩
    simp only [Service.expire, entry, State.transition, state, State.mayFollow, if_true, sender]
    rfl

private theorem resolve {s : Service} (entry : s.sessions.get? session = some e)
    (state : e.state = .awaitingApproval) (q : Resolution) :
    ∃ i, e.sender = some i ∧ s.resolve session q =
      if s.isReceiving i then
        (.ok (e.request.deviceKey, some i), s.ending session e (.resolved q))
      else
        (.error (.sessionNotFound session), (s.ending session e .expired).releaseSender (some i)) := by
  obtain ⟨i, sender⟩ := Option.isSome_iff_exists.mp (h.sender_iff.mpr state)
  refine ⟨i, sender, ?_⟩
  simp only [Service.resolve, entry, state, Service.canSend, sender]
  cases s.isReceiving i with
  | true => simp only [if_true, State.transition, State.mayFollow]; rfl
  | false =>
    simp only [Bool.false_eq_true, if_false, Service.expireEntry, State.transition, state,
      State.mayFollow, if_true, Results.ok_bind, sender]
    rfl

end Represents

private theorem sender_of_resolve {b : Beginning} {as : List Action} {session : String}
    {q : Resolution} {key : Key} {sender : Option Nat} {t : Service}
    (resolved : (run b.world as).system.resolve session q = (.ok (key, sender), t)) :
    ∃ i, sender = some i := by
  cases entry : (run b.world as).system.sessions.get? session with
  | none => simp [Service.resolve, entry] at resolved
  | some e =>
    have represents := represents_run entry
    cases state : e.state with
    | created => exact absurd state represents.state_ne_created
    | awaitingApproval =>
      obtain ⟨i, -, same⟩ := represents.resolve entry state q
      rw [same] at resolved
      split at resolved
      · cases resolved
        exact ⟨i, rfl⟩
      · cases resolved
    | _ => simp [Service.resolve, entry, state] at resolved

private theorem error_of_decide {b : Beginning} {as : List Action} {session : String}
    {q : Resolution} {outcome : Key → Outcome} {cause : PairingError}
    (failed : ((run b.world as).system.decide session q outcome).1 = .error cause) :
    cause = .sessionNotFound session ∨ cause = .sessionAlreadyResolved session := by
  rw [Service.decide_eq] at failed
  cases entry : (run b.world as).system.sessions.get? session with
  | none =>
    rw [entry] at failed
    exact .inl (Except.error.inj failed).symm
  | some e =>
    rw [entry] at failed
    simp only at failed
    split at failed
    · exact .inr (Except.error.inj failed).symm
    · exact .inl (Except.error.inj failed).symm
    · cases failed
    · rename_i state _
      exact absurd state (represents_run entry).state_ne_created
    · exact .inl (Except.error.inj failed).symm

section

variable {s : Service} {r : SignedRequest} {detail : String}

private theorem unopened_ne_invalidState {α : Type} {k : Cbor.Codec α} {operation : Operation} :
    ¬ SignedRequest.Unopened k operation r (.invalidState detail) := nofun

private theorem Service.checkOpening_ne_invalidState (q : PairRequest) :
    s.checkOpening q ≠ .error (.invalidState detail) := by
  unfold checkOpening
  split
  · exact nofun
  · split <;> exact nofun

private theorem Service.pairingData_ne_invalidState :
    s.pairingData r ≠ .error (.invalidState detail) := by
  intro failed
  rcases Results.bind_eq_error.mp failed with unopened | ⟨⟨body, a⟩, -, missing⟩
  · exact unopened_ne_invalidState (unopened_of_openAuthorized unopened)
  · simp only at missing
    split at missing
    · split at missing <;> cases missing
    · cases missing

variable {b : Beginning} {as : List Action}

private theorem decide_ne_invalidState {session : String} {q : Resolution}
    {outcome : Key → Outcome} :
    ((run b.world as).system.decide session q outcome).1 ≠ .error (.invalidState detail) := by
  intro failed
  rcases error_of_decide failed with impossible | impossible <;> cases impossible

private theorem approve_ne_invalidState (issuedAt : UInt64) :
    ((run b.world as).system.approve issuedAt r).1 ≠ .error (.invalidState detail) := by
  intro failed
  unfold Service.approve at failed
  cases check : (run b.world as).system.checkApproval r with
  | error cause =>
    rw [check] at failed
    cases failed
    exact unopened_ne_invalidState (Service.unopened_of_checkApproval check)
  | ok granted =>
    rw [check] at failed
    exact decide_ne_invalidState failed

private theorem reject_ne_invalidState :
    ((run b.world as).system.reject r).1 ≠ .error (.invalidState detail) := by
  intro failed
  unfold Service.reject at failed
  cases check : (run b.world as).system.checkRejection r with
  | error cause =>
    rw [check] at failed
    cases failed
    exact unopened_ne_invalidState (Service.unopened_of_checkRejection check)
  | ok body =>
    rw [check] at failed
    exact decide_ne_invalidState failed

end

private theorem error?_ne_invalidState (b : Beginning) (as : List Action) (a : Action)
    (detail : String) : (a.perform (run b.world as)).1.error? ≠ some (.invalidState detail) := by
  cases a with
  | service h =>
    cases h with
    | lookUp r => simp [Action.perform, Happening.perform, Transport.Direct.pairingData,
        Service.pairingData_ne_invalidState]
    | approve r => simp [Action.perform, Happening.perform, Transport.Direct.approve,
        approve_ne_invalidState]
    | reject r => simp [Action.perform, Happening.perform, Transport.Direct.reject,
        reject_ne_invalidState]
    | _ =>
      intro failed
      cases failed
  | openSession r =>
    simp only [Action.perform, Transport.Direct.pairDevice, Service.openSession_eq]
    cases check : (run b.world as).system.checkOpening r with
    | error cause =>
      intro failed
      obtain rfl := Except.error.inj (Answer.error?_opened.mp failed)
      exact Service.checkOpening_ne_invalidState r check
    | ok _ =>
      intro failed
      cases failed
  | _ =>
    intro failed
    cases failed

private theorem sent_ne_invalidState {b : Beginning} {as : List Action} {i : Nat} {c : Channel}
    (at_i : (run b.world as).system.channels[i]? = some c) {x : StreamItem} (member : x ∈ c.sent)
    (detail : String) : x ≠ .error (.invalidState detail) := by
  obtain ⟨before, a, later, -, sends | ⟨r, -, greets⟩⟩ := sent_origin at_i member
  · rcases sends.proper with rfl | ⟨f, rfl⟩ <;> exact nofun
  · rintro rfl
    cases version : r.version <;> simp [Life.prelude, version] at greets

/-- The registry in a run, and what no one meets who uses it. -/
structure RegistrySound (b : Beginning) (as : List Action) : Prop where
  /-- Every entry is that of the last opening of its session, with a sender exactly while it waits. -/
  entries : ∀ session e, (run b.world as).system.sessions.get? session = some e →
    Represents b as session e
  /-- Whoever decides a session that waits finds its sender, and every transition that is tried
  then is made. -/
  resolve : ∀ session e q, (run b.world as).system.sessions.get? session = some e →
    e.state = .awaitingApproval → ∃ i, e.sender = some i ∧
      (run b.world as).system.resolve session q =
        if (run b.world as).system.isReceiving i then
          (.ok (e.request.deviceKey, some i),
            (run b.world as).system.ending session e (.resolved q))
        else (.error (.sessionNotFound session),
          ((run b.world as).system.ending session e .expired).releaseSender (some i))
  /-- The last frame is never to be sent without a sender. -/
  deliver : ∀ session q key sender t,
    (run b.world as).system.resolve session q = (.ok (key, sender), t) → ∃ i, sender = some i
  /-- A supervisor leaves a session alone that has come to an end, and lets every other one expire. -/
  expire : ∀ session e, (run b.world as).system.sessions.get? session = some e →
    e.state.isFinal = true ∧
        (run b.world as).system.expire session = (none, (run b.world as).system) ∨
      ∃ i, e.sender = some i ∧ (run b.world as).system.expire session =
        (some i, (run b.world as).system.ending session e .expired)
  answers : ∀ (a : Action) (detail : String),
    (a.perform (run b.world as)).1.error? ≠ some (.invalidState detail)
  sent : ∀ (i : Nat) (c : Channel), (run b.world as).system.channels[i]? = some c → ∀ x ∈ c.sent,
    ∀ detail : String, x ≠ .error (.invalidState detail)

/-- In every run the registry is sound, in whatever order its sessions are opened, decided and
supervised. -/
theorem registry_is_sound (b : Beginning) (as : List Action) : RegistrySound b as where
  entries _ _ entry := represents_run entry
  resolve _ _ q entry state := (represents_run entry).resolve entry state q
  deliver _ _ _ _ _ resolved := sender_of_resolve resolved
  expire _ _ entry := (represents_run entry).expire entry
  answers := error?_ne_invalidState b as
  sent _ _ at_i _ member := sent_ne_invalidState at_i member

end DevicePairing.Session
