import DevicePairing.Proofs.Session.Pace
import DevicePairing.Proofs.Session.Rights
import DevicePairing.Proofs.Session.Senders

set_option autoImplicit false
set_option relaxedAutoImplicit false

/-!
Which sessions are pending. Those who look a session up and those who decide it may be told
different things, since only a decision takes notice of a new device that has gone. They are told
the same once the supervisors have settled, because every session that waits is watched.
-/

namespace DevicePairing.Session

open DevicePairing
open DevicePairing.Clock

/-- A supervisor may still let its session expire. -/
def Supervisor.Watches (v : Supervisor) : Prop :=
  v.phase = .starting ∨ ∃ deadline, v.phase = .watching deadline

namespace Service

/-- Some supervisor watches a session with its channel. -/
def WatchedOver (s : Service) (session : String) (i : Nat) : Prop :=
  ∃ (j : Nat) (v : Supervisor), s.supervisors[j]? = some v ∧ v.session = session ∧ v.channel = i ∧
    v.Watches

/-- What an entry can be: either its session has come to an end, or it waits with a sender of its
channel and is watched over. -/
inductive Watched (s : Service) (session : String) (e : Entry) : Prop where
  | ended (final : e.state.isFinal = true) : Watched s session e
  | waiting (state : e.state = .awaitingApproval) (i : Nat) (sender : e.sender = some i)
      (guard : s.WatchedOver session i) : Watched s session e

def AllWatched (s : Service) : Prop :=
  ∀ session e, s.sessions.get? session = some e → s.Watched session e

/-- An entry of a later service is of a session that has ended, or it was there before and is still
watched over. -/
def Guards (s s' : Service) : Prop :=
  ∀ session e, s'.sessions.get? session = some e → e.state.isFinal = true ∨
    s.sessions.get? session = some e ∧ ∀ i, s.WatchedOver session i → s'.WatchedOver session i

private theorem AllWatched.of_guards {s s' : Service} (h : s.AllWatched) (guards : s.Guards s') :
    s'.AllWatched := by
  intro session e entry
  rcases guards session e entry with final | ⟨old, guard⟩
  · exact .ended final
  · cases h session e old with
    | ended final => exact .ended final
    | waiting state i sender watched => exact .waiting state i sender (guard i watched)

section

variable {s s' : Service}

private theorem WatchedOver.congr {session : String} {i : Nat} (h : s.WatchedOver session i)
    (same : s'.supervisors = s.supervisors) : s'.WatchedOver session i := by
  rwa [WatchedOver, same]

private theorem Guards.of_supervisors (same : s'.supervisors = s.supervisors)
    (sessions : ∀ session e, s'.sessions.get? session = some e →
      e.state.isFinal = true ∨ s.sessions.get? session = some e) : s.Guards s' := by
  intro session e entry
  exact (sessions session e entry).imp_right fun old => ⟨old, fun i guard => guard.congr same⟩

private theorem get?_ending {session name : String} {e₀ e : Entry} {state : State}
    (entry : (s.ending session e₀ state).sessions.get? name = some e) :
    e.state = state ∨ s.sessions.get? name = some e ∧ session ≠ name := by
  rw [ending, putEntry, Table.get?_put] at entry
  split at entry
  · cases entry
    exact .inl rfl
  · exact .inr ⟨entry, by assumption⟩

private theorem Guards.ending (s : Service) (session : String) (e : Entry) {state : State}
    (final : state.isFinal = true) : s.Guards (s.ending session e state) := by
  refine .of_supervisors rfl fun name e' entry => ?_
  rcases get?_ending entry with same | ⟨old, -⟩
  · exact .inl (same ▸ final)
  · exact .inr old

private theorem Guards.decide (s : Service) (session : String) (r : Resolution)
    (outcome : Key → Outcome) : s.Guards (s.decide session r outcome).2 := by
  have still : s.Guards s := .of_supervisors rfl fun _ _ => .inr
  rw [decide_eq]
  cases s.sessions.get? session with
  | none => exact still
  | some e =>
    simp only
    split
    · exact still
    · exact still
    · have final : (State.resolved r).isFinal = true := rfl
      exact Guards.ending s session e final
    · exact still
    · have final : State.expired.isFinal = true := rfl
      have ended := Guards.ending s session e final
      cases e.sender <;> exact ended

theorem supervisors_stopWatching (s : Service) (v : Supervisor) (cause : Cause) :
    (s.stopWatching v cause).supervisors = s.supervisors := by
  rw [stopWatching_eq]
  cases s.sessions.get? v.session with
  | none => rfl
  | some e =>
    obtain ⟨state, request, payload, sender, openedAt⟩ := e
    cases state <;> cases sender <;> cases cause <;> rfl

private theorem get?_stopWatching (h : s.AllWatched) (v : Supervisor) (cause : Cause)
    {session : String}
    {e : Entry} (entry : (s.stopWatching v cause).sessions.get? session = some e) :
    e.state.isFinal = true ∨ s.sessions.get? session = some e ∧ v.session ≠ session := by
  rw [stopWatching_eq] at entry
  cases known : s.sessions.get? v.session with
  | none =>
    rw [known] at entry
    refine .inr ⟨entry, ?_⟩
    rintro rfl
    cases known.symm.trans entry
  | some e₀ =>
    have expired : (s.ending v.session e₀ .expired).sessions.get? session = some e →
        e.state.isFinal = true ∨ s.sessions.get? session = some e ∧ v.session ≠ session := by
      intro entry
      rcases get?_ending entry with same | other
      · exact .inl (same ▸ rfl)
      · exact .inr other
    simp only [known] at entry
    split at entry
    · split at entry
      · exact expired entry
      · rw [sessions_releaseSender] at entry
        split at entry <;> exact expired entry
    · rename_i final
      by_cases same : v.session = session
      · subst same
        obtain rfl := Option.some.inj (known.symm.trans entry)
        cases h _ _ known with
        | ended final => exact .inl final
        | waiting state =>
          rw [state] at final
          exact absurd rfl final
      · exact .inr ⟨entry, same⟩

private theorem WatchedOver.setPhase {session : String} {i : Nat} (h : s.WatchedOver session i)
    (same : s'.supervisors = s.supervisors) {j : Nat} {v : Supervisor}
    (at_j : s.supervisors[j]? = some v) {phase : Phase}
    (watches : v.session = session → Supervisor.Watches { v with phase := phase }) :
    (s'.setPhase j phase).WatchedOver session i := by
  obtain ⟨k, u, at_k, named, channel, watching⟩ := h
  by_cases here : j = k
  · subst here
    obtain rfl := Option.some.inj (at_j.symm.trans at_k)
    exact ⟨j, { v with phase := phase }, by simp [Service.setPhase, same, at_j], named, channel,
      watches named⟩
  · exact ⟨k, u, by simp [Service.setPhase, same, here, at_k], named, channel, watching⟩

private theorem Guards.superviseStep (h : s.AllWatched) (moment : Moment) (prefer : Cause)
    (j : Nat) : s.Guards ((s.superviseStep moment prefer j).getD s) := by
  -- A supervisor gives up its guard only when its own session has come to an end or is removed, and
  -- the guards of other sessions are other supervisors.
  have still : s.Guards s := .of_supervisors rfl fun _ _ => .inr
  unfold Service.superviseStep
  split
  · exact still
  · rename_i v at_j
    split
    · intro session e entry
      exact .inr ⟨entry, fun i guard => guard.setPhase rfl at_j fun _ => .inr ⟨_, rfl⟩⟩
    · split
      · exact still
      · intro session e entry
        refine (get?_stopWatching h v _ entry).imp_right fun ⟨old, other⟩ => ⟨old, fun i guard => ?_⟩
        exact guard.setPhase (supervisors_stopWatching s v _) at_j fun same => absurd same other
    · split
      · intro session e entry
        have left : (s.remove v.session).sessions.get? session = some e := entry
        rw [sessions_remove, Table.get?_erase] at left
        split at left
        · cases left
        · rename_i other
          refine .inr ⟨left, fun i guard => ?_⟩
          exact guard.setPhase (supervisors_remove s v.session) at_j fun same => absurd same other
      · exact still
    · exact still

end

private theorem AllWatched.accept {s : Service} (h : s.AllWatched) (now : Nat) (entropy : Entropy)
    (r : PairRequest) : (s.accept now entropy r).service.AllWatched := by
  intro session e entry
  simp only [Service.accept, Table.get?_put] at entry
  split at entry
  · rename_i same
    cases entry
    refine .waiting rfl _ rfl ⟨_, _, List.getElem?_concat_length, same, rfl, .inl rfl⟩
  · rw [sessions_remove, Table.get?_erase] at entry
    split at entry
    · cases entry
    · cases h session e entry with
      | ended final => exact .ended final
      | waiting state i sender guard =>
        obtain ⟨j, v, at_j, watching⟩ := guard
        refine .waiting state i sender ⟨j, v, ?_, watching⟩
        obtain ⟨inside, -⟩ := List.getElem?_eq_some_iff.mp at_j
        simp only [Service.accept, supervisors_remove]
        rw [List.getElem?_append_left inside, at_j]

end Service

private theorem Action.allWatched {w : World} (h : w.system.AllWatched) (a : Action) :
    (a.perform w).2.system.AllWatched := by
  have effect := a.effect w
  generalize (a.perform w).2.system = s' at effect
  have idle : ∀ {s' : Service}, s'.supervisors = w.system.supervisors →
      s'.sessions = w.system.sessions → s'.AllWatched := by
    intro s' supervisors sessions
    refine h.of_guards (.of_supervisors supervisors fun session e entry => ?_)
    exact .inr (sessions ▸ entry)
  cases effect with
  | calm channels supervisors sessions => exact idle supervisors sessions
  | decided _ d _ => exact h.of_guards (.decide _ d.session d.resolution d.outcome)
  | supervised moment _ prefer j => exact h.of_guards (.superviseStep h moment prefer j)
  | opened r => exact h.accept w.now w.entropy r
  | received i => exact idle rfl rfl
  | departed i => exact idle rfl rfl

/-- In every run each session that waits is watched over, however sessions are named. -/
theorem allWatched_run (b : Beginning) (as : List Action) : (run b.world as).system.AllWatched := by
  induction as using List.reverseRecOn with
  | nil => exact fun _ _ entry => by cases entry
  | append_singleton as a ih =>
    rw [run_snoc]
    exact a.allWatched ih

/-- The new device of a session is there to be told something. -/
def Service.Hears (s : Service) (session : String) : Prop :=
  ∃ e, s.sessions.get? session = some e ∧ s.canSend e = true

def Service.Waits (s : Service) (session : String) : Prop :=
  s.stateOf? session = some .awaitingApproval

instance (s : Service) (session : String) : Decidable (s.Waits session) :=
  inferInstanceAs (Decidable (s.stateOf? session = some .awaitingApproval))

private theorem Service.waits_iff {s : Service} {session : String} :
    s.Waits session ↔ ∃ e, s.sessions.get? session = some e ∧ e.state = .awaitingApproval :=
  Option.map_eq_some_iff

private theorem waits_of_lookUp {w : World} {q : SignedRequest}
    (granted : ((Happening.lookUp q).perform w).1.isGranted = true) :
    ∃ body a, w.system.openAuthorized LookupBody.codec .getPairingData q = .ok (body, a) ∧
      w.system.Waits body.session := by
  simp only [Happening.perform, Transport.Direct.pairingData, Service.pairingData] at granted
  cases opened : w.system.openAuthorized LookupBody.codec .getPairingData q with
  | error cause =>
    rw [opened] at granted
    cases granted
  | ok known =>
    obtain ⟨body, a⟩ := known
    refine ⟨body, a, rfl, Service.waits_iff.mpr ?_⟩
    simp only [opened, Results.ok_bind] at granted
    cases entry : w.system.sessions.get? body.session with
    | none => simp only [entry, Answer.isGranted, reduceCtorEq] at granted
    | some e =>
      refine ⟨e, rfl, ?_⟩
      cases state : e.state <;>
        simp_all [State.isOpen, Answer.isGranted]

private theorem isGranted_lookUp {w : World} {q : SignedRequest} {body : LookupBody}
    {a : NodeAuthority}
    (opened : w.system.openAuthorized LookupBody.codec .getPairingData q = .ok (body, a)) :
    ((Happening.lookUp q).perform w).1.isGranted = true ↔ w.system.Waits body.session := by
  constructor
  · intro granted
    obtain ⟨body', a', opened', waits⟩ := waits_of_lookUp granted
    cases opened.symm.trans opened'
    exact waits
  · intro waits
    obtain ⟨e, entry, state⟩ := Service.waits_iff.mp waits
    simp only [Happening.perform, Transport.Direct.pairingData, Service.pairingData, opened,
      Results.ok_bind, entry, state, State.isOpen, if_true]
    rfl

private theorem isGranted_decision {w : World} {h : Happening} {d : Decision}
    (asked : h.decision? w = some d) :
    (h.perform w).1.isGranted = true ↔ w.system.Waits d.session ∧ w.system.Hears d.session := by
  rw [Happening.perform_of_decision asked, Service.waits_iff, Service.Hears, Service.decide_eq]
  cases w.system.sessions.get? d.session with
  | none => simp [Answer.isGranted]
  | some e =>
    simp only [Service.canSend_eq, Option.some.injEq, exists_eq_left']
    cases state : e.state <;> cases listener : w.system.listener? e <;> simp [Answer.isGranted]

private theorem decision_of_gone {w : World} {h : Happening} {d : Decision}
    (asked : h.decision? w = some d) (waits : w.system.Waits d.session)
    (gone : ¬ w.system.Hears d.session) :
    (h.perform w).1 = .decided (.error (.sessionNotFound d.session)) ∧
      ¬ (h.perform w).2.system.Waits d.session := by
  obtain ⟨e, entry, state⟩ := Service.waits_iff.mp waits
  have nobody : w.system.listener? e = none := by
    rw [← Option.not_isSome_iff_eq_none, ← Service.canSend_eq]
    exact fun heard => gone ⟨e, entry, heard⟩
  rw [Happening.perform_of_decision asked]
  simp only [Service.decide_eq, entry, state, nobody]
  refine ⟨trivial, fun still => ?_⟩
  obtain ⟨e', entry', state'⟩ := Service.waits_iff.mp still
  simp only [Environment.withSystem, Service.sessions_releaseSender] at entry'
  rcases Service.get?_ending entry' with expired | ⟨-, other⟩
  · rw [state'] at expired
    cases expired
  · exact other rfl

/-- What those are told who look up and who decide a session in one state, if they may ask. -/
structure PendingAnswers (w : World) (q : SignedRequest) (h : Happening) (session : String) :
    Prop where
  /-- A decision is made exactly if the look-up finds the session and its new device is there. -/
  made : (h.perform w).1.isGranted = true ↔
    ((Happening.lookUp q).perform w).1.isGranted = true ∧ w.system.Hears session
  /-- If the look-up finds the session although its new device has gone, whoever decides it is told
  that there is none, and from then on the look-up does not find it either. -/
  missed : ((Happening.lookUp q).perform w).1.isGranted = true → ¬ w.system.Hears session →
    (h.perform w).1 = .decided (.error (.sessionNotFound session)) ∧
      ((Happening.lookUp q).perform (h.perform w).2).1.isGranted = false
  /-- Once the supervisors have settled, the look-up finds the session exactly if a decision is
  made. -/
  settled : Settled w → ((h.perform w).1.isGranted = true ↔
    ((Happening.lookUp q).perform w).1.isGranted = true)

/-- A supervisor that watches and has nothing to do sees that the new device is there. -/
theorem isReceiving_of_settled {w : World} (settled : Settled w) {session : String} {i : Nat}
    (guard : w.system.WatchedOver session i) : w.system.isReceiving i = true := by
  obtain ⟨j, v, at_j, -, rfl, watches⟩ := guard
  have step : w.system.superviseStep (.settled w.now) .deadline j = none := settled .deadline j
  unfold Service.superviseStep at step
  rw [at_j] at step
  rcases watches with starting | ⟨deadline, watching⟩
  · simp only [starting, reduceCtorEq] at step
  · cases receiving : w.system.isReceiving v.channel with
    | true => rfl
    | false =>
      simp only [watching, Service.causes, receiving, Bool.false_eq_true, if_false] at step
      split at step
      · rename_i none
        simp at none
      · cases step

private theorem hears_of_settled {b : Beginning} {as : List Action}
    (settled : Settled (run b.world as))
    {session : String} (waits : (run b.world as).system.Waits session) :
    (run b.world as).system.Hears session := by
  obtain ⟨e, entry, state⟩ := Service.waits_iff.mp waits
  cases allWatched_run b as session e entry with
  | ended final =>
    rw [state] at final
    cases final
  | waiting _ i sender guard =>
    refine ⟨e, entry, ?_⟩
    rw [Service.canSend, sender]
    exact isReceiving_of_settled settled guard

/-- In every run, those who look up a session and those who decide it are told the same, but for a
new device that has gone without its supervisor having noticed. -/
theorem decisions_follow_lookUps (b : Beginning) (as : List Action) {q : SignedRequest}
    {body : LookupBody} {a : NodeAuthority}
    (opened : (run b.world as).system.openAuthorized LookupBody.codec .getPairingData q =
      .ok (body, a))
    {h : Happening} {d : Decision} (asked : h.decision? (run b.world as) = some d)
    (named : d.session = body.session) :
    PendingAnswers (run b.world as) q h body.session := by
  have found := isGranted_lookUp opened
  have made := isGranted_decision asked
  rw [named] at made
  refine ⟨?_, fun waits gone => ?_, fun settled => ?_⟩
  · rw [made, found]
  · have waiting := found.mp waits
    rw [← named] at waiting gone ⊢
    obtain ⟨answer, ended⟩ := decision_of_gone asked waiting gone
    refine ⟨answer, Bool.eq_false_iff.mpr fun granted => ?_⟩
    obtain ⟨body', a', opened', waits'⟩ := waits_of_lookUp granted
    have decoded := ((Service.openAuthorized_eq_ok body a).mp opened).1.2
    have decoded' := ((Service.openAuthorized_eq_ok body' a').mp opened').1.2
    cases decoded.symm.trans decoded'
    exact ended (named ▸ waits')
  · rw [made, found]
    exact and_iff_left_of_imp (hears_of_settled settled)

namespace Sample

/-- A session is opened, and its new device leaves. -/
def deserted : List Action :=
  [.service (.register authority), .drawKey, .openSession request, .dropReceiver 0]

def lookUp : SignedRequest :=
  SignedRequest.sealBody LookupBody.codec kiosk .getPairingData ⟨laterSession⟩

private theorem authority_known :
    (run beginning.world deserted).system.authorities.get? [7] = some authority :=
  (authority_run beginning deserted [7]).trans rfl

private theorem lookUp_opened :
    (run beginning.world deserted).system.openAuthorized LookupBody.codec
    .getPairingData lookUp = .ok (⟨laterSession⟩, authority) := by
  have signed := (lookUp.checkSignature_eq_ok .getPairingData ()).mp (by decide +kernel)
  exact (Service.openAuthorized_eq_ok _ authority).mpr
    ⟨⟨signed, by decide +kernel⟩, authority_known, kiosk_certified⟩

private theorem approval_asked : ∃ d, (Happening.approve approval).decision?
    (run beginning.world deserted) = some d ∧ d.session = laterSession :=
  ⟨_, Happening.decision?_of_checkApproval (approval_granted authority_known), rfl⟩

end Sample

/-- The answers for a session whose new device has just left. -/
theorem decisions_follow_lookUps_of_deserted :
    PendingAnswers (run Sample.beginning.world Sample.deserted) Sample.lookUp
      (.approve Sample.approval) Sample.laterSession := by
  obtain ⟨d, asked, named⟩ := Sample.approval_asked
  exact decisions_follow_lookUps Sample.beginning Sample.deserted Sample.lookUp_opened asked named

/-- Those who look up and those who decide are not always told the same: a session whose new device
has just left is still described, but it cannot be approved any more. -/
theorem deserted_session_is_described :
    ¬ ∀ (b : Beginning) (as : List Action) (q : SignedRequest) (body : LookupBody)
      (a : NodeAuthority) (h : Happening) (d : Decision),
      (run b.world as).system.openAuthorized LookupBody.codec .getPairingData q = .ok (body, a) →
      h.decision? (run b.world as) = some d → d.session = body.session →
      (((Happening.lookUp q).perform (run b.world as)).1.isGranted = true ↔
        (h.perform (run b.world as)).1.isGranted = true) := by
  intro agree
  obtain ⟨d, asked, named⟩ := Sample.approval_asked
  have waits : (run Sample.beginning.world Sample.deserted).system.Waits Sample.laterSession := by
    decide +kernel
  have deaf : ((run Sample.beginning.world Sample.deserted).system.sessions.get?
      Sample.laterSession).all (fun e => !(run Sample.beginning.world Sample.deserted).system.canSend e)
        = true := by
    decide +kernel
  have same := agree Sample.beginning Sample.deserted Sample.lookUp ⟨Sample.laterSession⟩
    Sample.authority _ d Sample.lookUp_opened asked named
  rw [isGranted_lookUp Sample.lookUp_opened, isGranted_decision asked, named] at same
  obtain ⟨e, entry, heard⟩ := (same.mp waits).2
  rw [entry, Option.all_some, heard] at deaf
  cases deaf

end DevicePairing.Session
