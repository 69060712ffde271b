import DevicePairing.Proofs.Session.Run

set_option autoImplicit false
set_option relaxedAutoImplicit false

/-!
The life of one session, from its opening on: its state, its channel and the phase of its
supervisor. What a life comes to depends on what reaches the session alone. Decisions reach it by
its name, its receiver and its supervisor by the number of its channel.
-/

namespace DevicePairing.Session

open DevicePairing
open DevicePairing.Clock

structure Decision where
  session : String
  resolution : Resolution
  /-- What the new device is told, which may depend on its key. -/
  outcome : Key → Outcome

def Happening.decision? (w : World) : Happening → Option Decision
  | .approve r =>
    match w.system.checkApproval r with
    | .error _ => none
    | .ok (body, a) =>
      some ⟨body.session, .approved, fun key =>
        .approved (a.issueCredentials w.issuedAt key body.deviceName body.restrictions)⟩
  | .reject r =>
    match w.system.checkRejection r with
    | .error _ => none
    | .ok body => some ⟨body.session, .rejected, fun _ => .rejected body.reason⟩
  | _ => none

/-- What can reach a session. -/
inductive Stimulus where
  | decision (d : Decision)
  | receipt
  | departure
  | supervision (moment : Moment) (prefer : Cause)

/-- What reaches the session with the given channel and name through an action. -/
def Action.stimulus? (w : World) (i : Nat) (session : String) : Action → Option Stimulus
  | .service (.supervise woken prefer j) =>
    if j = i then some (.supervision ⟨w.now, min woken w.now⟩ prefer) else none
  | .service h =>
    (h.decision? w).bind fun d => if d.session = session then some (.decision d) else none
  | .receive j => if j = i then some .receipt else none
  | .dropReceiver j => if j = i then some .departure else none
  | .openSession _ => none
  | .drawKey => none

def Channel.push (c : Channel) (x : StreamItem) : Channel := { c with sent := c.sent ++ [x] }

theorem Channel.send?_eq (c : Channel) (x : StreamItem) :
    c.send? x = if c.receiving then some (c.push x) else none := rfl

@[simp] theorem Channel.sent_receive (c : Channel) : c.receive.2.sent = c.sent := by
  unfold receive
  split <;> rfl

@[simp] theorem Channel.receiving_receive (c : Channel) : c.receive.2.receiving = c.receiving := by
  unfold receive
  split <;> rfl

theorem Channel.receive_of_next {c : Channel} {y : StreamItem} (next : c.sent[c.taken]? = some y) :
    c.receive = (.item y, { c with taken := c.taken + 1 }) := by
  obtain ⟨inside, same⟩ := List.getElem?_eq_some_iff.mp next
  have waiting : c.queued = y :: c.sent.drop (c.taken + 1) := by
    rw [queued, List.drop_eq_getElem_cons inside, same]
  rw [receive, waiting]

theorem Channel.receive_cases (c : Channel) :
    (∃ y, c.sent[c.taken]? = some y ∧ c.receive = (.item y, { c with taken := c.taken + 1 })) ∨
      c.receive = (.closed, c) ∨ c.receive = (.pending, c) := by
  cases next : c.sent[c.taken]? with
  | some y => exact .inl ⟨y, rfl, receive_of_next next⟩
  | none =>
    right
    have waiting : c.queued = [] := List.drop_eq_nil_of_le (List.getElem?_eq_none_iff.mp next)
    rw [receive, waiting]
    by_cases abandoned : c.senders = 0 <;> simp [abandoned]

theorem Channel.dropReceiver_of_gone {c : Channel} (gone : c.receiving = false) :
    c.dropReceiver = c := by
  obtain ⟨capacity, sent, taken, senders, receiving⟩ := c
  obtain rfl : receiving = false := gone
  rfl

/-- A session with all that became of it. -/
structure Life where
  session : String
  request : PairRequest
  openedAt : Nat
  state : State
  channel : Channel
  phase : Phase

namespace Life

/-- What a channel holds from the beginning: the payload, where the version sends it so. -/
def prelude (version : ProtocolVersion) (session : String) : List StreamItem :=
  match version with
  | .v1 => [.ok (Frame.encode (.info (Exchange.payload session)))]
  | .v2 => []

/-- A session that has just been opened. The service and the supervisor hold a sender each. -/
def opening (config : ServiceConfig) (session : String) (request : PairRequest) (time : Nat) :
    Life :=
  ⟨session, request, time, .awaitingApproval,
    ⟨config.channelCapacity, prelude request.version session, 0, 2, true⟩, .starting⟩

@[simp] theorem session_opening (config : ServiceConfig) (session : String)
    (request : PairRequest) (time : Nat) :
    (opening config session request time).session = session := rfl

def entryAs (l : Life) (state : State) (sender : Option Nat) : Entry :=
  ⟨state, l.request, Exchange.payload l.session, sender, l.openedAt⟩

/-- What the service keeps of the session with the channel `i`, until its supervisor is done. A
sender is kept as long as a decision is awaited. -/
def kept? (i : Nat) (l : Life) : Option Entry :=
  if l.phase = .finished then none
  else some (l.entryAs l.state (if l.state = .awaitingApproval then some i else none))

def lastFrame (l : Life) (d : Decision) : StreamItem :=
  .ok (Frame.encode (.response ⟨l.session, d.outcome l.request.deviceKey⟩))

/-- The answer to whoever decides the session. -/
def verdict (l : Life) : Except PairingError Unit :=
  if l.phase = .finished then .error (.sessionNotFound l.session)
  else
    match l.state with
    | .resolved _ => .error (.sessionAlreadyResolved l.session)
    | .awaitingApproval =>
      if l.channel.receiving then .ok () else .error (.sessionNotFound l.session)
    | _ => .error (.sessionNotFound l.session)

/-- The session after a decision. It is made once, and only while the new device is there. -/
def decide (l : Life) (d : Decision) : Life :=
  if l.phase = .finished then l
  else if l.state = .awaitingApproval then
    if l.channel.receiving then
      { l with
        state := .resolved d.resolution
        channel := (l.channel.push (l.lastFrame d)).dropSender }
    else { l with state := .expired, channel := l.channel.dropSender }
  else l

def stop (l : Life) (cause : Cause) : Life :=
  if l.state = .awaitingApproval then
    { l with
      state := .expired
      channel :=
        if cause = .deadline ∧ l.channel.receiving = true then
          (l.channel.dropSender.push (.error .timeout)).dropSender
        else l.channel.dropSender.dropSender }
  else { l with channel := l.channel.dropSender }

/-- The causes for which the supervisor of the session may stop watching at a moment. -/
def causes (l : Life) (moment : Moment) (deadline : Nat) : List Cause :=
  (if deadline ≤ moment.woken then [.deadline] else []) ++
    (if l.channel.receiving then [] else [.abandoned])

/-- The session after its supervisor went on by a step, if it could. -/
def supervise (ttl : Nat) (l : Life) (moment : Moment) (prefer : Cause) : Life :=
  match l.phase with
  | .starting => { l with phase := .watching (moment.now + ttl) }
  | .watching deadline =>
    match l.causes moment deadline with
    | [] => l
    | cause :: more =>
      { l.stop (if prefer ∈ more then prefer else cause) with phase := .lingering deadline }
  | .lingering deadline => if deadline ≤ moment.woken then { l with phase := .finished } else l
  | .finished => l

def feel (ttl : Nat) (l : Life) : Stimulus → Life
  | .decision d => l.decide d
  | .receipt => { l with channel := l.channel.receive.2 }
  | .departure => { l with channel := l.channel.dropReceiver }
  | .supervision moment prefer => l.supervise ttl moment prefer

/-- All that can become of a session at once. -/
inductive Change (ttl : Nat) (l : Life) : Stimulus → Life → Prop where
  | nothing {x : Stimulus} : Change ttl l x l
  | decided (d : Decision) (kept : l.phase ≠ .finished) (waiting : l.state = .awaitingApproval)
      (receiving : l.channel.receiving = true) :
      Change ttl l (.decision d)
        { l with
          state := .resolved d.resolution
          channel := (l.channel.push (l.lastFrame d)).dropSender }
  /-- It expires because the new device was found to be gone when it was to be decided. -/
  | missed (d : Decision) (kept : l.phase ≠ .finished) (waiting : l.state = .awaitingApproval)
      (gone : l.channel.receiving = false) :
      Change ttl l (.decision d) { l with state := .expired, channel := l.channel.dropSender }
  | received : Change ttl l .receipt { l with channel := l.channel.receive.2 }
  | departed : Change ttl l .departure { l with channel := l.channel.dropReceiver }
  | started (moment : Moment) (prefer : Cause) (starting : l.phase = .starting) :
      Change ttl l (.supervision moment prefer) { l with phase := .watching (moment.now + ttl) }
  /-- It expires because its time is over, and the new device is told. -/
  | timedOut (moment : Moment) (prefer : Cause) {deadline : Nat}
      (watching : l.phase = .watching deadline) (due : deadline ≤ moment.woken)
      (waiting : l.state = .awaitingApproval) (receiving : l.channel.receiving = true) :
      Change ttl l (.supervision moment prefer)
        { l with
          state := .expired
          channel := (l.channel.dropSender.push (.error .timeout)).dropSender
          phase := .lingering deadline }
  /-- It expires because the new device is gone. -/
  | abandoned (moment : Moment) (prefer : Cause) {deadline : Nat}
      (watching : l.phase = .watching deadline) (waiting : l.state = .awaitingApproval)
      (gone : l.channel.receiving = false) :
      Change ttl l (.supervision moment prefer)
        { l with
          state := .expired
          channel := l.channel.dropSender.dropSender
          phase := .lingering deadline }
  | released (moment : Moment) (prefer : Cause) {deadline : Nat}
      (watching : l.phase = .watching deadline) (ended : l.state ≠ .awaitingApproval) :
      Change ttl l (.supervision moment prefer)
        { l with channel := l.channel.dropSender, phase := .lingering deadline }
  | removed (moment : Moment) (prefer : Cause) {deadline : Nat}
      (lingering : l.phase = .lingering deadline) (due : deadline ≤ moment.woken) :
      Change ttl l (.supervision moment prefer) { l with phase := .finished }

private theorem causes_cons {l : Life} {moment : Moment} {deadline : Nat} {cause : Cause}
    {more : List Cause} (h : l.causes moment deadline = cause :: more) (prefer : Cause) :
    (if prefer ∈ more then prefer else cause) = .deadline ∧ deadline ≤ moment.woken ∨
      (if prefer ∈ more then prefer else cause) = .abandoned ∧ l.channel.receiving = false := by
  have member : (if prefer ∈ more then prefer else cause) ∈ l.causes moment deadline := by
    rw [h]
    split
    · exact List.mem_cons_of_mem _ (by assumption)
    · exact List.mem_cons_self
  unfold causes at member
  rw [List.mem_append] at member
  rcases member with due | gone
  · split at due
    · exact .inl ⟨List.mem_singleton.mp due, by assumption⟩
    · cases due
  · split at gone
    · cases gone
    · rename_i receiving
      exact .inr ⟨List.mem_singleton.mp gone, Bool.eq_false_iff.mpr receiving⟩

private theorem supervise_change (ttl : Nat) (l : Life) (moment : Moment) (prefer : Cause) :
    Change ttl l (.supervision moment prefer) (l.supervise ttl moment prefer) := by
  unfold supervise
  split
  · exact .started moment prefer (by assumption)
  · rename_i deadline watching
    split
    · exact .nothing
    · rename_i cause more causes
      by_cases waiting : l.state = .awaitingApproval
      · simp only [stop, if_pos waiting]
        rcases causes_cons causes prefer with ⟨deadline, due⟩ | ⟨abandoned, gone⟩
        · cases receiving : l.channel.receiving with
          | true =>
            simp only [deadline, and_self, if_true]
            exact .timedOut moment prefer watching due waiting receiving
          | false =>
            simp only [Bool.false_eq_true, and_false, if_false]
            exact .abandoned moment prefer watching waiting receiving
        · simp only [gone, Bool.false_eq_true, and_false, if_false]
          exact .abandoned moment prefer watching waiting gone
      · simp only [stop, if_neg waiting]
        exact .released moment prefer watching waiting
  · split
    · exact .removed moment prefer (by assumption) (by assumption)
    · exact .nothing
  · exact .nothing

theorem feel_change (ttl : Nat) (l : Life) (x : Stimulus) : Change ttl l x (l.feel ttl x) := by
  cases x with
  | decision d =>
    simp only [feel, decide]
    split
    · exact .nothing
    · split
      · split
        · exact .decided d (by assumption) (by assumption) (by assumption)
        · exact .missed d (by assumption) (by assumption) (Bool.eq_false_iff.mpr (by assumption))
      · exact .nothing
  | receipt => exact .received
  | departure => exact .departed
  | supervision moment prefer => exact supervise_change ttl l moment prefer

/-- The session with the channel `i` after an action. -/
def after (w : World) (a : Action) (i : Nat) (l : Life) : Life :=
  match a.stimulus? w i l.session with
  | none => l
  | some x => l.feel w.system.config.sessionTtl.toNat x

end Life

namespace Service

def nextName (entropy : Entropy) : String := sessionName (entropy.draw 16).1

/-- What comes of opening a session when the request is accepted. -/
def accept (s : Service) (now : Nat) (entropy : Entropy) (r : PairRequest) : Opening :=
  let session := nextName entropy
  let l := Life.opening s.config session r now
  let left := s.remove session
  { opened :=
      ⟨session, r.version,
        match r.version with
        | .v1 => none
        | .v2 => some (Exchange.payload session)⟩
    channel := left.channels.length
    entropy := (entropy.draw 16).2
    service :=
      { left with
        sessions := left.sessions.put session (l.entryAs .awaitingApproval (some left.channels.length))
        channels := left.channels ++ [l.channel]
        supervisors := left.supervisors ++ [⟨session, left.channels.length, .starting⟩] } }

private theorem channelCapacity_pos (config : ServiceConfig) : 0 < config.channelCapacity :=
  Nat.lt_of_lt_of_le Nat.zero_lt_two (Nat.le_max_right _ _)

theorem openingChannel_eq (s : Service) (version : ProtocolVersion) (session : String) :
    s.openingChannel version (Exchange.payload session) =
      .ok ⟨s.config.channelCapacity, Life.prelude version session, 0, 1, true⟩ := by
  cases version with
  | v1 =>
    have room : (Channel.create s.config.channelCapacity).isFull = false := by
      have positive := channelCapacity_pos s.config
      simp only [Channel.isFull, Channel.create, Channel.queued, List.drop_nil, List.length_nil,
        decide_eq_false_iff_not]
      omega
    simp only [openingChannel, Channel.sendNow, room]
    rfl
  | v2 => rfl

theorem openSession_eq (s : Service) (now : Nat) (entropy : Entropy) (r : PairRequest) :
    s.openSession now entropy r = (s.checkOpening r).map fun _ => s.accept now entropy r := by
  unfold openSession
  cases s.checkOpening r with
  | error cause => rfl
  | ok _ =>
    simp only [bind, Except.bind, openingChannel_eq, State.transition, State.mayFollow, if_true,
      Except.map]
    rfl

end Service

def Action.newcomer? (w : World) : Action → Option Life
  | .openSession r =>
    match w.system.checkOpening r with
    | .error _ => none
    | .ok _ => some (Life.opening w.system.config (Service.nextName w.entropy) r w.now)
  | _ => none

def Action.evolve (w : World) (a : Action) (ls : List Life) : List Life :=
  (ls.mapIdx fun i l => l.after w a i) ++ (a.newcomer? w).toList

/-- All sessions after some actions, those before them being given. -/
def livesAfter (w : World) (ls : List Life) : List Action → List Life
  | [] => ls
  | a :: as => livesAfter (a.perform w).2 (a.evolve w ls) as

/-- All sessions that were ever opened in a run, in the order of their channels. -/
def lives (b : Beginning) (as : List Action) : List Life := livesAfter b.world [] as

private theorem livesAfter_append (w : World) (ls : List Life) (as bs : List Action) :
    livesAfter w ls (as ++ bs) = livesAfter (run w as) (livesAfter w ls as) bs := by
  induction as generalizing w ls with
  | nil => rfl
  | cons a as ih => exact ih (a.perform w).2 (a.evolve w ls)

theorem lives_snoc (b : Beginning) (as : List Action) (a : Action) :
    lives b (as ++ [a]) = a.evolve (run b.world as) (lives b as) :=
  livesAfter_append b.world [] as [a]

end DevicePairing.Session
