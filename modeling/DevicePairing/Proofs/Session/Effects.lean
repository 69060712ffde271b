import DevicePairing.Proofs.Session.Faithful

set_option autoImplicit false
set_option relaxedAutoImplicit false

namespace DevicePairing.Session

open DevicePairing
open DevicePairing.Clock

namespace Service

/-- The service after a session came to an end. Its sender is given up separately. -/
def ending (s : Service) (session : String) (e : Entry) (state : State) : Service :=
  s.putEntry session { e with state := state, sender := none }

/-- The service after the last frame of a session was sent to its new device. -/
def tell (s : Service) (i : Nat) (x : StreamItem) : Service :=
  (s.modifyChannel i fun c => c.push x).releaseSender (some i)

/-- The channel to a new device that is still there. -/
def listener? (s : Service) (e : Entry) : Option Nat := e.sender.filter s.isReceiving

theorem canSend_eq (s : Service) (e : Entry) : s.canSend e = (s.listener? e).isSome := by
  unfold canSend listener?
  cases e.sender with
  | none => rfl
  | some i =>
    simp only [Option.filter]
    cases s.isReceiving i <;> rfl

theorem listener?_eq_some {s : Service} {e : Entry} {i : Nat} (h : s.listener? e = some i) :
    e.sender = some i ∧ ∃ c, s.channels[i]? = some c ∧ c.receiving = true := by
  obtain ⟨sender, receiving⟩ := Option.filter_eq_some_iff.mp h
  refine ⟨sender, ?_⟩
  unfold isReceiving at receiving
  cases channel : s.channels[i]? with
  | none => rw [channel] at receiving; cases receiving
  | some c => rw [channel] at receiving; exact ⟨c, rfl, receiving⟩

theorem modifyChannel_congr {s : Service} {i : Nat} {c : Channel} (at_i : s.channels[i]? = some c)
    {f g : Channel → Channel} (same : f c = g c) : s.modifyChannel i f = s.modifyChannel i g := by
  unfold modifyChannel
  congr 1
  apply List.ext_getElem?
  intro j
  rw [List.getElem?_modify, List.getElem?_modify]
  by_cases here : i = j
  · subst here
    rw [at_i]
    simp [same]
  · simp [here]

private theorem deliver_of_receiving {s : Service} {i : Nat} {c : Channel}
    (channel : s.channels[i]? = some c) (receiving : c.receiving = true) (response : PairResponse) :
    s.deliver (some i) response = (.ok (), s.tell i (.ok (Frame.encode (.response response)))) := by
  have same : (s.modifyChannel i fun _ => c.push (.ok (Frame.encode (.response response)))) =
      s.modifyChannel i fun c => c.push (.ok (Frame.encode (.response response))) :=
    modifyChannel_congr channel rfl
  simp only [deliver, channel, Option.bind_some, Channel.send?_eq, if_pos receiving, same]
  rfl

/-- A decision is made when the session waits and its new device is there; a session without its new
device expires instead. -/
theorem decide_eq (s : Service) (session : String) (r : Resolution) (outcome : Key → Outcome) :
    s.decide session r outcome =
      match s.sessions.get? session with
      | none => (.error (.sessionNotFound session), s)
      | some e =>
        match e.state, s.listener? e with
        | .resolved _, _ => (.error (.sessionAlreadyResolved session), s)
        | .expired, _ => (.error (.sessionNotFound session), s)
        | .awaitingApproval, some i =>
          (.ok (), (s.ending session e (.resolved r)).tell i
            (.ok (Frame.encode (.response ⟨session, outcome e.request.deviceKey⟩))))
        | .created, some _ =>
          (.error (.invalidState ("invalid pairing transition " ++ State.created.name ++ " -> " ++
            (State.resolved r).name)), s)
        | _, none =>
          (.error (.sessionNotFound session), (s.ending session e .expired).releaseSender e.sender) := by
  unfold decide resolve
  cases s.sessions.get? session with
  | none => rfl
  | some e =>
    obtain ⟨state, request, payload, sender, openedAt⟩ := e
    simp only [canSend_eq]
    cases state with
    | resolved r' => rfl
    | expired => rfl
    | created =>
      cases s.listener? ⟨.created, request, payload, sender, openedAt⟩ with
      | none => rfl
      | some i => rfl
    | awaitingApproval =>
      cases listener : s.listener? ⟨.awaitingApproval, request, payload, sender, openedAt⟩ with
      | none => rfl
      | some i =>
        obtain ⟨rfl, c, channel, receiving⟩ := listener?_eq_some listener
        have delivered := deliver_of_receiving
          (s := s.ending session ⟨.awaitingApproval, request, payload, some i, openedAt⟩ (.resolved r))
          channel receiving ⟨session, outcome request.deviceKey⟩
        exact delivered

/-- When a supervisor stops watching, it gives up its sender; a session that has not come to an end
expires, and the new device is told if it was for the time. -/
theorem stopWatching_eq (s : Service) (v : Supervisor) (cause : Cause) :
    s.stopWatching v cause =
      match s.sessions.get? v.session with
      | none => s.releaseSender (some v.channel)
      | some e =>
        if State.expired.mayFollow e.state then
          match e.sender with
          | none => (s.releaseSender (some v.channel)).ending v.session e .expired
          | some i =>
            (if cause = .deadline then
              ((s.releaseSender (some v.channel)).ending v.session e .expired).sendTimeout i
            else (s.releaseSender (some v.channel)).ending v.session e .expired).releaseSender (some i)
        else s.releaseSender (some v.channel) := by
  unfold stopWatching expire
  have same : (s.releaseSender (some v.channel)).sessions = s.sessions := rfl
  simp only [same]
  cases s.sessions.get? v.session with
  | none => rfl
  | some e =>
    obtain ⟨state, request, payload, sender, openedAt⟩ := e
    cases state <;> cases sender <;> cases cause <;> rfl

end Service

/-- What a service sends over its channels: frames, and the end of a session's time. -/
def Proper (x : StreamItem) : Prop := x = .error .timeout ∨ ∃ f, x = .ok (Frame.encode f)

/-- What can become of a channel without its receiver doing anything. Items of a certain kind are
sent, and only while `held` holds. -/
structure Channel.Evolves (held : Prop) (kind : StreamItem → Prop) (c c' : Channel) : Prop where
  sent : ∃ more, c'.sent = c.sent ++ more ∧ (∀ x ∈ more, kind x) ∧ (more ≠ [] → held)
  taken : c'.taken = c.taken
  senders : c'.senders ≤ c.senders
  receiving : c'.receiving = c.receiving

namespace Channel.Evolves

variable {held : Prop} {kind : StreamItem → Prop} {c c' c'' : Channel}

private theorem refl (c : Channel) : Evolves held kind c c :=
  ⟨⟨[], (List.append_nil _).symm, by simp, fun h => absurd rfl h⟩, rfl, Nat.le_refl _, rfl⟩

private theorem trans (h : Evolves held kind c c') (h' : Evolves held kind c' c'') :
    Evolves held kind c c'' := by
  obtain ⟨more, sent, kinds, may⟩ := h.sent
  obtain ⟨more', sent', kinds', may'⟩ := h'.sent
  refine ⟨⟨more ++ more', ?_, ?_, ?_⟩, h'.taken.trans h.taken, Nat.le_trans h'.senders h.senders,
    h'.receiving.trans h.receiving⟩
  · rw [sent', sent, List.append_assoc]
  · intro x member
    rcases List.mem_append.mp member with first | second
    · exact kinds x first
    · exact kinds' x second
  · intro some
    by_cases none : more = []
    · exact may' fun none' => some (by rw [none, none', List.append_nil])
    · exact may none

private theorem dropSender (c : Channel) : Evolves held kind c c.dropSender :=
  ⟨⟨[], (List.append_nil _).symm, by simp, fun h => absurd rfl h⟩, rfl, Nat.sub_le _ _, rfl⟩

private theorem push (h : held) {x : StreamItem} (isKind : kind x) (c : Channel) :
    Evolves held kind c (c.push x) :=
  ⟨⟨[x], rfl, by simpa using isKind, fun _ => h⟩, rfl, Nat.le_refl _, rfl⟩

end Channel.Evolves

namespace Service

/-- The service changed without any receiver doing anything. Items of a certain kind were sent, and
only over channels of which `held` holds. -/
structure Evolves (held : Nat → Prop) (kind : StreamItem → Prop) (s s' : Service) : Prop where
  length : s'.channels.length = s.channels.length
  channel : ∀ (i : Nat) (c : Channel), s.channels[i]? = some c →
    ∃ c', s'.channels[i]? = some c' ∧ Channel.Evolves (held i) kind c c'

section

variable {held : Nat → Prop} {kind : StreamItem → Prop} {s s' s'' : Service}

private theorem Evolves.of_channels (same : s'.channels = s.channels) : Evolves held kind s s' where
  length := congrArg List.length same
  channel := fun i c at_i => ⟨c, by rw [same, at_i], .refl c⟩

private theorem Evolves.refl (s : Service) : Evolves held kind s s := .of_channels rfl

private theorem Evolves.trans (h : Evolves held kind s s') (h' : Evolves held kind s' s'') :
    Evolves held kind s s'' := by
  refine ⟨h'.length.trans h.length, fun i c at_i => ?_⟩
  obtain ⟨c', at_i', evolves⟩ := h.channel i c at_i
  obtain ⟨c'', at_i'', evolves'⟩ := h'.channel i c' at_i'
  exact ⟨c'', at_i'', evolves.trans evolves'⟩

private theorem Evolves.modifyChannel (s : Service) (i : Nat) {f : Channel → Channel}
    (h : ∀ c, Channel.Evolves (held i) kind c (f c)) :
    Evolves held kind s (s.modifyChannel i f) := by
  refine ⟨List.length_modify .., fun j c at_j => ?_⟩
  by_cases here : i = j
  · subst here
    refine ⟨f c, ?_, h c⟩
    rw [Service.modifyChannel, List.getElem?_modify_eq, at_j]
    rfl
  · refine ⟨c, ?_, .refl c⟩
    rw [Service.modifyChannel, List.getElem?_modify_ne, at_j]
    exact here

private theorem Evolves.releaseSender (s : Service) (sender : Option Nat) :
    Evolves held kind s (s.releaseSender sender) := by
  cases sender with
  | none => exact .refl s
  | some i => exact .modifyChannel s i Channel.Evolves.dropSender

theorem Evolves.remove (s : Service) (session : String) :
    Evolves held kind s (s.remove session) := by
  unfold Service.remove
  cases s.sessions.get? session with
  | none => exact .of_channels rfl
  | some e =>
    have erased : Evolves held kind s { s with sessions := s.sessions.erase session } :=
      .of_channels rfl
    exact erased.trans (.releaseSender _ e.sender)

private theorem Evolves.tell (s : Service) {i : Nat} (h : held i) {x : StreamItem}
    (isKind : kind x) : Evolves held kind s (s.tell i x) :=
  Evolves.trans (.modifyChannel s i (Channel.Evolves.push h isKind)) (.releaseSender _ (some i))

private theorem Evolves.sendTimeout (s : Service) {i : Nat} (h : held i)
    (isKind : kind (.error .timeout)) : Evolves held kind s (s.sendTimeout i) := by
  refine .modifyChannel s i fun c => ?_
  rw [Channel.send?_eq]
  split
  · exact .push h isKind c
  · exact .refl c

end

/-- Some session holds a sender of the channel `i`. -/
def Holds (s : Service) (i : Nat) : Prop :=
  ∃ session e, s.sessions.get? session = some e ∧ e.sender = some i

section

variable {kind : StreamItem → Prop} (s : Service)

private theorem Evolves.decide (session : String) (r : Resolution) (outcome : Key → Outcome)
    (last : ∀ e, s.sessions.get? session = some e →
      kind (.ok (Frame.encode (.response ⟨session, outcome e.request.deviceKey⟩)))) :
    Evolves s.Holds kind s (s.decide session r outcome).2 := by
  rw [decide_eq]
  cases entry : s.sessions.get? session with
  | none => exact .refl s
  | some e =>
    simp only
    split
    · exact .refl s
    · exact .refl s
    · rename_i i _ listener
      have held : s.Holds i := ⟨session, e, entry, (listener?_eq_some listener).1⟩
      have ended : Evolves s.Holds kind s (s.ending session e (.resolved r)) := .of_channels rfl
      exact ended.trans (.tell _ held (last e entry))
    · exact .refl s
    · have ended : Evolves s.Holds kind s (s.ending session e .expired) := .of_channels rfl
      exact ended.trans (.releaseSender _ e.sender)

private theorem Evolves.stopWatching (v : Supervisor) (cause : Cause)
    (last : kind (.error .timeout)) : Evolves s.Holds kind s (s.stopWatching v cause) := by
  have released : Evolves s.Holds kind s (s.releaseSender (some v.channel)) := .releaseSender s _
  rw [stopWatching_eq]
  cases entry : s.sessions.get? v.session with
  | none => exact released
  | some e =>
    simp only
    split
    · have ended : Evolves s.Holds kind s
          ((s.releaseSender (some v.channel)).ending v.session e .expired) :=
        released.trans (.of_channels rfl)
      cases sender : e.sender with
      | none => exact ended
      | some i =>
        have held : s.Holds i := ⟨v.session, e, entry, sender⟩
        refine Evolves.trans ?_ (.releaseSender _ (some i))
        split
        · exact ended.trans (.sendTimeout _ held last)
        · exact ended
    · exact released

private theorem Evolves.superviseStep (moment : Moment) (prefer : Cause) (i : Nat)
    (last : kind (.error .timeout)) :
    Evolves s.Holds kind s ((s.superviseStep moment prefer i).getD s) := by
  unfold Service.superviseStep
  split
  · exact .refl s
  · split
    · exact .of_channels rfl
    · split
      · exact .refl s
      · exact Evolves.trans (.stopWatching s _ _ last) (.of_channels rfl)
    · split
      · exact Evolves.trans (.remove s _) (.of_channels rfl)
      · exact .refl s
    · exact .refl s

end

end Service

/-- All that an action can do to the service of a world. -/
inductive Effect (w : World) : Action → Service → Prop where
  | calm {a : Action} {s : Service} (channels : s.channels = w.system.channels)
      (supervisors : s.supervisors = w.system.supervisors)
      (sessions : s.sessions = w.system.sessions) : Effect w a s
  | decided (h : Happening) (d : Decision) (asked : h.decision? w = some d) :
      Effect w (.service h) (w.system.decide d.session d.resolution d.outcome).2
  | supervised (moment : Moment) (woken : Nat) (prefer : Cause) (i : Nat) :
      Effect w (.service (.supervise woken prefer i))
        ((w.system.superviseStep moment prefer i).getD w.system)
  | opened (r : PairRequest) : Effect w (.openSession r) (w.system.accept w.now w.entropy r).service
  | received (i : Nat) : Effect w (.receive i) (w.system.modifyChannel i fun c => c.receive.2)
  | departed (i : Nat) : Effect w (.dropReceiver i) (w.system.modifyChannel i Channel.dropReceiver)

theorem Action.effect (w : World) (a : Action) : Effect w a (a.perform w).2.system := by
  cases a with
  | service h =>
    by_cases calm : ∀ woken prefer i, h ≠ .supervise woken prefer i
    · cases asked : h.decision? w with
      | none =>
        obtain ⟨channels, supervisors, sessions⟩ := Happening.perform_of_no_decision asked calm
        exact .calm channels supervisors sessions
      | some d =>
        have decided := congrArg (fun x => x.2.system) (Happening.perform_of_decision asked)
        simp only [Action.perform, decided]
        exact .decided h d asked
    · simp only [not_forall, not_not] at calm
      obtain ⟨woken, prefer, i, rfl⟩ := calm
      exact .supervised ⟨w.now, min woken w.now⟩ woken prefer i
  | openSession r =>
    simp only [Action.perform, Transport.Direct.pairDevice, Service.openSession_eq]
    cases w.system.checkOpening r with
    | error cause => exact .calm rfl rfl rfl
    | ok _ => exact .opened r
  | receive i =>
    simp only [Action.perform, Environment.receive]
    cases Tasks.channel? w.system i with
    | none => exact .calm rfl rfl rfl
    | some c => exact .received i
  | dropReceiver i => exact .departed i
  | drawKey => exact .calm rfl rfl rfl

/-- What an action can send over the channel of a session: the end of its time, or the last frame
if it decides it. -/
def Action.Sends (w : World) (a : Action) (x : StreamItem) : Prop :=
  x = .error .timeout ∨
    ∃ h d e, a = .service h ∧ h.decision? w = some d ∧ w.system.sessions.get? d.session = some e ∧
      x = .ok (Frame.encode (.response ⟨d.session, d.outcome e.request.deviceKey⟩))

theorem Action.Sends.proper {w : World} {a : Action} {x : StreamItem} (h : a.Sends w x) :
    Proper x := by
  rcases h with timeout | ⟨-, d, e, -, -, -, frame⟩
  · exact .inl timeout
  · exact .inr ⟨_, frame⟩

theorem Service.Evolves.decision {w : World} {h : Happening} {d : Decision}
    (asked : h.decision? w = some d) :
    Evolves w.system.Holds (Action.Sends w (.service h)) w.system
      (w.system.decide d.session d.resolution d.outcome).2 :=
  .decide _ d.session d.resolution d.outcome fun e entry => .inr ⟨h, d, e, rfl, asked, entry, rfl⟩

/-- A supervisor sends the end of the time of its session, if anything. -/
theorem Service.Evolves.supervision {w : World} (a : Action) (moment : Moment) (prefer : Cause)
    (i : Nat) :
    Evolves w.system.Holds (a.Sends w) w.system ((w.system.superviseStep moment prefer i).getD w.system) :=
  .superviseStep _ moment prefer i (.inl rfl)

def Action.isAt (i : Nat) : Action → Bool
  | .receive j => i == j
  | .dropReceiver j => i == j
  | _ => false

theorem Service.getElem?_modifyChannel_ne (s : Service) {i j : Nat} (other : i ≠ j)
    (f : Channel → Channel) : (s.modifyChannel i f).channels[j]? = s.channels[j]? := by
  rw [modifyChannel, List.getElem?_modify_ne]
  exact other

/-- A channel evolves with every action that is none of its receiver, and nothing is sent over it
unless a session holds a sender. -/
theorem Action.evolves {w : World} {a : Action} {i : Nat} (other : a.isAt i = false) {c : Channel}
    (at_i : w.system.channels[i]? = some c) :
    ∃ c', (a.perform w).2.system.channels[i]? = some c' ∧
      c.Evolves (w.system.Holds i) (a.Sends w) c' := by
  have effect := a.effect w
  generalize (a.perform w).2.system = s' at effect
  cases effect with
  | calm channels => exact (Service.Evolves.of_channels channels).channel i c at_i
  | decided h d asked =>
    exact (Service.Evolves.decision asked).channel i c at_i
  | supervised moment woken prefer j =>
    exact (Service.Evolves.supervision _ moment prefer j).channel i c at_i
  | opened r =>
    obtain ⟨c', at_i', evolves⟩ :=
      (Service.Evolves.remove w.system (Service.nextName w.entropy)).channel i c at_i
    refine ⟨c', ?_, evolves⟩
    obtain ⟨inside, -⟩ := List.getElem?_eq_some_iff.mp at_i'
    rw [Service.accept, List.getElem?_append_left inside, at_i']
  | received j =>
    have elsewhere : j ≠ i := fun same => by simp [isAt, same] at other
    exact ⟨c, by rw [Service.getElem?_modifyChannel_ne _ elsewhere, at_i], .refl c⟩
  | departed j =>
    have elsewhere : j ≠ i := fun same => by simp [isAt, same] at other
    exact ⟨c, by rw [Service.getElem?_modifyChannel_ne _ elsewhere, at_i], .refl c⟩

theorem Action.channel_cases {w : World} (a : Action) {i : Nat} {c : Channel}
    (at_i : w.system.channels[i]? = some c) :
    ∃ c', (a.perform w).2.system.channels[i]? = some c' ∧
      (c.Evolves (w.system.Holds i) (a.Sends w) c' ∨ a = .receive i ∧ c' = c.receive.2 ∨
        a = .dropReceiver i ∧ c' = c.dropReceiver) := by
  have modified : ∀ f : Channel → Channel,
      (w.system.modifyChannel i f).channels[i]? = some (f c) := by
    intro f
    rw [Service.modifyChannel, List.getElem?_modify_eq, at_i]
    rfl
  by_cases other : a.isAt i = false
  · obtain ⟨c', at_i', evolves⟩ := a.evolves other at_i
    exact ⟨c', at_i', .inl evolves⟩
  · cases a with
    | receive j =>
      obtain rfl : i = j := by simpa [isAt] using other
      have here : Tasks.channel? w.system i = some c := at_i
      refine ⟨c.receive.2, ?_, .inr (.inl ⟨rfl, rfl⟩)⟩
      simp only [Action.perform, Environment.receive, here]
      exact modified _
    | dropReceiver j =>
      obtain rfl : i = j := by simpa [isAt] using other
      exact ⟨c.dropReceiver, modified _, .inr (.inr ⟨rfl, rfl⟩)⟩
    | _ => exact absurd rfl other

theorem sent_run {w : World} {as : List Action} {i : Nat} (other : ∀ a ∈ as, a.isAt i = false)
    {c : Channel} (at_i : w.system.channels[i]? = some c) :
    ∃ c', (run w as).system.channels[i]? = some c' ∧ c.sent <+: c'.sent := by
  induction as generalizing w c with
  | nil => exact ⟨c, at_i, List.prefix_refl c.sent⟩
  | cons a as ih =>
    obtain ⟨c', at_i', evolves⟩ := Action.evolves (other a List.mem_cons_self) at_i
    obtain ⟨more, sent, -, -⟩ := evolves.sent
    obtain ⟨c'', at_i'', first⟩ := ih (fun b member => other b (List.mem_cons_of_mem a member)) at_i'
    refine ⟨c'', at_i'', List.IsPrefix.trans ?_ first⟩
    rw [sent]
    exact List.prefix_append c.sent more

end DevicePairing.Session
