import DevicePairing.Proofs.Client.Grammar

set_option autoImplicit false
set_option relaxedAutoImplicit false

/-!
How long a new device waits. The opening of a session is waited for until one time and the response
until another, which is fixed when the session is opened: the first thing that comes over the
channel and is no text decides the session, if it comes before that time. The clock is looked at
only when the channel is empty, so what waits in it counts also after that time.
-/

namespace DevicePairing.Client

open DevicePairing
open DevicePairing.Clock
open DevicePairing.Ed25519 (SecretKey)
open DevicePairing.Session (Channel StreamItem)
open DevicePairing.Transport

/-- The first of what comes over a channel that is no text, and when: an item, or the end. -/
def decisive? (version : ProtocolVersion) (coming : List (Nat × Option StreamItem)) :
    Option (Nat × Option StreamItem) :=
  coming.find? fun a => (a.2.bind (textOf? version)).isNone

/-- What a device gets that waits for its response until a time, and when it gets it. -/
inductive Decided (version : ProtocolVersion) (session : String) (limit : Nat)
    (coming : List (Nat × Option StreamItem)) : Except PairingError PairResponse → Nat → Prop where
  | inTime {time : Nat} {item : Option StreamItem} {result : Except PairingError PairResponse}
      (first : decisive? version coming = some (time, item)) (early : time < limit)
      (ending : Ending version session item result) :
      Decided version session limit coming result time
  | late (tooLate : ∀ a, decisive? version coming = some a → limit < a.1) :
      Decided version session limit coming (.error .timeout) limit

private theorem decisive?_drop (version : ProtocolVersion) (now : Nat) (items : List StreamItem)
    (coming : List (Nat × Option StreamItem)) :
    decisive? version
        ((items.drop (leadingTexts version items).length).map (fun x => (now, some x)) ++ coming) =
      decisive? version (items.map (fun x => (now, some x)) ++ coming) := by
  induction items with
  | nil => rfl
  | cons x xs ih =>
    cases text : textOf? version x with
    | none => rw [leadingTexts_of_no_text text]; rfl
    | some t =>
      rw [leadingTexts_of_text text, List.length_cons, List.drop_succ_cons, ih]
      simp only [decisive?, List.map_cons, List.cons_append, List.find?_cons, Option.bind_some, text,
        Option.isNone_some]

private theorem decisive?_of_no_text {version : ProtocolVersion} {a : Nat × Option StreamItem}
    (none : a.2.bind (textOf? version) = none) (coming : List (Nat × Option StreamItem)) :
    decisive? version (a :: coming) = some a := by
  simp only [decisive?, List.find?_cons, none, Option.isNone_none]

namespace EventStream

variable {e : EventStream} {hold : Bool} {i : Nat} {w : Environment Playback} {phase : FeedPhase}
  {c : Channel}

private structure Waits (version : ProtocolVersion) (session : String) (limit i : Nat)
    (first : Option (Nat × Option StreamItem)) (s : EventStream)
    (coming : List (Nat × Option StreamItem)) : Prop where
  isOpen : s.channel = some i
  version_eq : s.version = version
  session_eq : s.session = session
  deadline_eq : s.deadline = limit
  decisive : decisive? version coming = first
  apart : ∀ a ∈ coming, a.1 ≠ limit

/-- What an attempt to get the response comes to: what decides the session, or nothing, and then all
that was there is taken. -/
private def Comes (version : ProtocolVersion) (session : String) (limit i : Nat) (hold : Bool)
    (now : Nat) (phase : FeedPhase) (as : List (Nat × Option StreamItem))
    (attempt : Option (Except PairingError PairResponse) × EventStream × Environment Playback) :
    Prop :=
  (∃ r e' w', attempt = (some r, e', w') ∧ Decided version session limit as r w'.now ∧
      e'.isClosed = true) ∨
    now < limit ∧ (phase.isFinished = true → hold = true) ∧
      ∃ e' w' c', attempt = (none, e', w') ∧ w'.now = now ∧ Plays hold i w' phase c' ∧
        c'.queued = [] ∧
        Waits version session limit i (decisive? version as) e' (timeline hold now phase c')

section

variable {version : ProtocolVersion} {session : String} {limit : Nat}
  {as : List (Nat × Option StreamItem)} (early : w.now ≤ limit)
  (waits : Waits version session limit i (decisive? version as) e (timeline hold w.now phase c))

include waits

private theorem Waits.pass_texts {c' : Channel}
    (queue : c'.queued = c.queued.drop (leadingTexts e.version c.queued).length) :
    Waits version session limit i (decisive? version as)
      (e.having (leadingTexts e.version c.queued) (some i)) (timeline hold w.now phase c') := by
  obtain ⟨isOpen, rfl, rfl, rfl, decisive, apart⟩ := waits
  refine ⟨rfl, rfl, rfl, rfl, ?_, fun a member => apart a ?_⟩
  · rw [← decisive, timeline, timeline, queue]
    exact decisive?_drop e.version w.now c.queued _
  · rw [timeline, List.mem_append] at member ⊢
    refine member.imp_left fun waiting => ?_
    rw [queue] at waiting
    exact List.map_subset _ (List.drop_subset _ _) waiting

include early

private theorem comes_of_item (plays : Plays hold i w phase c) {x : StreamItem}
    {xs : List StreamItem} (rest : c.queued = x :: xs) (silent : textOf? e.version x = none)
    (texts : Nat) :
    Comes version session limit i hold w.now phase as (pollResponse texts e w) := by
  obtain ⟨isOpen, rfl, rfl, rfl, decisive, apart⟩ := waits
  have none : (some x : Option StreamItem).bind (textOf? e.version) = none := silent
  obtain ⟨last, ending⟩ := e.ending_of_no_text none
  obtain ⟨w', found, now⟩ := pollResponse_of_ending isOpen plays rest ending texts
  have front : timeline hold w.now phase c = (w.now, some x) ::
      (xs.map (fun x => (w.now, some x)) ++ arrivals hold (phase.resume w.now) phase.script) := by
    rw [timeline, rest]
    rfl
  rw [front] at decisive apart
  rw [decisive?_of_no_text (a := (w.now, some x)) none] at decisive
  refine .inl ⟨last, _, w', found, ?_, rfl⟩
  rw [now]
  exact .inTime decisive.symm (Nat.lt_of_le_of_ne early (apart _ List.mem_cons_self)) ending

private theorem comes_of_end (rest : c.queued = []) (closed : (phase.isFinished && !hold) = true)
    {w' : Environment Playback} (now : w'.now = w.now) :
    Comes version session limit i hold w.now phase as
      (some (.error (.transport "stream ended before the terminal frame")), e.having [] none, w') := by
  obtain ⟨-, -, -, -, decisive, apart⟩ := waits
  have front : timeline hold w.now phase c = [(w.now, none)] := by
    cases phase with
    | finished =>
      cases hold with
      | false => exact timeline_of_empty rest
      | true => cases closed
    | _ => cases closed
  rw [front] at decisive apart
  refine .inl ⟨_, _, _, rfl, ?_, rfl⟩
  rw [now]
  exact .inTime decisive.symm (Nat.lt_of_le_of_ne early (apart _ List.mem_cons_self)) .closed

private theorem comes_of_overdue (overdue : limit ≤ w.now) {w' : Environment Playback}
    (now : w'.now = w.now) :
    Comes version session limit i hold w.now phase as
      (some (.error .timeout), e.having [] none, w') := by
  obtain ⟨-, -, -, -, decisive, apart⟩ := waits
  refine .inl ⟨_, _, _, rfl, ?_, rfl⟩
  rw [now, Nat.le_antisymm early overdue]
  refine .late fun a first => ?_
  rw [← decisive] at first
  have member := List.mem_of_find?_eq_some first
  have later := le_of_mem_timeline member
  have other := apart a member
  omega

private theorem comes_of_nothing (plays : Plays hold i w phase c) (rest : c.queued = [])
    (texts : Nat) :
    Comes version session limit i hold w.now phase as (pollResponse texts e w) := by
  obtain ⟨w', now, plays', found⟩ := pollResponse_of_nothing waits.isOpen plays rest texts
  rw [found]
  cases closed : phase.isFinished && !hold with
  | true => exact comes_of_end early waits rest closed now
  | false =>
    rw [if_neg Bool.false_ne_true, waits.deadline_eq]
    by_cases overdue : limit ≤ w.now
    · rw [if_pos overdue]
      exact comes_of_overdue early waits overdue now
    · rw [if_neg overdue]
      refine .inr ⟨Nat.lt_of_not_le overdue, fun finished => ?_, e, w', c, rfl, now, plays', rest,
        waits⟩
      rw [finished, Bool.true_and, Bool.not_eq_false'] at closed
      exact closed

private theorem pollResponse_of_plays (plays : Plays hold i w phase c) :
    Comes version session limit i hold w.now phase as (pollResponse (e.queued w) e w) := by
  obtain ⟨more, enough⟩ := Nat.exists_eq_add_of_le (length_leadingTexts_le e.version c.queued)
  obtain ⟨w₁, c₁, passed, now₁, plays₁, queue₁⟩ :=
    pollResponse_of_texts waits.isOpen plays more
  have waits₁ := waits.pass_texts queue₁
  rw [queued_of_channel waits.isOpen plays.channel, enough, passed]
  rw [← now₁] at early waits₁ ⊢
  cases rest : c₁.queued with
  | cons x xs =>
    exact comes_of_item early waits₁ plays₁ rest (textOf?_of_drop (queue₁.symm.trans rest)) more
  | nil => exact comes_of_nothing early waits₁ plays₁ rest more

end

private theorem response_of_plays (isOpen : e.channel = some i) (plays : Plays hold i w phase c)
    (early : w.now ≤ e.deadline) (apart : ∀ a ∈ timeline hold w.now phase c, a.1 ≠ e.deadline) :
    ∃ r e' w', e.response w = (r, e', w') ∧
      Decided e.version e.session e.deadline (timeline hold w.now phase c) r w'.now ∧
      e'.isClosed = true := by
  have waited := await_plays (fun e w => pollResponse (e.queued w) e w)
    (fun s _ => Waits e.version e.session e.deadline i
      (decisive? e.version (timeline hold w.now phase c)) s)
    (fun r s w' => Decided e.version e.session e.deadline (timeline hold w.now phase c) r w'.now ∧
      s.isClosed = true)
    (fun s w₁ phase₁ c₁ plays₁ early₁ waits => pollResponse_of_plays early₁ waits plays₁) plays early
    ⟨isOpen, rfl, rfl, rfl, rfl, apart⟩
  obtain ⟨r, e', w', found, decided, closed⟩ := waited
  exact ⟨r, e', w', by rw [response, found], decided, closed⟩

private theorem response_of_waiting (isOpen : e.channel = some i) (plays : Plays hold i w phase c)
    {x : StreamItem} (waiting : c.queued[(leadingTexts e.version c.queued).length]? = some x) :
    ∃ r e' w', e.response w = (r, e', w') ∧ Ending e.version e.session (some x) r ∧
      w'.now = w.now ∧ e'.isClosed = true := by
  obtain ⟨more, enough⟩ := Nat.exists_eq_add_of_le (length_leadingTexts_le e.version c.queued)
  obtain ⟨w₁, c₁, passed, now₁, plays₁, queue₁⟩ := pollResponse_of_texts isOpen plays more
  have rest : c₁.queued = x :: c.queued.drop ((leadingTexts e.version c.queued).length + 1) := by
    obtain ⟨inside, same⟩ := List.getElem?_eq_some_iff.mp waiting
    rw [queue₁, List.drop_eq_getElem_cons inside, same]
  have silent : (some x : Option StreamItem).bind (textOf? e.version) = none :=
    textOf?_of_drop (queue₁.symm.trans rest)
  obtain ⟨last, ending⟩ := e.ending_of_no_text silent
  obtain ⟨w₂, found, now₂⟩ :=
    pollResponse_of_ending (e := e.having (leadingTexts e.version c.queued) (some i)) rfl plays₁
      rest ending more
  refine ⟨last, (e.having (leadingTexts e.version c.queued) (some i)).having [] none, w₂, ?_, ending,
    now₂.trans now₁, rfl⟩
  rw [response, Environment.await, Environment.awaitFor]
  simp only [queued_of_channel isOpen plays.channel, enough, passed, found]

section

variable {σ : Type} [Tasks σ] {w : Environment σ}

private theorem poll_of_queued (isOpen : e.channel = some i)
    (channel : Tasks.channel? w.system i = some c)
    {x : StreamItem} (waiting : c.queued.head? = some x) :
    (e.poll w).1 = .event (e.foretold (some x)) := by
  obtain ⟨more, queue⟩ := List.head?_eq_some_iff.mp waiting
  have found : (w.receive i).1 = .item x := by
    simp only [Environment.receive, channel, Channel.receive, queue]
  rw [poll_of_open isOpen, found]
  rfl

private theorem next_of_queued (isOpen : e.channel = some i)
    (channel : Tasks.channel? w.system i = some c)
    {x : StreamItem} (waiting : c.queued.head? = some x) : e.next w = e.poll w := by
  have shown := poll_of_queued isOpen channel waiting
  simp only [next, Environment.await, Environment.awaitFor]
  generalize e.poll w = seen at shown
  obtain ⟨sight, e', w'⟩ := seen
  obtain rfl : sight = .event (e.foretold (some x)) := shown
  rfl

private theorem interpret_eq_timeout_iff (x : StreamItem) :
    e.interpret x = .error .timeout ↔ x = .error .timeout := by
  constructor
  · intro overdue
    cases x with
    | error cause =>
      obtain rfl := Except.error.inj overdue
      rfl
    | ok octets =>
      rw [interpret] at overdue
      cases decoded : Frame.decode e.version octets with
      | error f =>
        rw [decoded] at overdue
        cases f <;> cases Except.error.inj overdue
      | ok frame =>
        rw [decoded] at overdue
        cases frame with
        | info text => cases overdue
        | response r =>
          simp only [accept] at overdue
          split at overdue <;> cases overdue
  · rintro rfl
    rfl

private theorem poll_eq_timeout_iff (isOpen : e.channel = some i)
    (channel : Tasks.channel? w.system i = some c) :
    (e.poll w).1 = .event (.error .timeout) ↔
      (c.queued = [] ∧ c.senders ≠ 0 ∧ e.deadline ≤ w.now) ∨
        c.queued.head? = some (.error .timeout) := by
  rw [poll_of_open isOpen]
  cases queue : c.queued with
  | cons x xs =>
    have found : (w.receive i).1 = .item x := by
      simp only [Environment.receive, channel, Channel.receive, queue]
    simp only [found, shows, Sight.event.injEq, interpret_eq_timeout_iff, reduceCtorEq, false_and,
      false_or, List.head?_cons, Option.some.injEq]
  | nil =>
    have found : (w.receive i).1 = if c.senders = 0 then .closed else .pending := by
      simp only [Environment.receive, channel, Channel.receive, queue]
    rw [found]
    by_cases alone : c.senders = 0
    · simp [alone, shows]
    · by_cases overdue : e.deadline ≤ w.now
      · simp [alone, overdue, shows]
      · simp [alone, overdue, shows]

end

end EventStream

variable {w : Environment Playback}

private theorem perform_within {α : Type} (call : Call Playback α) (limit : Nat)
    (quiet : w.system.feeds = []) :
    (call.within limit).perform w =
      if call.latency ≤ limit then call.answer (w.goTo (w.now + call.latency))
      else (.error .timeout, w.goTo (w.now + limit)) := by
  rw [Call.within]
  split <;> rw [Call.perform, sleepUntil_of_quiet quiet]

/-- What a new device finds that waits some time for the answer to its request. -/
def later (w : Environment Playback) (ms : Nat) : Environment Playback :=
  w.drawKey.2.goTo (w.now + ms)

@[simp] theorem now_later (w : Environment Playback) (ms : Nat) : (later w ms).now = w.now + ms :=
  Nat.max_eq_right (Nat.le_add_right w.now ms)

private theorem pairDevice_scripted (config : ClientConfig) (s : Script) (i : Introduction)
    (quiet : w.system.feeds = []) :
    pairDevice config (scripted s) i w =
      if s.pair.delay ≤ config.requestTimeout.toNat then
        match s.pair.result with
        | .error cause => (.error cause, later w s.pair.delay)
        | .ok opened =>
          let w' := (later w s.pair.delay).withSystem (w.system.start opened).2
          let version := opened.version.getD config.version
          if version ≠ config.version then
            (.error (.protocolMismatch config.version version),
              w'.dropReceiver (w.system.start opened).1)
          else
            (.ok (streamOf config ⟨w.drawKey.1⟩ (w.now + s.pair.delay)
              ⟨opened.session, version, opened.exchangePayload⟩ (w.system.start opened).1), w')
      else (.error .timeout, later w config.requestTimeout.toNat) := by
  have performed := perform_within (w := w.drawKey.2)
    (openScripted s.pair (i.request (SecretKey.publicKey ⟨w.drawKey.1⟩) config.version))
    config.requestTimeout.toNat quiet
  simp only [pairDevice, Transport.within, scripted]
  by_cases inTime : s.pair.delay ≤ config.requestTimeout.toNat
  · rw [if_pos (c := (openScripted s.pair _).latency ≤ _) inTime] at performed
    rw [performed, if_pos inTime]
    simp only [openScripted]
    cases s.pair.result with
    | error cause => rfl
    | ok opened =>
      rw [← now_later w s.pair.delay]
      rfl
  · rw [if_neg (c := (openScripted s.pair _).latency ≤ _) inTime] at performed
    rw [performed, if_neg inTime]
    rfl

/-- How a new device that a script answers keeps to its limits. -/
structure KeepsLimits (config : ClientConfig) (s : Script) (i : Introduction)
    (w : Environment Playback) : Prop where
  /-- An opening that takes too long is given up when the time for it is over. -/
  givenUp : config.requestTimeout.toNat < s.pair.delay →
    ∃ w', pairDevice config (scripted s) i w = (.error .timeout, w') ∧
      w'.now = w.now + config.requestTimeout.toNat
  answered : s.pair.delay ≤ config.requestTimeout.toNat →
    (pairDevice config (scripted s) i w).2.now = w.now + s.pair.delay
  failed : s.pair.delay ≤ config.requestTimeout.toNat → ∀ cause, s.pair.result = .error cause →
    (pairDevice config (scripted s) i w).1 = .error cause
  mismatched : s.pair.delay ≤ config.requestTimeout.toNat →
    ∀ opened version, s.pair.result = .ok opened → opened.version = some version →
      version ≠ config.version →
      (pairDevice config (scripted s) i w).1 = .error (.protocolMismatch config.version version)
  /-- From then on there is a fixed time for the response. Nothing but what decides the session
  counts, and when that comes. -/
  opened : s.pair.delay ≤ config.requestTimeout.toNat →
    ∀ opened, s.pair.result = .ok opened → opened.version.getD config.version = config.version →
      ∃ e w', pairDevice config (scripted s) i w = (.ok e, w') ∧ w'.now = w.now + s.pair.delay ∧
        e.deadline = w'.now + config.pairingTimeout.toNat ∧
        ((∀ a ∈ arrivals opened.hold w'.now opened.cues, a.1 ≠ e.deadline) →
          ∃ r e' w'', e.response w' = (r, e', w'') ∧ e'.isClosed = true ∧
            Decided config.version opened.session e.deadline
              (arrivals opened.hold w'.now opened.cues) r w''.now)

private theorem keepsLimits (config : ClientConfig) (s : Script) (i : Introduction)
    (quiet : w.system.feeds = []) : KeepsLimits config s i w := by
  have paired := pairDevice_scripted config s i quiet
  refine ⟨fun late => ?_, fun inTime => ?_, fun inTime cause failed => ?_,
    fun inTime opened version accepted offered other => ?_, fun inTime opened accepted same => ?_⟩
  · rw [paired, if_neg (Nat.not_le_of_lt late)]
    exact ⟨_, rfl, now_later _ _⟩
  · rw [paired, if_pos inTime]
    cases s.pair.result with
    | error cause => exact now_later _ _
    | ok opened =>
      simp only
      split <;> exact now_later _ _
  · rw [paired, if_pos inTime, failed]
  · rw [paired, if_pos inTime, accepted]
    simp only [offered, Option.getD_some]
    rw [if_pos other]
  · rw [if_pos inTime, accepted] at paired
    simp only [same, ne_eq, not_true_eq_false, if_false] at paired
    refine ⟨_, _, paired, now_later _ _, ?_, fun apart => ?_⟩
    · show w.now + s.pair.delay + _ = (later w s.pair.delay).now + _
      rw [now_later]
    · -- nothing has come yet, so the timeline is that of the script
      have plays := Plays.start (w := (later w s.pair.delay).withSystem (w.system.start opened).2)
        quiet rfl
      have early : (later w s.pair.delay).now ≤ w.now + s.pair.delay + config.pairingTimeout.toNat := by
        rw [now_later]
        exact Nat.le_add_right _ _
      obtain ⟨r, e', w'', found, decided, closed⟩ :=
        EventStream.response_of_plays (e := streamOf config ⟨w.drawKey.1⟩ (w.now + s.pair.delay)
          ⟨opened.session, config.version, opened.exchangePayload⟩ (w.system.start opened).1)
          rfl plays early apart
      exact ⟨r, e', w'', found, closed, decided⟩

/-- What waits in the channel of a stream is shown whatever the time is. -/
structure EventStream.LooksFirst {σ : Type} [Tasks σ] (e : EventStream) (w : Environment σ)
    (c : Channel) : Prop where
  shown : ∀ x, c.queued.head? = some x →
    (e.poll w).1 = .event (e.foretold (some x)) ∧ e.next w = e.poll w
  timedOut : (e.poll w).1 = .event (.error .timeout) ↔
    (c.queued = [] ∧ c.senders ≠ 0 ∧ e.deadline ≤ w.now) ∨ c.queued.head? = some (.error .timeout)

/-- A new device waits for the opening and for the response as long as it is configured to and no
longer, what waits in its channel counts also after that, and calls that are answered at once are
never given up. -/
theorem waiting_keeps_to_limits (config : ClientConfig) (s : Script) (i : Introduction)
    (w : Environment Playback) (quiet : w.system.feeds = []) :
    KeepsLimits config s i w ∧
      (∀ {σ : Type} [Tasks σ] (e : EventStream) (w : Environment σ) (j : Nat) (c : Channel),
        e.channel = some j → Tasks.channel? w.system j = some c → e.LooksFirst w c) ∧
      (∀ (e : EventStream) (w : Environment Playback) (hold : Bool) (j : Nat) (phase : FeedPhase)
        (c : Channel) (x : StreamItem), e.channel = some j → Plays hold j w phase c →
        c.queued[(leadingTexts e.version c.queued).length]? = some x →
        ∃ r e' w', e.response w = (r, e', w') ∧ Ending e.version e.session (some x) r ∧
          w'.now = w.now ∧ e'.isClosed = true) ∧
      ∀ limit, Transport.direct.within limit = Transport.direct := by
  refine ⟨keepsLimits config s i quiet, ?_, ?_, ?_⟩
  · intro σ _ e w j c isOpen channel
    exact ⟨fun x waiting => ⟨EventStream.poll_of_queued isOpen channel waiting,
      EventStream.next_of_queued isOpen channel waiting⟩,
      EventStream.poll_eq_timeout_iff isOpen channel⟩
  · intro e w hold j phase c x isOpen plays waiting
    exact EventStream.response_of_waiting isOpen plays waiting
  · intro limit
    rfl

namespace Sample

/-- Texts come for a while, and then something goes wrong. -/
def chatty : ScriptedSession where
  session := "sess-1"
  version := none
  exchangePayload := none
  cues :=
    [.pause 30, .send (.ok (Frame.encode (.info "one"))), .pause 15,
      .send (.ok (Frame.encode (.info "two"))), .pause 20, .send (.error (.transport "gone"))]
  hold := true

def unhurried : Script where
  pair := ⟨20, .ok chatty⟩
  lookUp := ⟨0, .error .timeout⟩
  approve := ⟨0, .ok ()⟩
  reject := ⟨0, .ok ()⟩

/-- A new device that waits 20 milliseconds for the opening and 50 for the response. -/
def impatient : ClientConfig :=
  (((ClientConfig.ofTls ⟨"", "", "", [], [], []⟩).withVersion .v1).withRequestTimeout
    20).withPairingTimeout 50

def silence : Environment Playback := ⟨0, 0, ⟨fun _ _ => 0, 0⟩, Playback.empty⟩

end Sample

/-- The session is opened at the last moment, and what decides it comes too late. -/
theorem waiting_keeps_to_limits_of_chatty :
    ∃ e w', pairDevice Sample.impatient (scripted Sample.unhurried) ⟨"laptop", "", ""⟩
        Sample.silence = (.ok e, w') ∧ w'.now = 20 ∧
      ∃ e' w'', e.response w' = (.error .timeout, e', w'') ∧ w''.now = 70 := by
  have limits := (waiting_keeps_to_limits Sample.impatient Sample.unhurried ⟨"laptop", "", ""⟩
    Sample.silence rfl).1
  obtain ⟨e, w', opened, now, deadline, responds⟩ := limits.opened (by decide) Sample.chatty rfl rfl
  have now : w'.now = 20 := now
  have deadline : e.deadline = 70 := by rw [deadline, now]; rfl
  rw [now, deadline] at responds
  obtain ⟨r, e', w'', found, -, decided⟩ := responds (by decide +kernel)
  have decisive : decisive? .v1 (arrivals true 20 Sample.chatty.cues) =
      some (85, some (.error (.transport "gone"))) := by decide +kernel
  refine ⟨e, w', opened, now, e', w'', ?_⟩
  generalize w''.now = time at decided
  cases decided with
  | inTime first early =>
    have := congrArg Prod.fst (Option.some.inj (decisive.symm.trans first))
    omega
  | late => exact ⟨found, rfl⟩

end DevicePairing.Client
