import DevicePairing.Proofs.Session.Life
import DevicePairing.Transport.Scripted

set_option autoImplicit false
set_option relaxedAutoImplicit false

/-!
Scripts that are played over a channel. What waits in the channel and what the script has left to
send make up what is still to come, and when, whenever it is looked at. A receiver that waits looks
at the channel at each of these times, and at the end of its patience.
-/

namespace DevicePairing.Transport

open DevicePairing
open DevicePairing.Clock
open DevicePairing.Session (Channel StreamItem)

def sends : List Cue → List StreamItem
  | [] => []
  | .send x :: script => x :: sends script
  | .pause _ :: script => sends script

def duration : List Cue → Nat
  | [] => 0
  | .send _ :: script => duration script
  | .pause ms :: script => ms + duration script

/-- What comes over the channel of a script that goes on at a time, and when: its items, and after
them the end unless the channel is held open. -/
def arrivals (hold : Bool) : (time : Nat) → List Cue → List (Nat × Option StreamItem)
  | time, [] => if hold then [] else [(time, none)]
  | time, .send x :: script => (time, some x) :: arrivals hold time script
  | time, .pause ms :: script => arrivals hold (time + ms) script

private theorem filterMap_arrivals (hold : Bool) (time : Nat) (script : List Cue) :
    (arrivals hold time script).filterMap Prod.snd = sends script := by
  induction script generalizing time with
  | nil => cases hold <;> rfl
  | cons cue script ih =>
    cases cue with
    | send x => simp only [arrivals, sends, List.filterMap_cons, ih]
    | pause ms => exact ih (time + ms)

private theorem le_of_mem_arrivals {hold : Bool} {time : Nat} {script : List Cue}
    {a : Nat × Option StreamItem} (h : a ∈ arrivals hold time script) : time ≤ a.1 := by
  induction script generalizing time with
  | nil =>
    cases hold with
    | true => cases h
    | false => obtain rfl := List.mem_singleton.mp h; exact Nat.le_refl _
  | cons cue script ih =>
    cases cue with
    | send x =>
      rcases List.mem_cons.mp h with rfl | later
      · exact Nat.le_refl _
      · exact ih later
    | pause ms => exact Nat.le_trans (Nat.le_add_right time ms) (ih h)

private theorem arrivals_lt_iff {limit time : Nat} {script : List Cue} :
    (∀ a ∈ arrivals false time script, a.1 < limit) ↔ time + duration script < limit := by
  induction script generalizing time with
  | nil => exact List.forall_mem_singleton
  | cons cue script ih =>
    cases cue with
    | send x =>
      rw [arrivals, List.forall_mem_cons, ih, duration]
      omega
    | pause ms => rw [arrivals, ih, duration, Nat.add_assoc]

namespace FeedPhase

def script : FeedPhase → List Cue
  | .playing script => script
  | .pausing _ script => script
  | .finished => []

/-- The time at which the feed goes on with its script. -/
def resume (now : Nat) : FeedPhase → Nat
  | .playing _ => now
  | .pausing time _ => max now time
  | .finished => now

/-- The time at which the script is over, if nothing holds it up. -/
def finish (now : Nat) : FeedPhase → Nat
  | .playing script => now + duration script
  | .pausing time script => max now time + duration script
  | .finished => now

/-- The number of times that have to come before the script is over. -/
def ahead (now : Nat) : FeedPhase → Nat
  | .playing script => pauses script
  | .pausing time script => pauses script + if time ≤ now then 0 else 1
  | .finished => 0

def Resting (now : Nat) : FeedPhase → Prop
  | .playing _ => False
  | .pausing time _ => now < time
  | .finished => True

def isFinished : FeedPhase → Bool
  | .finished => true
  | _ => false

private theorem finish_eq (now : Nat) (phase : FeedPhase) :
    phase.finish now = phase.resume now + duration phase.script := by
  cases phase <;> rfl

private theorem le_resume (now : Nat) (phase : FeedPhase) : now ≤ phase.resume now := by
  cases phase with
  | pausing time script => exact Nat.le_max_left now time
  | _ => exact Nat.le_refl now

private theorem ahead_le_waits (now i : Nat) (phase : FeedPhase) (hold : Bool) :
    phase.ahead now ≤ (Feed.mk i phase hold).waits := by
  cases phase with
  | playing script => exact Nat.le_refl _
  | pausing time script =>
    simp only [ahead, Feed.waits]
    split <;> omega
  | finished => exact Nat.le_refl _

end FeedPhase

private structure Played (hold : Bool) (now : Nat) (script : List Cue) (c : Channel)
    (phase : FeedPhase) (c' : Channel) : Prop where
  sent : ∃ more, c'.sent = c.sent ++ more ∧
    more.map (fun x => (now, some x)) ++ arrivals hold (phase.resume now) phase.script =
      arrivals hold now script
  taken : c'.taken = c.taken
  receiving : c'.receiving = c.receiving
  resting : phase.Resting now
  senders : c'.senders = if phase.isFinished && !hold then c.senders - 1 else c.senders
  ahead : phase.ahead now ≤ pauses script

private theorem played (hold : Bool) (now : Nat) (script : List Cue) (c : Channel)
    (receiving : c.receiving = true) :
    Played hold now script c (play (.settled now) hold script c).1
      (play (.settled now) hold script c).2 := by
  induction script generalizing c with
  | nil =>
    cases hold with
    | true => exact ⟨⟨[], (List.append_nil _).symm, rfl⟩, rfl, rfl, trivial, rfl, Nat.le_refl _⟩
    | false => exact ⟨⟨[], (List.append_nil _).symm, rfl⟩, rfl, rfl, trivial, rfl, Nat.le_refl _⟩
  | cons cue script ih =>
    cases cue with
    | send x =>
      have pushed : (c.send? x).getD c = c.push x := by rw [Channel.send?_eq, if_pos receiving]; rfl
      rw [play, pushed]
      have rest := ih (c.push x) receiving
      obtain ⟨more, sent, split⟩ := rest.sent
      refine ⟨⟨x :: more, ?_, ?_⟩, rest.taken, rest.receiving, rest.resting, rest.senders, rest.ahead⟩
      · rw [sent, Channel.push, List.append_assoc, List.singleton_append]
      · rw [List.map_cons, List.cons_append, split, arrivals]
    | pause ms =>
      by_cases due : now + ms ≤ now
      · have goesOn : play (.settled now) hold (.pause ms :: script) c =
            play (.settled now) hold script c := if_pos due
        have none : ms = 0 := by omega
        rw [goesOn]
        have rest := ih c receiving
        have ahead := rest.ahead
        refine ⟨?_, rest.taken, rest.receiving, rest.resting, rest.senders, ?_⟩
        · rw [arrivals, none, Nat.add_zero]
          exact rest.sent
        · rw [pauses]
          omega
      · have waits : play (.settled now) hold (.pause ms :: script) c =
            (.pausing (now + ms) script, c) := if_neg due
        rw [waits]
        refine ⟨⟨[], (List.append_nil _).symm, ?_⟩, rfl, rfl, Nat.lt_of_not_le due, rfl, ?_⟩
        · rw [List.map_nil, List.nil_append, FeedPhase.resume,
            Nat.max_eq_right (Nat.le_add_right now ms)]
          rfl
        · simp only [FeedPhase.ahead, if_neg due, pauses]
          omega

def received (c : Channel) : List StreamItem := c.sent.take c.taken

/-- What is still to be received from a channel that is fed. -/
def remaining (phase : FeedPhase) (c : Channel) : List StreamItem := c.queued ++ sends phase.script

theorem remaining_of_finished {phase : FeedPhase} {c : Channel} (finished : phase.isFinished = true)
    (empty : c.queued = []) : remaining phase c = [] := by
  cases phase with
  | finished => rw [remaining, empty]; rfl
  | _ => cases finished

/-- What is still to come over a channel that is fed, and when; what waits in it is there now. -/
def timeline (hold : Bool) (now : Nat) (phase : FeedPhase) (c : Channel) :
    List (Nat × Option StreamItem) :=
  c.queued.map (fun x => (now, some x)) ++ arrivals hold (phase.resume now) phase.script

private theorem filterMap_timeline (hold : Bool) (now : Nat) (phase : FeedPhase) (c : Channel) :
    (timeline hold now phase c).filterMap Prod.snd = remaining phase c := by
  have waiting : (c.queued.map fun x => (now, some x)).filterMap Prod.snd = c.queued := by
    rw [List.filterMap_map]
    exact List.filterMap_some
  rw [timeline, List.filterMap_append, filterMap_arrivals, waiting, remaining]

theorem timeline_of_empty {hold : Bool} {now : Nat} {phase : FeedPhase} {c : Channel}
    (empty : c.queued = []) :
    timeline hold now phase c = arrivals hold (phase.resume now) phase.script := by
  rw [timeline, empty, List.map_nil, List.nil_append]

theorem le_of_mem_timeline {hold : Bool} {now : Nat} {phase : FeedPhase} {c : Channel}
    {a : Nat × Option StreamItem} (h : a ∈ timeline hold now phase c) : now ≤ a.1 := by
  rcases List.mem_append.mp h with waiting | coming
  · obtain ⟨x, -, rfl⟩ := List.mem_map.mp waiting
    exact Nat.le_refl now
  · exact Nat.le_trans (phase.le_resume now) (le_of_mem_arrivals coming)

private theorem timeline_lt_iff {limit now : Nat} {phase : FeedPhase} {c : Channel} :
    (∀ a ∈ timeline false now phase c, a.1 < limit) ↔ phase.finish now < limit := by
  rw [timeline, List.forall_mem_append, arrivals_lt_iff, ← FeedPhase.finish_eq]
  refine ⟨fun h => h.2, fun finish => ⟨fun a waiting => ?_, finish⟩⟩
  obtain ⟨x, -, rfl⟩ := List.mem_map.mp waiting
  have soon := phase.le_resume now
  rw [FeedPhase.finish_eq] at finish
  exact Nat.lt_of_le_of_lt (Nat.le_trans soon (Nat.le_add_right _ _)) finish

/-- Nothing goes on but the feed of the channel `i`. -/
structure Plays (hold : Bool) (i : Nat) (w : Environment Playback) (phase : FeedPhase)
    (c : Channel) : Prop where
  channel : w.system.channels[i]? = some c
  feeds : w.system.feeds = [⟨i, phase, hold⟩]
  receiving : c.receiving = true
  taken : c.taken ≤ c.sent.length
  /-- The channel is closed when the feed is done, unless it is held open. -/
  senders : c.senders = if phase.isFinished && !hold then 0 else 1

namespace Plays

variable {hold : Bool} {limit i : Nat} {w : Environment Playback} {phase : FeedPhase} {c : Channel}

private theorem settle_of_feed (h : Plays hold i w phase c) :
    (w.settle).system =
      match (Feed.mk i phase hold).script? (.settled w.now) with
      | none => w.system
      | some script =>
        ⟨w.system.channels.set i (play (.settled w.now) hold script c).2,
          [⟨i, (play (.settled w.now) hold script c).1, hold⟩]⟩ := by
  simp only [Environment.settle, Environment.withSystem, Tasks.settle, Playback.settle, h.feeds,
    List.length_singleton, List.range_one, List.foldl_cons, List.foldl_nil, Playback.settleFeed,
    List.getElem?_cons_zero, h.channel]
  cases (Feed.mk i phase hold).script? (.settled w.now) with
  | none => rfl
  | some script => rfl

private theorem of_played (h : Plays hold i w phase c) {script : List Cue} {phase' : FeedPhase}
    {c' : Channel} (p : Played hold w.now script c phase' c')
    (unfinished : phase.isFinished = false)
    (left : arrivals hold (phase.resume w.now) phase.script = arrivals hold w.now script)
    (few : pauses script ≤ phase.ahead w.now)
    (system : w.settle.system = ⟨w.system.channels.set i c', [⟨i, phase', hold⟩]⟩) :
    Plays hold i w.settle phase' c' ∧ phase'.Resting w.now ∧ received c' = received c ∧
      timeline hold w.now phase' c' = timeline hold w.now phase c ∧
      phase'.ahead w.now ≤ phase.ahead w.now := by
  obtain ⟨hi, -⟩ := List.getElem?_eq_some_iff.mp h.channel
  obtain ⟨more, sent, split⟩ := p.sent
  have taken := h.taken
  refine ⟨⟨?_, ?_, ?_, ?_, ?_⟩, p.resting, ?_, ?_, Nat.le_trans p.ahead few⟩
  · rw [system, List.getElem?_set_self hi]
  · rw [system]
  · rw [p.receiving, h.receiving]
  · rw [p.taken, sent, List.length_append]
    omega
  · rw [p.senders, h.senders, unfinished]
    rfl
  · rw [received, received, p.taken, sent, List.take_append_of_le_length taken]
  · rw [timeline, timeline, Channel.queued, Channel.queued, p.taken, sent,
      List.drop_append_of_le_length taken, List.map_append, List.append_assoc, split, left]

private theorem settle (h : Plays hold i w phase c) :
    ∃ phase' c', Plays hold i w.settle phase' c' ∧ phase'.Resting w.now ∧
      received c' = received c ∧ timeline hold w.now phase' c' = timeline hold w.now phase c ∧
      phase'.ahead w.now ≤ phase.ahead w.now := by
  have system := h.settle_of_feed
  have still : w.settle.system = w.system → phase.Resting w.now →
      ∃ phase' c', Plays hold i w.settle phase' c' ∧ phase'.Resting w.now ∧
        received c' = received c ∧ timeline hold w.now phase' c' = timeline hold w.now phase c ∧
        phase'.ahead w.now ≤ phase.ahead w.now := by
    intro same resting
    refine ⟨phase, c, ⟨?_, ?_, h.receiving, h.taken, h.senders⟩, resting, rfl, rfl, Nat.le_refl _⟩
    · rw [same, h.channel]
    · rw [same, h.feeds]
  cases phase with
  | playing script =>
    exact ⟨_, _, h.of_played (played hold w.now script c h.receiving) rfl rfl (Nat.le_refl _) system⟩
  | pausing time script =>
    by_cases due : time ≤ w.now
    · have goesOn : (Feed.mk i (.pausing time script) hold).script? (.settled w.now) =
          some script := if_pos due
      rw [goesOn] at system
      refine ⟨_, _, h.of_played (played hold w.now script c h.receiving) rfl ?_ ?_ system⟩
      · rw [FeedPhase.resume, Nat.max_eq_left due]
        rfl
      · simp only [FeedPhase.ahead, if_pos due]
        omega
    · have waits : (Feed.mk i (.pausing time script) hold).script? (.settled w.now) = none :=
        if_neg due
      rw [waits] at system
      exact still system (Nat.lt_of_not_le due)
  | finished => exact still system trivial

private theorem goTo (h : Plays hold i w phase c) (resting : phase.Resting w.now)
    (empty : c.queued = [])
    (isOpen : phase.isFinished = true → hold = true) (soon : w.now < limit) :
    ∃ time, w.nextMoment (some limit) = some time ∧ time ≤ limit ∧ (w.goTo time).now = time ∧
      Plays hold i (w.goTo time) phase c ∧
      timeline hold time phase c = timeline hold w.now phase c ∧
      phase.ahead time + (if time < limit then 2 else 1) < phase.ahead w.now + 2 := by
  have there : ∀ time, Plays hold i (w.goTo time) phase c :=
    fun time => ⟨h.channel, h.feeds, h.receiving, h.taken, h.senders⟩
  have wakes : Tasks.wakeAt? w.system = ([Feed.mk i phase hold].filterMap Feed.wakeAt?).min? := by
    show (w.system.feeds.filterMap Feed.wakeAt?).min? = _
    rw [h.feeds]
  cases phase with
  | playing script => exact absurd resting id
  | pausing time script =>
    have later : w.now < time := resting
    have next : w.nextMoment (some limit) = some (min limit time) := by
      simp only [Environment.nextMoment, wakes]
      rfl
    refine ⟨min limit time, next, Nat.min_le_left limit time, Nat.max_eq_right ?_, there _, ?_, ?_⟩
    · omega
    · rw [timeline_of_empty empty, timeline_of_empty empty, FeedPhase.resume, FeedPhase.resume,
        Nat.max_eq_right (Nat.min_le_right limit time), Nat.max_eq_right (Nat.le_of_lt later)]
    · simp only [FeedPhase.ahead]
      split <;> split <;> split <;> omega
  | finished =>
    have next : w.nextMoment (some limit) = some limit := by
      simp only [Environment.nextMoment, wakes]
      rfl
    refine ⟨limit, next, Nat.le_refl limit, Nat.max_eq_right (Nat.le_of_lt soon), there _, ?_, ?_⟩
    · rw [timeline_of_empty empty, timeline_of_empty empty, isOpen rfl]
      rfl
    · rw [if_neg (Nat.lt_irrefl limit)]
      exact Nat.lt_succ_self _

private theorem with_channel (h : Plays hold i w phase c) (f : Channel → Channel) :
    (Tasks.modifyChannel w.system i f : Playback).channels[i]? = some (f c) := by
  show (w.system.channels.modify i f)[i]? = some (f c)
  rw [List.getElem?_modify_eq, h.channel]
  rfl

theorem receive_item (h : Plays hold i w phase c) {x : StreamItem} {more : List StreamItem}
    (waiting : c.queued = x :: more) :
    ∃ w' c', w.receive i = (.item x, w') ∧ w'.now = w.now ∧ Plays hold i w' phase c' ∧
      received c' = received c ++ [x] ∧ c'.queued = more := by
  have next : c.sent[c.taken]? = some x := by
    rw [Channel.queued] at waiting
    rw [← List.head?_drop, waiting]
    rfl
  have found := Channel.receive_of_next next
  obtain ⟨inside, same⟩ := List.getElem?_eq_some_iff.mp next
  have after := h.with_channel fun c => (c.receive).2
  refine ⟨w.withSystem (Tasks.modifyChannel w.system i fun c => (c.receive).2),
    { c with taken := c.taken + 1 }, ?_, rfl, ⟨?_, h.feeds, h.receiving, inside, h.senders⟩, ?_, ?_⟩
  · have here : Tasks.channel? w.system i = some c := h.channel
    simp only [Environment.receive, here, found]
  · rw [found] at after
    exact after
  · rw [received, received, List.take_add_one, next]
    rfl
  · rw [Channel.queued, List.drop_eq_getElem_cons inside] at waiting
    exact (List.cons.inj waiting).2

/-- A receiver that finds nothing has to wait unless the channel is closed. -/
theorem receive_nothing (h : Plays hold i w phase c) (empty : c.queued = []) :
    ∃ w', w.receive i = (if phase.isFinished && !hold then .closed else .pending, w') ∧
      w'.now = w.now ∧ Plays hold i w' phase c := by
  have found : c.receive = (if phase.isFinished && !hold then .closed else .pending, c) := by
    rw [Channel.receive, empty]
    simp only
    rw [h.senders]
    cases phase.isFinished && !hold <;> rfl
  have after := h.with_channel fun c => (c.receive).2
  refine ⟨w.withSystem (Tasks.modifyChannel w.system i fun c => (c.receive).2), ?_, rfl, ?_, h.feeds,
    h.receiving, h.taken, h.senders⟩
  · have here : Tasks.channel? w.system i = some c := h.channel
    simp only [Environment.receive, here, found]
  · rw [found] at after
    exact after

private theorem dropReceiver (h : Plays hold i w phase c) :
    (w.dropReceiver i).system.channels[i]? = some c.dropReceiver :=
  h.with_channel Channel.dropReceiver

/-- A feed that has just been started plays its script over a channel of its own. -/
theorem start {p : Playback} (quiet : p.feeds = []) {s : ScriptedSession}
    (started : w.system = (p.start s).2) :
    Plays s.hold (p.start s).1 w (.playing s.cues) (Channel.create (Playback.capacity s.cues)) := by
  refine ⟨?_, ?_, rfl, Nat.le_refl _, rfl⟩
  · rw [started]
    exact List.getElem?_concat_length
  · rw [started, Playback.start, quiet]
    rfl

end Plays

/-- A caller who sleeps while nothing goes on wakes up at the time that it wanted. -/
theorem sleepUntil_of_quiet {w : Environment Playback} (quiet : w.system.feeds = []) (time : Nat) :
    w.sleepUntil time = w.goTo time := by
  have wakes : Tasks.wakeAt? w.system = none := by
    show (w.system.feeds.filterMap Feed.wakeAt?).min? = none
    rw [quiet]
    rfl
  have settled : w.settle = w := by
    have same : Tasks.settle w.system (.settled w.now) = w.system := by
      show Playback.settle w.system _ = w.system
      rw [Playback.settle, quiet]
      rfl
    rw [Environment.settle, same]
    rfl
  have arrived : time ≤ (w.goTo time).now := Nat.le_max_right w.now time
  by_cases here : time ≤ w.now
  · have same : w.goTo time = w := by
      rw [Environment.goTo, Nat.max_eq_left here]
    rw [same, Environment.sleepUntil, Environment.await, Environment.awaitFor, if_pos here]
  · have next : w.nextMoment (some time) = some time := by
      simp only [Environment.nextMoment, wakes]
    simp only [Environment.sleepUntil, Environment.await, Environment.awaitFor, if_neg here, settled,
      next, if_pos arrived]

/-- A caller who waits for a channel that is fed, until a time that has not passed. If every attempt
comes to something or takes all that is there, and the last one comes to something, then waiting
does. -/
theorem await_plays {α β : Type} {hold : Bool} {limit i : Nat}
    (attempt : β → Environment Playback → Option α × β × Environment Playback)
    (Before : β → (received : List StreamItem) → (coming : List (Nat × Option StreamItem)) → Prop)
    (After : α → β → Environment Playback → Prop)
    (attempted : ∀ b w phase c, Plays hold i w phase c → w.now ≤ limit →
      Before b (received c) (timeline hold w.now phase c) →
      (∃ a b' w', attempt b w = (some a, b', w') ∧ After a b' w') ∨
        w.now < limit ∧ (phase.isFinished = true → hold = true) ∧
          ∃ b' w' c', attempt b w = (none, b', w') ∧ w'.now = w.now ∧ Plays hold i w' phase c' ∧
            c'.queued = [] ∧ Before b' (received c') (timeline hold w.now phase c'))
    {b : β} {w : Environment Playback} {phase : FeedPhase} {c : Channel}
    (plays : Plays hold i w phase c) (early : w.now ≤ limit)
    (before : Before b (received c) (timeline hold w.now phase c)) :
    ∃ a b' w', w.await (some limit) attempt b = (some a, b', w') ∧ After a b' w' := by
  have enough : phase.ahead w.now + (if w.now < limit then 2 else 1) ≤ Tasks.waits w.system + 2 := by
    have waits : Tasks.waits w.system = 0 + (Feed.mk i phase hold).waits := by
      show w.system.feeds.foldl (fun n f => n + f.waits) 0 = _
      rw [plays.feeds]
      rfl
    have ahead := phase.ahead_le_waits w.now i hold
    split <;> omega
  unfold Environment.await
  generalize Tasks.waits w.system + 2 = moments at enough
  induction moments generalizing b w phase c with
  | zero => split at enough <;> omega
  | succ moments ih =>
    rw [Environment.awaitFor]
    rcases attempted b w phase c plays early before with ⟨a, b', w', found, after⟩ |
      ⟨soon, -, b₁, w₁, c₁, nothing, now₁, plays₁, -, before₁⟩
    · rw [found]
      exact ⟨a, b', w', rfl, after⟩
    · rw [nothing]
      obtain ⟨phase₂, c₂, plays₂, resting, past, coming, fewer⟩ := plays₁.settle
      rw [← now₁, ← past, ← coming] at before₁
      simp only
      have early₂ : w₁.settle.now ≤ limit := by
        rw [← now₁] at early
        exact early
      rcases attempted b₁ w₁.settle phase₂ c₂ plays₂ early₂ before₁ with ⟨a, b', w', found, after⟩ |
        ⟨-, isOpen, b₃, w₃, c₃, nothing', now₃, plays₃, empty, before₃⟩
      · rw [found]
        exact ⟨a, b', w', rfl, after⟩
      · rw [nothing']
        have now : w₃.now = w.now := now₃.trans now₁
        rw [← now₃] at before₃
        rw [now₁, ← now] at resting fewer
        rw [← now] at soon enough
        obtain ⟨time, next, inTime, there, plays₄, coming₄, less⟩ :=
          plays₃.goTo resting empty isOpen soon
        simp only [next]
        refine ih plays₄ (Nat.le_trans (Nat.le_of_eq there) inTime) ?_ ?_
        · rw [there, coming₄]
          exact before₃
        · rw [there]
          rw [if_pos soon] at enough
          omega

/-- Nothing goes on but the feed of the channel `i`, and it will be done before a time. -/
structure Fed (limit i : Nat) (w : Environment Playback) (phase : FeedPhase) (c : Channel) :
    Prop where
  channel : w.system.channels[i]? = some c
  feeds : w.system.feeds = [⟨i, phase, false⟩]
  receiving : c.receiving = true
  taken : c.taken ≤ c.sent.length
  senders : c.senders = if phase.isFinished then 0 else 1
  inTime : phase.isFinished = false → phase.finish w.now < limit

namespace Fed

variable {limit i : Nat} {w : Environment Playback} {phase : FeedPhase} {c : Channel}

theorem plays (h : Fed limit i w phase c) : Plays false i w phase c := by
  refine ⟨h.channel, h.feeds, h.receiving, h.taken, ?_⟩
  rw [h.senders, Bool.not_false, Bool.and_true]

theorem of_plays (h : Plays false i w phase c)
    (inTime : phase.isFinished = false → phase.finish w.now < limit) : Fed limit i w phase c := by
  refine ⟨h.channel, h.feeds, h.receiving, h.taken, ?_, inTime⟩
  rw [h.senders, Bool.not_false, Bool.and_true]

theorem now_lt (h : Fed limit i w phase c) (unfinished : phase.isFinished = false) :
    w.now < limit := by
  have inTime := h.inTime unfinished
  rw [FeedPhase.finish_eq] at inTime
  exact Nat.lt_of_le_of_lt (Nat.le_trans (phase.le_resume w.now) (Nat.le_add_right _ _)) inTime

theorem receive_item (h : Fed limit i w phase c) {x : StreamItem} {more : List StreamItem}
    (waiting : c.queued = x :: more) :
    ∃ w' c', w.receive i = (.item x, w') ∧ w'.now = w.now ∧ Fed limit i w' phase c' ∧
      received c' = received c ++ [x] ∧ c'.queued = more := by
  obtain ⟨w', c', found, now, plays, past, queued⟩ := h.plays.receive_item waiting
  refine ⟨w', c', found, now, of_plays plays ?_, past, queued⟩
  rw [now]
  exact h.inTime

/-- A receiver that finds nothing has to wait unless the feed is done. -/
theorem receive_nothing (h : Fed limit i w phase c) (empty : c.queued = []) :
    ∃ w', w.receive i = (if phase.isFinished then .closed else .pending, w') ∧ w'.now = w.now ∧
      Fed limit i w' phase c := by
  obtain ⟨w', found, now, plays⟩ := h.plays.receive_nothing empty
  rw [Bool.not_false, Bool.and_true] at found
  refine ⟨w', found, now, of_plays plays ?_⟩
  rw [now]
  exact h.inTime

theorem dropReceiver (h : Fed limit i w phase c) :
    (w.dropReceiver i).system.channels[i]? = some c.dropReceiver := h.plays.dropReceiver

end Fed

/-- Some items were received from the channel `i`, some will still come, and then it is closed, all
of it before a time. -/
def Brings (limit i : Nat) (w : Environment Playback) (past future : List StreamItem) : Prop :=
  ∃ phase c, Fed limit i w phase c ∧ received c = past ∧ remaining phase c = future

/-- The receiver of the channel `i` is gone, and it had received some items before. -/
def Left (i : Nat) (w : Environment Playback) (past : List StreamItem) : Prop :=
  ∃ c, w.system.channels[i]? = some c ∧ c.receiving = false ∧ received c = past

/-- A feed that has just been started brings what its script sends. -/
theorem brings_start {w : Environment Playback} {p : Playback} (quiet : p.feeds = [])
    {s : ScriptedSession} (closes : s.hold = false) (started : w.system = (p.start s).2)
    {limit : Nat} (inTime : w.now + duration s.cues < limit) :
    Brings limit (p.start s).1 w [] (sends s.cues) := by
  have plays := Plays.start quiet started
  rw [closes] at plays
  exact ⟨.playing s.cues, Channel.create (Playback.capacity s.cues),
    Fed.of_plays plays fun _ => inTime, rfl, rfl⟩

/-- A caller who waits for a channel that is fed. If every attempt comes to something or takes all
that is there, then waiting comes to something. -/
theorem await_fed {α β : Type} {limit i : Nat}
    (attempt : β → Environment Playback → Option α × β × Environment Playback)
    (Before : β → (received remaining : List StreamItem) → Prop)
    (After : α → β → Environment Playback → Prop)
    (attempted : ∀ b w phase c, Fed limit i w phase c → Before b (received c) (remaining phase c) →
      (∃ a b' w', attempt b w = (some a, b', w') ∧ After a b' w') ∨
        ∃ b' w' c', attempt b w = (none, b', w') ∧ w'.now = w.now ∧ phase.isFinished = false ∧
          Fed limit i w' phase c' ∧ c'.queued = [] ∧ Before b' (received c') (remaining phase c'))
    {b : β} {w : Environment Playback} {phase : FeedPhase} {c : Channel}
    (fed : Fed limit i w phase c) (before : Before b (received c) (remaining phase c)) :
    ∃ a b' w', w.await (some limit) attempt b = (some a, b', w') ∧ After a b' w' := by
  cases finished : phase.isFinished with
  | true =>
    rcases attempted b w phase c fed before with ⟨a, b', w', found, after⟩ |
      ⟨-, -, -, -, -, unfinished, -⟩
    · refine ⟨a, b', w', ?_, after⟩
      rw [Environment.await, Environment.awaitFor, found]
    · rw [finished] at unfinished
      cases unfinished
  | false =>
    refine await_plays attempt
      (fun b past coming => (∀ a ∈ coming, a.1 < limit) ∧ Before b past (coming.filterMap Prod.snd))
      After ?_ fed.plays (Nat.le_of_lt (fed.now_lt finished))
      ⟨timeline_lt_iff.mpr (fed.inTime finished), by rwa [filterMap_timeline]⟩
    rintro b w phase c plays - ⟨inTime, before⟩
    rw [timeline_lt_iff] at inTime
    rw [filterMap_timeline] at before
    have fed := Fed.of_plays plays fun _ => inTime
    rcases attempted b w phase c fed before with found |
      ⟨b', w', c', nothing, now, unfinished, fed', empty, before'⟩
    · exact .inl found
    · refine .inr ⟨fed.now_lt unfinished, fun impossible => ?_, b', w', c', nothing, now, fed'.plays,
        empty, timeline_lt_iff.mpr inTime, by rwa [filterMap_timeline]⟩
      rw [unfinished] at impossible
      cases impossible

end DevicePairing.Transport
