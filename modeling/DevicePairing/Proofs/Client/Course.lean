import DevicePairing.Proofs.Client.Scene
import DevicePairing.Proofs.Session.Events

set_option autoImplicit false
set_option relaxedAutoImplicit false

/-!
A stream and its session. What the owner of a stream does reaches the receiver of that session, and
nothing else does. All that can become of the two at once is said here.
-/

namespace DevicePairing.Client

open DevicePairing
open DevicePairing.Clock
open DevicePairing.Session

/-- A session went on while its receiver did nothing. What was sent stays sent, and to a session
that has come to an end nothing more is sent. -/
structure Undisturbed (l l' : Life) : Prop where
  origin : l'.origin = l.origin
  receiving : l'.channel.receiving = l.channel.receiving
  taken : l'.channel.taken = l.channel.taken
  sent : l.channel.sent <+: l'.channel.sent
  ended : l.state.isFinal = true → l'.state = l.state ∧ l'.channel.sent = l.channel.sent

private theorem Undisturbed.refl (l : Life) : Undisturbed l l :=
  ⟨rfl, rfl, rfl, List.prefix_rfl, fun _ => ⟨rfl, rfl⟩⟩

private theorem Undisturbed.trans {l l' l'' : Life} (h : Undisturbed l l')
    (h' : Undisturbed l' l'') :
    Undisturbed l l'' where
  origin := h'.origin.trans h.origin
  receiving := h'.receiving.trans h.receiving
  taken := h'.taken.trans h.taken
  sent := h.sent.trans h'.sent
  ended := by
    intro ended
    obtain ⟨state, sent⟩ := h.ended ended
    obtain ⟨state', sent'⟩ := h'.ended (state ▸ ended)
    exact ⟨state'.trans state, sent'.trans sent⟩

private theorem undisturbed_feel (ttl : Nat) (l : Life) {x : Stimulus} (kept : x ≠ .receipt)
    (stays : x ≠ .departure) : Undisturbed l (l.feel ttl x) := by
  have change := l.feel_change ttl x
  have origin := l.origin_feel ttl x
  have ended := fun final => Life.feel_of_final (l := l) final ttl x
  generalize l.feel ttl x = l' at change origin ended ⊢
  refine ⟨origin, ?_, ?_, ?_, ended⟩
  · cases change with
    | received => exact absurd rfl kept
    | departed => exact absurd rfl stays
    | _ => rfl
  · cases change with
    | received => exact absurd rfl kept
    | _ => rfl
  · cases change with
    | received => exact absurd rfl kept
    | decided => exact List.prefix_append _ _
    | timedOut => exact List.prefix_append _ _
    | _ => exact List.prefix_rfl

private theorem undisturbed_after (w : World) {a : Action} {i : Nat} (l : Life)
    (kept : a ≠ .receive i) (stays : a ≠ .dropReceiver i) : Undisturbed l (l.after w a i) := by
  unfold Life.after
  split
  · exact .refl l
  · rename_i x stimulus
    rcases Action.stimulus?_cases stimulus with
      ⟨_, _, -, -, -, rfl⟩ | ⟨_, _, -, rfl⟩ | ⟨rfl, -⟩ | ⟨rfl, -⟩
    · exact undisturbed_feel _ l Stimulus.noConfusion Stimulus.noConfusion
    · exact undisturbed_feel _ l Stimulus.noConfusion Stimulus.noConfusion
    · exact absurd rfl kept
    · exact absurd rfl stays

private theorem undisturbed_lives {b : Beginning} {before later : List Action} {i : Nat} {l : Life}
    (at_i : (lives b before)[i]? = some l) (kept : .receive i ∉ later)
    (stays : .dropReceiver i ∉ later) :
    ∃ l', (lives b (before ++ later))[i]? = some l' ∧ Undisturbed l l' := by
  induction later using List.reverseRecOn with
  | nil => exact ⟨l, by rwa [List.append_nil], .refl l⟩
  | append_singleton later a ih =>
    simp only [List.mem_append, List.mem_singleton, not_or] at kept stays
    obtain ⟨l', at_i', undisturbed⟩ := ih kept.1 stays.1
    rw [← List.append_assoc]
    exact ⟨_, lives_snoc_of_getElem? at_i' a, undisturbed.trans
      (undisturbed_after _ l' (Ne.symm kept.2) (Ne.symm stays.2))⟩

private theorem after_receive (w : World) (i : Nat) (l : Life) :
    l.after w (.receive i) i = { l with channel := l.channel.receive.2 } := by
  simp only [Life.after, Action.stimulus?, if_true, Life.feel]

private theorem after_dropReceiver (w : World) (i : Nat) (l : Life) :
    l.after w (.dropReceiver i) i = { l with channel := l.channel.dropReceiver } := by
  simp only [Life.after, Action.stimulus?, if_true, Life.feel]

section

variable {b : Beginning} {ms : List Move}

theorem world_ofBeginning (b : Beginning) (ms : List Move) :
    ((Scene.ofBeginning b).play ms).world = run b.world ((Scene.ofBeginning b).history ms) :=
  Scene.world_play _ ms

private theorem sessions_eq (b : Beginning) (ms : List Move) :
    ((Scene.ofBeginning b).play ms).streams.map EventStream.session =
      (lives b ((Scene.ofBeginning b).history ms)).map Life.session :=
  (Scene.sessions_play _ ms).trans (map_session_lives b _).symm

theorem length_streams (b : Beginning) (ms : List Move) :
    ((Scene.ofBeginning b).play ms).streams.length =
      (lives b ((Scene.ofBeginning b).history ms)).length := by
  have same := congrArg List.length (sessions_eq b ms)
  rwa [List.length_map, List.length_map] at same

def Distinct (b : Beginning) (ms : List Move) : Prop :=
  (((Scene.ofBeginning b).play ms).streams.map EventStream.session).Nodup

instance (b : Beginning) (ms : List Move) : Decidable (Distinct b ms) :=
  inferInstanceAs (Decidable (List.Nodup _))

theorem Distinct.openings (h : Distinct b ms) :
    (openings (steps b.world ((Scene.ofBeginning b).history ms))).Nodup := by
  rw [Distinct, sessions_eq, map_session_lives] at h
  exact h

theorem Distinct.of_append {ns : List Move} (h : Distinct b (ms ++ ns)) : Distinct b ms := by
  have later := h.openings
  rw [Scene.history_append] at later
  rw [Distinct, sessions_eq, map_session_lives]
  exact distinct_of_append later

private theorem length_lives_drawKey (b : Beginning) (as : List Action) :
    (lives b (as ++ [.drawKey])).length = (lives b as).length := by
  simp only [lives_snoc, Action.evolve, Action.newcomer?, Option.toList_none, List.append_nil,
    List.length_mapIdx]

/-- The stream with the number `j` belongs to a session. It listens to the channel of its own number
until it is closed, and then the receiver of the session is gone. -/
structure Linked (j : Nat) (e : EventStream) (l : Life) : Prop where
  session : e.session = l.session
  version : e.version = l.request.version
  key : e.secret.publicKey = l.request.deviceKey
  channel : e.channel = if l.channel.receiving then some j else none

/-- Every stream belongs to the session with its number. -/
def AllLinked (b : Beginning) (ms : List Move) : Prop :=
  ∀ (j : Nat) (e : EventStream), ((Scene.ofBeginning b).play ms).streams[j]? = some e →
    ∃ l, (lives b ((Scene.ofBeginning b).history ms))[j]? = some l ∧ Linked j e l

/-- All that can become of a stream and its session by a move, and what its owner sees. -/
inductive Course (j now : Nat) (e : EventStream) (l : Life) :
    Move → Option Sight → EventStream → Life → Prop where
  | apart {m : Move} {l' : Life} (noPoll : m ≠ .poll j) (noClose : m ≠ .close j)
      (undisturbed : Undisturbed l l') : Course j now e l m none e l'
  | ended (closed : e.channel = none) : Course j now e l (.poll j) (some .ended) e l
  | shown (isOpen : e.channel = some j) {x : Sight} (sight : x = e.shows now l.channel.receive.1) :
      Course j now e l (.poll j) (some x) (e.after x)
        { l with
          channel := if x.isLast then l.channel.receive.2.dropReceiver else l.channel.receive.2 }
  | left : Course j now e l (.close j) none { e with channel := none }
      { l with channel := l.channel.dropReceiver }

theorem Linked.number {j : Nat} {e : EventStream} {l : Life} (h : Linked j e l) {c : Nat}
    (isOpen : e.channel = some c) : c = j ∧ l.channel.receiving = true := by
  have channel := h.channel
  rw [isOpen] at channel
  cases receiving : l.channel.receiving with
  | true =>
    rw [receiving] at channel
    exact ⟨Option.some.inj channel, rfl⟩
  | false =>
    rw [receiving] at channel
    cases channel

private theorem Linked.course {j now : Nat} {e e' : EventStream} {l l' : Life} {m : Move}
    {x : Option Sight} (h : Linked j e l) (c : Course j now e l m x e' l') : Linked j e' l' := by
  cases c with
  | apart noPoll noClose undisturbed =>
    have origin := undisturbed.origin
    simp only [Life.origin, Prod.mk.injEq] at origin
    exact
      { session := h.session.trans origin.1.symm
        version := by rw [h.version, origin.2.1]
        key := by rw [h.key, origin.2.1]
        channel := by rw [h.channel, undisturbed.receiving] }
  | ended closed => exact h
  | shown isOpen sight =>
    obtain ⟨-, receiving⟩ := h.number isOpen
    refine ⟨?_, ?_, ?_, ?_⟩
    · rw [EventStream.session_after, h.session]
    · rw [EventStream.version_after, h.version]
    · rw [EventStream.secret_after, h.key]
    · rw [EventStream.channel_after, isOpen]
      split
      · rfl
      · simp only [Channel.receiving_receive, receiving, if_true]
  | left => exact ⟨h.session, h.version, h.key, rfl⟩

theorem stream_move {s : Scene} {m : Move} {j : Nat} {e : EventStream}
    (stream : s.streams[j]? = some e) (noPoll : m ≠ .poll j) (noClose : m ≠ .close j) :
    (s.move m).streams[j]? = some e := by
  cases m with
  | pair config i =>
    have inside := (List.getElem?_eq_some_iff.mp stream).1
    rw [Scene.streams_pair, List.getElem?_append_left inside, stream]
  | poll k =>
    simp only [Scene.move]
    split
    · rw [List.getElem?_set_ne (by simpa using noPoll), stream]
    · exact stream
  | close k =>
    simp only [Scene.move]
    split
    · rw [List.getElem?_set_ne (by simpa using noClose), stream]
    · exact stream
  | service h => exact stream

/-- The receiver of a session is left alone by the moves of others. -/
theorem actions_apart {s : Scene} {j : Nat} {m : Move}
    (numbered : ∀ k c, s.streams[k]?.bind EventStream.channel = some c → c = k)
    (noPoll : m ≠ .poll j) (noClose : m ≠ .close j) :
    .receive j ∉ s.actions m ∧ .dropReceiver j ∉ s.actions m := by
  cases m with
  | pair config i => simp [Scene.actions]
  | poll k =>
    have other : k ≠ j := by simpa using noPoll
    simp only [Scene.actions]
    split
    · rename_i c known
      obtain rfl := numbered k c known
      split <;> simp [other.symm]
    · simp
  | close k =>
    have other : k ≠ j := by simpa using noClose
    simp only [Scene.actions]
    split
    · rename_i c known
      obtain rfl := numbered k c known
      simp [other.symm]
    · simp
  | service h => simp [Scene.actions]

section

variable {s : Scene} {as : List Action} {j : Nat} {e : EventStream} {l : Life}
  (stream : s.streams[j]? = some e) (at_j : (lives b as)[j]? = some l) (link : Linked j e l)

include stream at_j link

private theorem course_poll (channel : s.world.system.channels[j]? = some l.channel) :
    ∃ e' l', (s.move (.poll j)).streams[j]? = some e' ∧
      (lives b (as ++ s.actions (.poll j)))[j]? = some l' ∧
      Course j s.world.now e l (.poll j) (s.sight? j (.poll j)) e' l' := by
  have inside := (List.getElem?_eq_some_iff.mp stream).1
  have sight : s.sight? j (.poll j) = some (e.poll s.world).1 := by
    simp only [Scene.sight?, if_true, stream, Option.map_some]
  have streams : (s.move (.poll j)).streams[j]? = some (e.poll s.world).2.1 := by
    simp only [Scene.move, stream, List.getElem?_set_self inside]
  cases isOpen : e.channel with
  | none =>
    have nothing : s.actions (.poll j) = [] := by
      simp only [Scene.actions, stream, Option.bind_some, isOpen]
    rw [EventStream.poll_of_closed isOpen] at sight streams
    rw [nothing, List.append_nil, sight]
    exact ⟨e, l, streams, at_j, .ended isOpen⟩
  | some c =>
    obtain ⟨rfl, -⟩ := link.number isOpen
    have found : (s.world.receive c).1 = l.channel.receive.1 := by
      simp only [Environment.receive, Tasks.channel?, channel]
    rw [EventStream.poll_of_open isOpen, found] at sight streams
    have done : s.actions (.poll c) =
        .receive c ::
          if (e.shows s.world.now l.channel.receive.1).isLast then [.dropReceiver c] else [] := by
      simp only [Scene.actions, stream, Option.bind_some, isOpen, sight, Option.any_some]
    have received := lives_snoc_of_getElem? at_j (.receive c)
    rw [after_receive] at received
    rw [done, sight]
    refine ⟨_, _, streams, ?_, .shown isOpen rfl⟩
    simp only
    split
    · have departed := lives_snoc_of_getElem? received (.dropReceiver c)
      rwa [after_dropReceiver, List.append_assoc] at departed
    · exact received

private theorem course_close :
    ∃ e' l', (s.move (.close j)).streams[j]? = some e' ∧
      (lives b (as ++ s.actions (.close j)))[j]? = some l' ∧
      Course j s.world.now e l (.close j) (s.sight? j (.close j)) e' l' := by
  have inside := (List.getElem?_eq_some_iff.mp stream).1
  cases isOpen : e.channel with
  | none =>
    have gone : l.channel.receiving = false := by
      have channel := link.channel
      rw [isOpen] at channel
      cases receiving : l.channel.receiving with
      | true => rw [receiving] at channel; cases channel
      | false => rfl
    have nothing : s.actions (.close j) = [] := by
      simp only [Scene.actions, stream, Option.bind_some, isOpen]
    have streams : (s.move (.close j)).streams[j]? = some { e with channel := none } := by
      simp only [Scene.move, stream, List.getElem?_set_self inside, EventStream.close, isOpen]
      rw [← isOpen]
    have same : { l with channel := l.channel.dropReceiver } = l := by
      rw [Channel.dropReceiver_of_gone gone]
    rw [nothing, List.append_nil]
    exact ⟨_, _, streams, at_j.trans (congrArg some same.symm), .left⟩
  | some c =>
    obtain ⟨rfl, -⟩ := link.number isOpen
    have done : s.actions (.close c) = [.dropReceiver c] := by
      simp only [Scene.actions, stream, Option.bind_some, isOpen]
    have streams : (s.move (.close c)).streams[c]? = some { e with channel := none } := by
      simp only [Scene.move, stream, List.getElem?_set_self inside, EventStream.close, isOpen]
    have departed := lives_snoc_of_getElem? at_j (.dropReceiver c)
    rw [after_dropReceiver, ← done] at departed
    exact ⟨_, _, streams, departed, .left⟩

end

private theorem course_of_linked (distinct : Distinct b ms) (linked : AllLinked b ms) {j : Nat}
    {e : EventStream} (stream : ((Scene.ofBeginning b).play ms).streams[j]? = some e) {l : Life}
    (at_j : (lives b ((Scene.ofBeginning b).history ms))[j]? = some l) (link : Linked j e l)
    (m : Move) :
    ∃ e' l', ((Scene.ofBeginning b).play (ms ++ [m])).streams[j]? = some e' ∧
      (lives b ((Scene.ofBeginning b).history (ms ++ [m])))[j]? = some l' ∧
      Course j ((Scene.ofBeginning b).play ms).world.now e l m
        (((Scene.ofBeginning b).play ms).sight? j m) e' l' := by
  rw [Scene.play_snoc, Scene.history_snoc]
  by_cases polled : m = .poll j
  · subst polled
    have faithful := faithful_run b _ distinct.openings
    rw [← world_ofBeginning] at faithful
    exact course_poll stream at_j link (faithful.follows at_j).channel
  by_cases closed : m = .close j
  · subst closed
    exact course_close stream at_j link
  have numbered : ∀ k c, ((Scene.ofBeginning b).play ms).streams[k]?.bind EventStream.channel =
      some c → c = k := by
    intro k c known
    obtain ⟨e, stream, isOpen⟩ := Option.bind_eq_some_iff.mp known
    obtain ⟨l, -, link⟩ := linked k e stream
    exact (link.number isOpen).1
  have unseen : ((Scene.ofBeginning b).play ms).sight? j m = none := by
    cases m with
    | poll k => exact if_neg (by simpa using polled)
    | _ => rfl
  obtain ⟨kept, stays⟩ := actions_apart numbered polled closed
  obtain ⟨l', at_j', undisturbed⟩ := undisturbed_lives at_j kept stays
  rw [unseen]
  exact ⟨e, l', stream_move stream polled closed, at_j', .apart polled closed undisturbed⟩

theorem stream_new {s : Scene} {m : Move} {j : Nat} {e : EventStream}
    (stream : (s.move m).streams[j]? = some e) (new : ¬ j < s.streams.length) :
    ∃ config i o c, m = .pair config i ∧ j = s.streams.length ∧
      (Step.mk s.world.drawKey.2 (.openSession (nextRequest config i s.world))).opening? =
        some (nextRequest config i s.world, o, c) ∧
      e = streamOf config (nextSecret s.world) s.world.now o c := by
  have inside := (List.getElem?_eq_some_iff.mp stream).1
  have more : s.streams.length < (s.move m).streams.length := by omega
  cases m with
  | pair config i =>
    rw [Scene.streams_pair, List.getElem?_append_right (Nat.not_lt.mp new)] at stream
    have opening := opening?_eq s.world.drawKey.2 (.openSession (nextRequest config i s.world))
    cases check : s.world.drawKey.2.system.checkOpening (nextRequest config i s.world) with
    | error cause =>
      simp only [check] at opening
      rw [opening] at stream
      cases stream
    | ok _ =>
      simp only [check] at opening
      rw [opening, Option.map_some, Option.toList_some] at stream
      obtain ⟨first, same⟩ := List.getElem?_eq_some_iff.mp stream
      simp only [List.length_singleton, Nat.lt_one_iff] at first
      refine ⟨config, i, _, _, rfl, by omega, opening, ?_⟩
      rw [← same, List.getElem_singleton]
  | poll k =>
    simp only [Scene.move] at more
    split at more
    · simp at more
    · exact absurd more (Nat.lt_irrefl _)
  | close k =>
    simp only [Scene.move] at more
    split at more
    · simp at more
    · exact absurd more (Nat.lt_irrefl _)
  | service h => exact absurd more (Nat.lt_irrefl _)

/-- A stream begins with its session, of which nothing was received yet. -/
theorem linked_of_new {m : Move} (distinct : Distinct b (ms ++ [m])) {j : Nat} {e : EventStream}
    (stream : ((Scene.ofBeginning b).play (ms ++ [m])).streams[j]? = some e)
    (new : ¬ j < ((Scene.ofBeginning b).play ms).streams.length) :
    ∃ l, (lives b ((Scene.ofBeginning b).history (ms ++ [m])))[j]? = some l ∧ Linked j e l ∧
      l.channel.taken = 0 := by
  rw [Scene.play_snoc] at stream
  obtain ⟨config, i, o, c, rfl, rfl, opened, got⟩ := stream_new stream new
  have names := distinct.openings
  rw [Scene.history_snoc, Scene.actions, List.append_cons, world_ofBeginning] at names ⊢
  rw [world_ofBeginning] at opened got
  have drawn : run b.world ((Scene.ofBeginning b).history ms ++ [.drawKey]) =
      (run b.world ((Scene.ofBeginning b).history ms)).drawKey.2 := run_snoc _ _ _
  rw [← drawn] at opened
  have number := channel_of_opening (distinct_of_append names) opened
  have life := life_of_opening (distinct_of_append names) opened
  rw [length_lives_drawKey, ← length_streams] at number
  rw [number] at life
  refine ⟨_, life, ⟨?_, ?_, ?_, ?_⟩, rfl⟩
  · simp only [got, streamOf, Life.opening]
  · simp only [got, streamOf, Life.opening, nextRequest, Introduction.request]
  · simp only [got, streamOf, Life.opening, nextRequest, Introduction.request]
  · simp only [got, streamOf, Life.opening, if_true, number]

/-- Every stream belongs to the session with its number, as long as no name is drawn twice. -/
theorem linked_play (distinct : Distinct b ms) : AllLinked b ms := by
  induction ms using List.reverseRecOn with
  | nil =>
    intro j e stream
    cases stream
  | append_singleton ms m ih =>
    have linked := ih distinct.of_append
    intro j e stream
    by_cases old : j < ((Scene.ofBeginning b).play ms).streams.length
    · obtain ⟨l, at_j, link⟩ := linked j _ (List.getElem?_eq_getElem old)
      obtain ⟨e', l', stream', at_j', course⟩ :=
        course_of_linked distinct.of_append linked (List.getElem?_eq_getElem old) at_j link m
      rw [stream] at stream'
      obtain rfl := Option.some.inj stream'
      exact ⟨l', at_j', link.course course⟩
    · obtain ⟨l, at_j, link, -⟩ := linked_of_new distinct stream old
      exact ⟨l, at_j, link⟩

theorem course (distinct : Distinct b ms) {j : Nat} {e : EventStream}
    (stream : ((Scene.ofBeginning b).play ms).streams[j]? = some e) {l : Life}
    (at_j : (lives b ((Scene.ofBeginning b).history ms))[j]? = some l) (m : Move) :
    ∃ e' l', ((Scene.ofBeginning b).play (ms ++ [m])).streams[j]? = some e' ∧
      (lives b ((Scene.ofBeginning b).history (ms ++ [m])))[j]? = some l' ∧
      Course j ((Scene.ofBeginning b).play ms).world.now e l m
        (((Scene.ofBeginning b).play ms).sight? j m) e' l' := by
  have linked := linked_play distinct
  obtain ⟨l', at_j', link⟩ := linked j e stream
  rw [at_j] at at_j'
  obtain rfl := Option.some.inj at_j'
  exact course_of_linked distinct linked stream at_j link m

end

end DevicePairing.Client
