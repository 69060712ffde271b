import DevicePairing.Proofs.Connection.Streaming

set_option autoImplicit false
set_option relaxedAutoImplicit false

/-!
A call over a connection comes to the same as the call made directly at the moment at which the
server takes it: the same answer, the same world, and a stream of the same items up to the one that
ends it.
-/

namespace DevicePairing.Connection

open DevicePairing
open DevicePairing.Session

/-- A connection on which the call was not taken. -/
structure Calling (m : CallMessage) (w : World) (k : Link) : Prop where
  world : k.world = w
  stage : k.server.stage = .receiving
  unended : k.server.ended = false
  unwritten : k.server.written = []
  reader : k.server.reader.Awaits k.upstream [CallMessage.codec.write m]
  client : k.client = .calling m
  silent : k.downstream = []

namespace Calling

variable {m : CallMessage} {w : World} {k : Link}

private theorem dial {octets : Bytes} (written : Client.writeCall m = .ok octets) (w : World) :
    Calling m w (Link.dial w m octets) := by
  obtain ⟨fits, rfl⟩ := writeRecord_eq_ok.mp (Results.mapError_eq_ok.mp written)
  refine ⟨rfl, rfl, rfl, rfl, .fresh fun content member => ?_, rfl, rfl⟩
  rwa [List.mem_singleton.mp member]

private theorem turn (h : Calling m w k) (preferClient : Bool) :
    (k.server.step? preferClient k.world = none ∧ k.upstream ≠ []) ∨
      ∃ reader : RecordReader, reader.Awaits k.upstream [] ∧ k.server.step? preferClient k.world =
        some ((⟨reader, false, [], .receiving⟩ : ServerSide).handle (CallMessage.codec.write m)
          k.world) := by
  rw [ServerSide.step?, h.stage, h.unended, h.unwritten]
  rcases h.reader.next (fun ended : false = true => absurd ended Bool.false_ne_true) with
    ⟨content, more, reader, same, next, awaits⟩ | ⟨next, -, finished⟩ | ⟨-, ended, -⟩
  · obtain ⟨rfl, rfl⟩ := List.cons.inj same
    rw [next]
    exact .inr ⟨reader, awaits, rfl⟩
  · left
    generalize k.server.reader.next false = found at next
    obtain ⟨finding, reader⟩ := found
    obtain rfl : finding = .pending := next
    exact ⟨rfl, fun none => by cases finished none⟩
  · cases ended

private theorem client_stuck (h : Calling m w k) : k.client.step? k.isDrained = none := by
  have undrained : k.isDrained = false := by
    rw [Link.isDrained, h.stage]
    rfl
  rw [undrained, h.client]
  rfl

private theorem step (h : Calling m w k) {e : Event}
    (untaken : ∀ p, e = .serverTurn p → k.server.step? p k.world = none) :
    Calling m (Session.run w (actions [e])) (k.step e) := by
  cases e with
  | action a => exact { h with world := by rw [← h.world]; rfl }
  | carryUp n => exact { h with reader := h.reader.push n }
  | carryDown n =>
    refine { h with client := ?_, silent := ?_ }
    · rw [Link.step, h.silent, h.client, List.take_nil]
      rfl
    · rw [Link.step, h.silent, List.drop_nil]
  | serverTurn p =>
    rw [Link.step, untaken p rfl]
    exact h
  | clientTurn =>
    rw [Link.step, h.client_stuck]
    exact h
  | hangUp =>
    have going : k.client.isOver = false := by
      rw [h.client]
      rfl
    rw [Link.step, going, if_neg Bool.false_ne_true]
    exact h

end Calling

section

variable {m : CallMessage} {s : ServerSide} {w : World}

private theorem stage_close (s : ServerSide) (w : World) : (s.close w).1.stage = .closed := by
  unfold ServerSide.close
  split <;> rfl

private theorem stage_handle (known : Fits (CallMessage.codec.write m)) :
    (s.handle (CallMessage.codec.write m) w).1.stage ≠ .receiving := by
  simp only [ServerSide.handle, CallMessage.decode_write known]
  split
  · rw [ServerSide.writeLast, stage_close]
    exact fun same => by cases same
  · split
    · rename_i c written
      unfold ServerSide.write? at written
      split at written
      · cases written
        exact fun same => by cases same
      · cases written
    · rw [stage_close]
      exact fun same => by cases same

private theorem stage_step? {p : Bool} {s' : ServerSide} {w' : World} (taken : s.stage ≠ .receiving)
    (step : s.step? p w = some (s', w')) : s'.stage ≠ .receiving := by
  have abandoned : ∀ x, s.abandon? w = some x → x.1.stage ≠ .receiving := by
    intro x same
    unfold ServerSide.abandon? at same
    split at same
    · cases same
    · cases same
      rw [stage_close]
      exact nofun
  have forwarded : ∀ i x, s.forward? i w = some x → x.1.stage ≠ .receiving := by
    intro i x same
    unfold ServerSide.forward? at same
    split at same
    · cases same
    · cases same
      rw [stage_close]
      exact nofun
    · simp only at same
      split at same
      · cases same
        rw [stage_close]
        exact nofun
      · rename_i c written
        unfold ServerSide.write? at written
        split at written
        · cases written
          cases same
          split
          · rw [stage_close]
            exact nofun
          · exact taken
        · cases written
  cases stage : s.stage with
  | receiving => exact absurd stage taken
  | closed =>
    rw [ServerSide.step?, stage] at step
    cases step
  | streaming i =>
    simp only [ServerSide.step?, stage] at step
    split at step
    · rcases Option.or_eq_some_iff.mp (Option.orElse_eq_or ▸ step) with first | ⟨-, second⟩
      · exact abandoned _ first
      · exact forwarded i _ second
    · rcases Option.or_eq_some_iff.mp (Option.orElse_eq_or ▸ step) with first | ⟨-, second⟩
      · exact forwarded i _ first
      · exact abandoned _ second

end

/-- A connection that was closed after its only reply. -/
structure Answered (m : CallMessage) (reply : Reply) (v : World) (k : Link) : Prop where
  world : k.world = v
  stage : k.server.stage = .closed
  call : k.client.call = m
  single : m.streams reply.received = false
  hears : Hears reply [] true k.downstream k.client

namespace Answered

variable {m : CallMessage} {reply : Reply} {v : World} {k : Link}

private theorem telling (m : CallMessage) (reply : Reply) : Telling m reply [] true where
  proper := nofun
  last := fun heard cause left split => by cases heard <;> cases split
  single := fun _ => ⟨rfl, rfl⟩

private theorem drained (last : k.isDrained = true) : k.downstream = [] ∧ true = true :=
  ⟨List.isEmpty_iff.mp (Bool.and_eq_true_iff.mp last).2, rfl⟩

private theorem step (h : Answered m reply v k) (e : Event) :
    Answered m reply (Session.run v (actions [e])) (k.step e) := by
  cases e with
  | action a => exact { h with world := by rw [← h.world]; rfl }
  | carryUp n => exact { h with }
  | carryDown n => exact { h with hears := h.hears.push n }
  | serverTurn p =>
    have none : k.server.step? p k.world = none := by rw [ServerSide.step?, h.stage]
    rw [Link.step, none]
    exact h
  | clientTurn =>
    exact
      { h with
        call := (k.client.call_step? k.isDrained).trans h.call
        hears := h.hears.step (telling k.client.call reply) drained }
  | hangUp =>
    rw [Link.step]
    split
    · exact { h with }
    · exact h

private theorem run (h : Answered m reply v k) (es : List Event) :
    Answered m reply (Session.run v (actions es)) (k.run es) := by
  induction es using List.reverseRecOn with
  | nil => exact h
  | append_singleton es e ih =>
    rw [actions_append, Session.run_append, Link.run_snoc]
    exact ih.step e

end Answered

/-- What a direct caller finds when a session is opened: the last channel, with nothing taken. -/
theorem channel_of_opened {m : CallMessage} {w : World} {i : Nat}
    (opened : openedChannel? (m.action.perform w).1 = some i) :
    m.streams (ServerSide.answer m w).1.1.received = true ∧
      ∃ c, (m.action.perform w).2.system.channels[i]? = some c ∧ c.taken = 0 ∧
        ∀ x ∈ c.sent, Proper x := by
  cases m with
  | pairDevice r =>
    simp only [ServerSide.answer, CallMessage.action, Action.perform, Transport.Direct.pairDevice,
      Service.openSession_eq] at opened ⊢
    cases check : w.system.checkOpening r with
    | error cause =>
      rw [check] at opened
      cases opened
    | ok _ =>
      rw [check] at opened
      obtain rfl := Option.some.inj opened
      refine ⟨rfl, (Life.opening w.system.config (Service.nextName w.entropy) r w.now).channel, ?_,
        rfl, ?_⟩
      · simp only [Except.map, Service.accept, List.getElem?_append_right (Nat.le_refl _),
          Nat.sub_self, List.getElem?_cons_zero]
      · intro x member
        simp only [Life.opening, Life.prelude] at member
        split at member
        · rw [List.mem_singleton.mp member]
          exact .inr ⟨_, rfl⟩
        · cases member
  | _ => cases opened

private theorem single_of_unopened {m : CallMessage} {w : World}
    (unopened : openedChannel? (m.action.perform w).1 = none) :
    m.streams (ServerSide.answer m w).1.1.received = false := by
  cases m with
  | pairDevice r =>
    simp only [ServerSide.answer, CallMessage.action, Action.perform, Transport.Direct.pairDevice,
      Service.openSession_eq] at unopened ⊢
    cases check : w.system.checkOpening r with
    | error cause => rfl
    | ok _ =>
      rw [check] at unopened
      cases unopened
  | _ => rfl

/-- All that a direct caller would find in the channel `i` fits into records, and nobody else is at
its receiver. -/
structure Undisturbed (i : Nat) (w : World) (later : List Action) : Prop where
  other : ∀ a ∈ later, a.isAt i = false
  fits : ∀ c, (Session.run w later).system.channels[i]? = some c → ∀ x ∈ c.sent, Fits (itemRecord x)

/-- The client got the items that a direct caller finds in the channel `c`, up to the first that
ends the stream, and then its own channel is closed. -/
structure Streamed (c : Channel) (k : Link) : Prop where
  first : k.client.items <+: untilEnd c.sent
  stopped : k.client.isOver = true →
    k.client.items = untilEnd c.sent ∧ ((∃ x ∈ c.sent, ends x = true) ∨ c.senders = 0)
  quiet : k.Quiet →
    k.client.items = untilEnd c.sent ∧
      ((∃ x ∈ c.sent, ends x = true) ∨ c.senders = 0 → k.client.isOver = true)

/-- The call `m`, which was taken in the world `w`, and which a direct caller would see go on in the
world `v`. -/
structure Outcome (m : CallMessage) (w v : World) (k : Link) : Prop where
  told : ∀ r, k.client.reply = some r →
    m.told w.system.channels.length r = (m.action.perform w).1
  returns : k.Quiet → k.client.reply ≠ none
  /-- Without a session nothing else comes, and the world stays that of a direct caller. -/
  single : openedChannel? (m.action.perform w).1 = none →
    k.world = v ∧ k.client.items = [] ∧ (k.Quiet → k.client.isOver = true)
  streamed : ∀ i, openedChannel? (m.action.perform w).1 = some i →
    ∃ c, v.system.channels[i]? = some c ∧ Streamed c k

/-- The call `m` over a connection, which is written in the world `w`, agrees with the same call
made directly. -/
structure Agreement (w : World) (m : CallMessage) (octets : Bytes) : Prop where
  /-- As long as the server has not taken the call, nothing comes of it. It is taken at the next turn
  of the server when all its octets have come. -/
  untaken : ∀ (es : List Event) (k : Link),
    k = (Link.dial w m octets).run es → k.server.stage = .receiving →
    k.world = Session.run w (actions es) ∧ k.client = .calling m ∧ ¬ k.Quiet ∧
      ∀ p, ((k.step (.carryUp k.upstream.length)).step (.serverTurn p)).server.stage ≠ .receiving
  /-- At the turn at which the server takes the call it leaves the world that the same call made
  directly would leave, and from then on it comes to the same. -/
  taken : ∀ (es : List Event) (p : Bool) (later : List Event) (k : Link),
    k = (Link.dial w m octets).run es → k.server.stage = .receiving →
    (k.step (.serverTurn p)).server.stage ≠ .receiving →
    Fits (Reply.codec.write (ServerSide.answer m k.world).1.1) →
    (k.step (.serverTurn p)).world = (m.action.perform k.world).2 ∧
      ((∀ i, openedChannel? (m.action.perform k.world).1 = some i →
          Undisturbed i (k.step (.serverTurn p)).world (actions later)) →
        Outcome m k.world (Session.run (k.step (.serverTurn p)).world (actions later))
          ((k.step (.serverTurn p)).run later))

private theorem stage_step {k : Link} (taken : k.server.stage ≠ .receiving) (e : Event) :
    (k.step e).server.stage ≠ .receiving := by
  cases e with
  | serverTurn p =>
    rw [Link.step]
    cases step : k.server.step? p k.world with
    | none => exact taken
    | some x => exact stage_step? taken step
  | hangUp =>
    rw [Link.step]
    split
    · exact taken
    · exact taken
  | _ => exact taken

private theorem calling_run {m : CallMessage} {w : World} {octets : Bytes}
    (written : Client.writeCall m = .ok octets) (es : List Event)
    (stage : ((Link.dial w m octets).run es).server.stage = .receiving) :
    Calling m (Session.run w (actions es)) ((Link.dial w m octets).run es) := by
  induction es using List.reverseRecOn with
  | nil => exact .dial written w
  | append_singleton es e ih =>
    rw [Link.run_snoc] at stage ⊢
    rw [actions_append, Session.run_append]
    have before : ((Link.dial w m octets).run es).server.stage = .receiving := by
      by_contra taken
      exact stage_step taken e stage
    have calling := ih before
    refine calling.step ?_
    rintro p rfl
    rcases calling.turn p with ⟨none, -⟩ | ⟨reader, -, found⟩
    · exact none
    · have known : Fits (CallMessage.codec.write m) :=
        calling.reader.fits _ List.mem_cons_self
      rw [Link.step, found] at stage
      exact absurd stage (stage_handle known)

namespace Calling

variable {m : CallMessage} {w : World} {k : Link}

private theorem not_quiet (h : Calling m w k) : ¬ k.Quiet := by
  intro quiet
  rcases h.turn true with ⟨-, coming⟩ | ⟨reader, -, found⟩
  · exact coming quiet.upstream
  · rw [quiet.server true] at found
    cases found

private theorem taken_when_carried (h : Calling m w k) (p : Bool) :
    ((k.step (.carryUp k.upstream.length)).step (.serverTurn p)).server.stage ≠ .receiving := by
  have known : Fits (CallMessage.codec.write m) := h.reader.fits _ List.mem_cons_self
  have carried := h.step (e := .carryUp k.upstream.length) fun _ same => by cases same
  have all : (k.step (.carryUp k.upstream.length)).upstream = [] := List.drop_length
  generalize k.step (.carryUp k.upstream.length) = k' at carried all
  rcases carried.turn p with ⟨-, coming⟩ | ⟨reader, -, found⟩
  · exact absurd all coming
  · rw [Link.step, found]
    exact stage_handle known

end Calling

private theorem viewed_untaken {v : World} {i : Nat} {c : Channel}
    (at_i : v.system.channels[i]? = some c) (untaken : c.taken = 0) : viewed v i 0 = v := by
  have same : v.system.viewed i 0 = v.system := by
    have kept : v.system.modifyChannel i id = v.system :=
      congrArg (fun channels => { v.system with channels := channels }) (List.modify_id i _)
    refine (Service.modifyChannel_congr at_i ?_).trans kept
    rw [← untaken]
    rfl
  rw [viewed, same]
  rfl

private theorem taken_turn {m : CallMessage} {w : World} {k : Link} (calling : Calling m w k)
    {p : Bool} (taken : (k.step (.serverTurn p)).server.stage ≠ .receiving)
    (fits : Fits (Reply.codec.write (ServerSide.answer m w).1.1)) :
    (k.step (.serverTurn p)).world = (m.action.perform w).2 ∧
      (openedChannel? (m.action.perform w).1 = none →
        Answered m (ServerSide.answer m w).1.1 (m.action.perform w).2 (k.step (.serverTurn p))) ∧
      ∀ i, openedChannel? (m.action.perform w).1 = some i → w.system.Owned [] →
        Streams m (ServerSide.answer m w).1.1 i (m.action.perform w).2
          (k.step (.serverTurn p)) := by
  obtain ⟨-, channel, world⟩ := answer_eq m w
  have known : Fits (CallMessage.codec.write m) := calling.reader.fits _ List.mem_cons_self
  rcases calling.turn p with ⟨none, -⟩ | ⟨reader, awaits, found⟩
  · rw [Link.step, none] at taken
    exact absurd calling.stage taken
  · rw [calling.world] at found
    have call : k.client.call = m := by
      rw [calling.client]
      rfl
    have hears : ∀ closed, Hears (ServerSide.answer m w).1.1 [] closed
        (framed [Reply.codec.write (ServerSide.answer m w).1.1]) k.client := by
      intro closed
      rw [calling.client]
      refine .waiting rfl rfl rfl (.fresh fun content member => ?_)
      rwa [List.mem_singleton.mp member]
    cases opened : openedChannel? (m.action.perform w).1 with
    | none =>
      rw [opened] at channel
      rw [handle_single (CallMessage.decode_write known) channel rfl fits] at found
      have step : k.step (.serverTurn p) =
          { k with
            server := ⟨reader, false, [Reply.codec.write (ServerSide.answer m w).1.1], .closed⟩
            world := (ServerSide.answer m w).2
            downstream := framed [Reply.codec.write (ServerSide.answer m w).1.1] } := by
        rw [Link.step, calling.world, found, calling.silent, calling.unwritten]
        rfl
      rw [step]
      refine ⟨world, fun _ => ⟨world, rfl, call, single_of_unopened opened, hears true⟩,
        fun _ impossible => by cases impossible⟩
    | some i =>
      rw [opened] at channel
      rw [handle_stream (CallMessage.decode_write known) channel fits] at found
      have step : k.step (.serverTurn p) =
          { k with
            server := ⟨reader, false, [Reply.codec.write (ServerSide.answer m w).1.1], .streaming i⟩
            world := (ServerSide.answer m w).2
            downstream := framed [Reply.codec.write (ServerSide.answer m w).1.1] } := by
        rw [Link.step, calling.world, found, calling.silent, calling.unwritten]
        rfl
      rw [step]
      refine ⟨world, (fun impossible => by cases impossible), fun j same owned => ?_⟩
      obtain rfl := Option.some.inj same
      obtain ⟨streams, c, at_i, untaken, proper⟩ := channel_of_opened opened
      refine ⟨call, streams, m.action.owned owned, c, [], false, at_i, proper, ?_, hears false⟩
      refine .going rfl ?_ awaits rfl List.nil_prefix fun _ member => by cases member
      exact world.trans (viewed_untaken at_i untaken).symm

/-- A call over a connection agrees with the same call made directly. -/
theorem connection_agrees_with_direct {b : Beginning} {before : List Action} {m : CallMessage}
    {octets : Bytes} (written : Client.writeCall m = .ok octets) :
    Agreement (Session.run b.world before) m octets where
  untaken := by
    rintro es k rfl stage
    have calling := calling_run written es stage
    exact ⟨calling.world, calling.client, calling.not_quiet, calling.taken_when_carried⟩
  taken := by
    rintro es p later k rfl stage taken fits
    have calling := calling_run written es stage
    have owned : ((Link.dial (Session.run b.world before) m octets).run es).world.system.Owned [] := by
      rw [calling.world, ← Session.run_append]
      exact owned_run b (before ++ actions es)
    have calling_here := calling
    rw [← calling.world] at calling_here
    obtain ⟨told, -, -⟩ := answer_eq m ((Link.dial (Session.run b.world before) m octets).run es).world
    obtain ⟨world, answered, streams⟩ := taken_turn calling_here taken fits
    refine ⟨world, fun undisturbed => ?_⟩
    rw [world] at undisturbed ⊢
    cases opened : openedChannel? (m.action.perform
        ((Link.dial (Session.run b.world before) m octets).run es).world).1 with
    | none =>
      have final := (answered opened).run later
      have quiet := fun quiet : Link.Quiet _ =>
        final.hears.quiet (Answered.telling _ _) Answered.drained quiet.downstream quiet.client
      refine ⟨?_, ?_, fun _ => ⟨final.world, List.prefix_nil.mp final.hears.heard.2, ?_⟩, ?_⟩
      · intro r replied
        rw [final.hears.heard.1 r replied, told]
      · intro still none
        rw [(quiet still).1] at none
        cases none
      · intro still
        refine (quiet still).2.2.2 ?_
        rw [Link.isDrained, final.stage, still.downstream]
        rfl
      · intro i same
        rw [opened] at same
        cases same
    | some i =>
      have final := (streams i opened owned).run later (undisturbed i opened).other
        (undisturbed i opened).fits
      obtain ⟨same, returns, c, at_i, first, stopped, quiet⟩ := final.outcome (undisturbed i opened).fits
      refine ⟨?_, ?_, ?_, ?_⟩
      · intro r replied
        rw [same r replied, told]
      · intro still none
        rw [returns still] at none
        cases none
      · intro unopened
        rw [opened] at unopened
        cases unopened
      · intro j same
        rw [opened] at same
        obtain rfl := Option.some.inj same
        exact ⟨c, at_i, first, stopped, quiet⟩

namespace Sample

def call : CallMessage := .pairDevice Session.Sample.request

def octets : Bytes := framed [CallMessage.codec.write call]

def rejection : SignedRequest :=
  SignedRequest.sealBody RejectionBody.codec
    (Credentials.enroll Session.Sample.authority 0 ⟨Key.ofNat 2⟩ "hub" "") .rejectPairing
    ⟨Session.Sample.session, "unknown lamp"⟩

/-- A call that comes in two segments is taken, and the session is rejected before the client has
heard of it. -/
def rejected : List Event :=
  [.carryUp 7, .carryUp 1000, .serverTurn true, .serverTurn true, .action (.service (.reject rejection)),
    .serverTurn true, .carryDown 1000, .clientTurn, .clientTurn, .clientTurn]

end Sample

/-- The agreement on a session that is rejected while its items are passed on. -/
theorem connection_agrees_with_direct_of_rejected :
    Client.writeCall Sample.call = .ok Sample.octets ∧
      Agreement (Session.run Session.Sample.beginning.world
        [.service (.register Session.Sample.authority)]) Sample.call Sample.octets ∧
      ((Link.dial (Session.run Session.Sample.beginning.world
        [.service (.register Session.Sample.authority)]) Sample.call Sample.octets).run
          Sample.rejected).client.items.map ends = [false, true] :=
  have written : Client.writeCall Sample.call = .ok Sample.octets := by decide +kernel
  ⟨written, connection_agrees_with_direct written, by decide +kernel⟩

end DevicePairing.Connection
