import DevicePairing.Proofs.Connection.Course

set_option autoImplicit false
set_option relaxedAutoImplicit false

/-!
One connection makes at most one call. What this means for the service, for what is written and for
the session of a stream is drawn from the course of the connection and from what a turn can do.
-/

namespace DevicePairing.Connection

open DevicePairing
open DevicePairing.Session

private theorem Course.written {w : World} {theirs : List Action} {h : Heard} {x : Serving}
    (course : Course w theirs h x) :
    ∃ (replies : List Reply) (items : List StreamItem),
      x.server.written = replies.map Reply.codec.write ++ items.map itemRecord ∧
        replies.length ≤ 1 ∧ (items ≠ [] → ∃ o, replies = [.opened o]) ∧
        ∀ y ∈ items.dropLast, ends y = false := by
  have unary : ∀ replies : List Reply, replies.length ≤ 1 →
      x.server.written = replies.map Reply.codec.write →
      ∃ (replies : List Reply) (items : List StreamItem),
        x.server.written = replies.map Reply.codec.write ++ items.map itemRecord ∧
          replies.length ≤ 1 ∧ (items ≠ [] → ∃ o, replies = [.opened o]) ∧
          ∀ y ∈ items.dropLast, ends y = false := by
    intro replies few told
    refine ⟨replies, [], ?_, few, fun some => absurd rfl some, nofun⟩
    rw [told, List.map_nil, List.append_nil]
  cases course with
  | waiting server => exact unary [] (Nat.zero_le _) (by rw [server]; rfl)
  | refused faulty stage reply =>
    rcases reply with none | ⟨e, one⟩
    · exact unary [] (Nat.zero_le _) none
    · exact unary [.error e] (Nat.le_refl _) one
  | answered before later call split single stage reply =>
    rcases reply with none | one
    · exact unary [] (Nat.zero_le _) none
    · exact unary [_] (Nat.le_refl _) one
  | @streaming o i v later all content rest items opens first server going =>
    refine ⟨[.opened o], items, by rw [server]; rfl, Nat.le_refl _, fun _ => ⟨o, rfl⟩, ?_⟩
    exact fun y member => going y (List.dropLast_subset _ member)
  | @left o i n v later all items last opens stage written going final =>
    refine ⟨[.opened o], items ++ last.toList, written, Nat.le_refl _, fun _ => ⟨o, rfl⟩, ?_⟩
    intro y member
    cases last with
    | none =>
      rw [Option.toList_none, List.append_nil] at member
      exact going y (List.dropLast_subset _ member)
    | some z =>
      rw [Option.toList_some, List.dropLast_concat] at member
      exact going y member

def withoutChannels (w : World) : World := w.withSystem { w.system with channels := [] }

private theorem withoutChannels_receive (w : World) (i : Nat) :
    withoutChannels (w.receive i).2 = withoutChannels w := by
  unfold Clock.Environment.receive
  split <;> rfl

private theorem run_closed {x : Serving} (closed : x.server.stage = .closed)
    (es : List Occurrence) :
    (x.run es).server.stage = .closed ∧ (x.run es).server.written = x.server.written ∧
      (x.run es).world = Session.run x.world (others es) := by
  induction es using List.reverseRecOn with
  | nil => exact ⟨closed, rfl, rfl⟩
  | append_singleton es e ih =>
    obtain ⟨stage, written, world⟩ := ih
    rw [Serving.run_snoc, others_append, Session.run_append, ← world]
    cases e with
    | other a => exact ⟨stage, written, rfl⟩
    | arrival segment =>
      rw [Serving.step]
      split <;> exact ⟨stage, written, rfl⟩
    | ending => exact ⟨stage, written, rfl⟩
    | turn preferClient =>
      rw [Serving.step, Serving.turn_closed stage]
      exact ⟨stage, written, rfl⟩

section

variable {w : World} {theirs : List Action} {h : Heard} {x : Serving} {i : Nat}
  (course : Course w theirs h x)
include course

private theorem server_of_receiving (stage : x.server.stage = .receiving) :
    x.server = .waiting h := by
  cases course with
  | waiting server => exact server
  | refused faulty closed => rw [closed] at stage; cases stage
  | answered before later call split single closed => rw [closed] at stage; cases stage
  | streaming items opens first server => rw [server] at stage; cases stage
  | left items last opens closed => rw [closed] at stage; cases stage

private theorem turn_changes (preferClient : Bool) :
    withoutChannels (x.turn preferClient).world = withoutChannels x.world ∨
      x.server.stage = .receiving ∧ ∃ m, h.Calls m ∧
        (x.turn preferClient).world = (m.action.perform x.world).2 := by
  cases stage : x.server.stage with
  | receiving =>
    have took := Serving.turn_waiting (server_of_receiving course stage) preferClient
    generalize x.turn preferClient = x' at took
    cases took with
    | nothing => exact .inl rfl
    | refused => exact .inl rfl
    | answered call => exact .inr ⟨rfl, _, call, rfl⟩
    | opened first call opened => exact .inr ⟨rfl, _, call, (congrArg Prod.snd opened).symm⟩
  | streaming i =>
    left
    have passed := Serving.turn_streaming stage preferClient
    generalize x.turn preferClient = x' at passed
    cases passed with
    | nothing => rfl
    | item => exact withoutChannels_receive x.world i
    | last => exact withoutChannels_receive x.world i
    | stopped => exact withoutChannels_receive x.world i
    | abandoned => rfl
  | closed =>
    left
    rw [Serving.turn_closed stage]

private theorem stream_cases (stage : x.server.stage = .streaming i) :
    (∃ o v later all, Opens w theirs h o i v later ∧ x.world = Session.run v all) ∧
      (∃ c, x.world.system.channels[i]? = some c) ∧
      (h.Interrupts → ∃ rest, x.server.reader = .having rest ∧
        (front rest ≠ .short ∨ x.server.ended = true)) := by
  cases course with
  | waiting server => rw [server] at stage; cases stage
  | refused faulty closed => rw [closed] at stage; cases stage
  | answered before later call split single closed => rw [closed] at stage; cases stage
  | left items last opens closed => rw [closed] at stage; cases stage
  | @streaming o j v later all content rest items opens first server going merged world =>
    rw [server] at stage ⊢
    cases stage
    refine ⟨⟨o, v, later, all, opens, world⟩, ?_, fun ⟨content', rest', first', after⟩ => ?_⟩
    · obtain ⟨r, before, -, -, same⟩ := opens
      have opened : openedChannel? (((CallMessage.pairDevice r).action).perform
          (Session.run w before)).1 = some i := by
        rw [CallMessage.action, same]
        rfl
      obtain ⟨-, c, at_i, -⟩ := channel_of_opened opened
      rw [CallMessage.action, same] at at_i
      rw [world]
      exact channel_run ⟨c, at_i⟩ all
    · cases first.symm.trans first'
      exact ⟨rest, rfl, after⟩

private theorem turn_of_preferred (stage : x.server.stage = .streaming i) (more : h.Interrupts) :
    (x.turn true).server.stage = .closed ∧ (x.turn true).server.written = x.server.written ∧
      (x.turn true).world = x.world.dropReceiver i := by
  obtain ⟨rest, reader, after⟩ := (stream_cases course stage).2.2 more
  obtain ⟨-, reader', turned⟩ := Serving.turn_interrupted stage reader after
  rw [turned]
  exact ⟨rfl, rfl, rfl⟩

private theorem turn_of_interrupts (stage : x.server.stage = .streaming i) (more : h.Interrupts)
    (preferClient : Bool) :
    (x.turn preferClient).server.stage = .closed ∨
      (x.turn preferClient).server.stage = .streaming i ∧
        (x.turn preferClient).world = (x.world.receive i).2 ∧
        ∃ y, (x.world.receive i).1 = .item y := by
  obtain ⟨rest, reader, after⟩ := (stream_cases course stage).2.2 more
  obtain ⟨heard, -⟩ := Serving.turn_interrupted stage reader after
  have passed := Serving.turn_streaming stage preferClient
  generalize x.turn preferClient = x' at passed
  cases passed with
  | nothing silent => exact absurd silent heard
  | item found => exact .inr ⟨stage, rfl, _, found⟩
  | _ => exact .inl rfl

end

private theorem world_of_closed {x : Serving} {i : Nat} (stage : x.server.stage = .streaming i)
    {preferClient : Bool} (closed : (x.turn preferClient).server.stage = .closed) :
    ∃ as, (x.turn preferClient).world = Session.run x.world (as ++ [.dropReceiver i]) := by
  have passed := Serving.turn_streaming stage preferClient
  generalize x.turn preferClient = x' at passed closed
  cases passed with
  | nothing => rw [stage] at closed; cases closed
  | item => simp only [stage] at closed; cases closed
  | last => exact ⟨[.receive i], rfl⟩
  | stopped => exact ⟨[.receive i], rfl⟩
  | abandoned => exact ⟨[], rfl⟩

private theorem taken_of_received {w : World} {i : Nat} {y : StreamItem}
    (found : (w.receive i).1 = .item y) :
    ∃ c c', w.system.channels[i]? = some c ∧ (w.receive i).2.system.channels[i]? = some c' ∧
      c'.taken = c.taken + 1 ∧ c'.taken ≤ c'.sent.length := by
  have here : Clock.Tasks.channel? w.system i = w.system.channels[i]? := rfl
  cases at_i : w.system.channels[i]? with
  | none =>
    rw [Clock.Environment.receive, here, at_i] at found
    cases found
  | some c =>
    have channel : ((w.receive i).2).system.channels[i]? = some c.receive.2 := by
      simp only [Clock.Environment.receive, here, at_i]
      show (w.system.modifyChannel i fun c => c.receive.2).channels[i]? = some c.receive.2
      rw [Service.modifyChannel, List.getElem?_modify_eq, at_i]
      rfl
    rw [Clock.Environment.receive, here, at_i] at found
    have first : c.receive.1 = .item y := found
    refine ⟨c, _, rfl, channel, ?_⟩
    rcases c.receive_cases with ⟨z, next, same⟩ | same | same
    · rw [same]
      exact ⟨rfl, (List.getElem?_eq_some_iff.mp next).1⟩
    · rw [same] at first
      cases first
    · rw [same] at first
      cases first

private def Counted (i n : Nat) (w : World) : Prop :=
  n = 0 ∨ ∃ c, w.system.channels[i]? = some c ∧ n ≤ c.taken ∧ c.taken ≤ c.sent.length

private theorem Counted.receive {i n : Nat} {w : World} (counted : Counted i n w) {y : StreamItem}
    (found : (w.receive i).1 = .item y) : Counted i (n + 1) (w.receive i).2 := by
  obtain ⟨c, c', at_i, at_i', taken, inside⟩ := taken_of_received found
  refine .inr ⟨c', at_i', ?_, inside⟩
  rcases counted with rfl | ⟨c₀, at_i₀, some, -⟩
  · omega
  · obtain rfl := Option.some.inj (at_i.symm.trans at_i₀)
    omega

private theorem Counted.other {i n : Nat} {w : World} (counted : Counted i n w) (a : Action) :
    Counted i n (a.perform w).2 := by
  rcases counted with none | ⟨c, at_i, some, inside⟩
  · exact .inl none
  · obtain ⟨c', at_i', goes⟩ := a.channel_goesOn at_i
    exact .inr ⟨c', at_i', Nat.le_trans some goes.taken, goes.ahead inside⟩

private theorem counted_run (b : Beginning) (start : List Action) (es : List Occurrence) {i : Nat}
    {x : Serving} (reached : (Serving.accept (Session.run b.world start)).run es = x)
    (stage : x.server.stage = .streaming i) (spoke : (heard es).Interrupts)
    (more : List Occurrence) :
    (x.run more).server.stage = .closed ∨ (x.run more).server.stage = .streaming i ∧
      (heard (es ++ more)).Interrupts ∧ Counted i (turns more) (x.run more).world := by
  induction more using List.reverseRecOn with
  | nil =>
    rw [List.append_nil]
    exact .inr ⟨stage, spoke, .inl rfl⟩
  | append_singleton more e ih =>
    have course := course_run b start (es ++ more)
    rw [Serving.run_append, reached] at course
    have count : turns (more ++ [e]) = turns more + turns [e] := List.countP_append
    rw [Serving.run_snoc, ← List.append_assoc, heard_snoc, count]
    rcases ih with closed | ⟨stage, spoke, counted⟩
    · exact .inl (run_closed closed [e]).1
    · have spoke' := spoke.hear e
      cases e with
      | other a => exact .inr ⟨stage, spoke', counted.other a⟩
      | arrival segment =>
        right
        rw [Serving.step]
        split <;> exact ⟨stage, spoke', counted⟩
      | ending => exact .inr ⟨stage, spoke', counted⟩
      | turn preferClient =>
        rcases turn_of_interrupts course stage spoke preferClient with
          closed | ⟨stage', world, y, found⟩
        · exact .inl closed
        · refine .inr ⟨stage', spoke', ?_⟩
          rw [Serving.step, world]
          exact counted.receive found

/-- In the world `v` the new device has gone whose session a connection opened. If the session still
waits and was not opened again, it holds a sender of the channel that is deserted. -/
structure Leaves (w : World) (theirs : List Action) (h : Heard) (i : Nat) (v : World) : Prop where
  deserted : Deserted v i
  session : ∃ o u later all, Opens w theirs h o i u later ∧ v = Session.run u all ∧
    (o.session ∉ openings (steps u all) → ∀ e, v.system.sessions.get? o.session = some e →
      e.state = .awaitingApproval → e.sender = some i)

/-- What holds of a connection `x` that was accepted in the world `w`, after some occurrences. -/
structure OneCall (w : World) (es : List Occurrence) (x : Serving) : Prop where
  course : Course w (others es) (heard es) x
  /-- At most one reply is written, and items of a stream only after the reply that a session was
  opened. Only the last of them ends the stream. -/
  written : ∃ (replies : List Reply) (items : List StreamItem),
    x.server.written = replies.map Reply.codec.write ++ items.map itemRecord ∧
      replies.length ≤ 1 ∧ (items ≠ [] → ∃ o, replies = [.opened o]) ∧
      ∀ y ∈ items.dropLast, ends y = false
  /-- A server that waits for the call goes on as soon as there is a whole record or a fault. -/
  takes : ∀ preferClient, x.server.stage = .receiving →
    (x.turn preferClient).server.stage = .receiving →
    front (heard es).octets = .short ∧ (heard es).ended = false
  /-- The server changes nothing but channels, except that it makes the call of the first record. -/
  changes : ∀ preferClient,
    withoutChannels (x.turn preferClient).world = withoutChannels x.world ∨
      x.server.stage = .receiving ∧ ∃ m, (heard es).Calls m ∧
        (x.turn preferClient).world = (m.action.perform x.world).2
  ignores : x.server.stage = .closed → ∀ more, (x.run more).server.stage = .closed ∧
    (x.run more).server.written = x.server.written ∧
    (x.run more).world = Session.run x.world (others more)
  /-- What comes during a stream ends it, at once if it counts before the items that wait, and after
  them otherwise. -/
  heeds : ∀ i, x.server.stage = .streaming i → (heard es).Interrupts →
    ((x.turn true).server.stage = .closed ∧ (x.turn true).server.written = x.server.written ∧
      (x.turn true).world = x.world.dropReceiver i) ∧
    ∀ more c, (x.run more).world.system.channels[i]? = some c → c.sent.length < turns more →
      (x.run more).server.stage = .closed
  /-- When a stream ends, the session that is left can only expire. -/
  leaves : ∀ i preferClient, x.server.stage = .streaming i →
    (x.turn preferClient).server.stage = .closed →
    Leaves w (others es) (heard es) i (x.turn preferClient).world

private theorem leaves_of_closed {b : Beginning} {start : List Action} {theirs : List Action}
    {h : Heard} {x : Serving} (course : Course (Session.run b.world start) theirs h x) {i : Nat}
    (stage : x.server.stage = .streaming i) {preferClient : Bool}
    (closed : (x.turn preferClient).server.stage = .closed) :
    Leaves (Session.run b.world start) theirs h i (x.turn preferClient).world := by
  obtain ⟨as, after⟩ := world_of_closed stage closed
  obtain ⟨⟨o, u, later, all, opens, world⟩, channel, -⟩ := stream_cases course stage
  obtain ⟨known, reached⟩ := course.reachable
  rw [after]
  constructor
  · have gone := gone_dropReceiver (channel_run channel as)
    rw [reached, ← Session.run_append] at gone ⊢
    rw [← List.append_assoc]
    refine deserted_of_gone ?_
    rw [Session.run_snoc]
    exact gone
  · have whole : Session.run x.world (as ++ [.dropReceiver i]) =
        Session.run u (all ++ (as ++ [.dropReceiver i])) := by
      rw [world, ← Session.run_append]
    refine ⟨o, u, later, _, opens, whole, fun other e entry state => ?_⟩
    obtain ⟨r, before, -, -, opened⟩ := opens
    rw [whole] at entry
    exact sender_of_opened opened other entry state

/-- Whatever a peer sends, however it is cut, and whatever others do meanwhile, a connection makes
at most one call. -/
theorem one_call_per_connection (b : Beginning) (start : List Action) (es : List Occurrence) :
    OneCall (Session.run b.world start) es
      ((Serving.accept (Session.run b.world start)).run es) := by
  have course := course_run b start es
  generalize reached : (Serving.accept (Session.run b.world start)).run es = x at course ⊢
  refine ⟨course, course.written, ?_, turn_changes course, run_closed, ?_, ?_⟩
  · intro preferClient waits still
    have took := Serving.turn_waiting (server_of_receiving course waits) preferClient
    generalize x.turn preferClient = x' at took still
    cases took with
    | nothing undecided unended => exact ⟨undecided, unended⟩
    | _ => cases still
  · intro i stage spoke
    refine ⟨turn_of_preferred course stage spoke, fun more c at_i enough => ?_⟩
    rcases counted_run b start es reached stage spoke more with closed | ⟨-, -, counted⟩
    · exact closed
    · rcases counted with none | ⟨c', at_i', some, inside⟩
      · omega
      · obtain rfl := Option.some.inj (at_i.symm.trans at_i')
        omega
  · intro i preferClient stage closed
    exact leaves_of_closed course stage closed

end DevicePairing.Connection
