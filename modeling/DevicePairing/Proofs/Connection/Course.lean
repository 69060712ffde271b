import DevicePairing.Proofs.Connection.Serving

set_option autoImplicit false
set_option relaxedAutoImplicit false

namespace DevicePairing.Connection

open DevicePairing
open DevicePairing.Session

/-- The last list is the first two, merged in some way. -/
inductive Merged : List Action → List Action → List Action → Prop where
  | nil : Merged [] [] []
  | own {own theirs all : List Action} (h : Merged own theirs all) (a : Action) :
      Merged (own ++ [a]) theirs (all ++ [a])
  | other {own theirs all : List Action} (h : Merged own theirs all) (a : Action) :
      Merged own (theirs ++ [a]) (all ++ [a])

/-- The first record was the call to open a session. It was made before others did `later`, and it
left the world `v`. -/
def Opens (w : World) (theirs : List Action) (h : Heard) (o : Opened) (i : Nat) (v : World)
    (later : List Action) : Prop :=
  ∃ r before, h.Calls (.pairDevice r) ∧ theirs = before ++ later ∧
    (Action.openSession r).perform (Session.run w before) = (.opened (.ok (o, i)), v)

/-- The course of a connection that was accepted in the world `w`, after others did `theirs` and `h`
was heard from the peer. -/
inductive Course (w : World) (theirs : List Action) (h : Heard) (x : Serving) : Prop where
  | waiting (server : x.server = .waiting h) (world : x.world = Session.run w theirs)
  | refused (faulty : h.Faulty) (stage : x.server.stage = .closed)
      (reply : x.server.written = [] ∨ ∃ e, x.server.written = [Reply.codec.write (.error e)])
      (world : x.world = Session.run w theirs)
  | answered {m : CallMessage} (before later : List Action) (call : h.Calls m)
      (split : theirs = before ++ later)
      (single : openedChannel? (m.action.perform (Session.run w before)).1 = none)
      (stage : x.server.stage = .closed)
      (reply : x.server.written = [] ∨
        x.server.written = [Reply.codec.write (ServerSide.answer m (Session.run w before)).1.1])
      (world : x.world = Session.run (m.action.perform (Session.run w before)).2 later)
  /-- A session was opened, and the items of its channel are passed on. -/
  | streaming {o : Opened} {i : Nat} {v : World} {later all : List Action} {content rest : Bytes}
      (items : List StreamItem) (opens : Opens w theirs h o i v later)
      (first : front h.octets = .record content rest)
      (server : x.server = ⟨.having rest, h.ended,
        Reply.codec.write (.opened o) :: items.map itemRecord, .streaming i⟩)
      (going : ∀ y ∈ items, ends y = false)
      (merged : Merged (List.replicate items.length (.receive i)) later all)
      (world : x.world = Session.run v all)
  /-- A session was opened, and the receiver of its channel was dropped. -/
  | left {o : Opened} {i n : Nat} {v : World} {later all : List Action} (items : List StreamItem)
      (last : Option StreamItem) (opens : Opens w theirs h o i v later)
      (stage : x.server.stage = .closed)
      (written : x.server.written =
        Reply.codec.write (.opened o) :: (items ++ last.toList).map itemRecord)
      (going : ∀ y ∈ items, ends y = false) (final : ∀ y ∈ last, ends y = true)
      (merged : Merged (List.replicate n (.receive i) ++ [.dropReceiver i]) later all)
      (world : x.world = Session.run v all)

namespace Opens

variable {w v : World} {theirs later : List Action} {h : Heard} {o : Opened} {i : Nat}

private theorem hear (opens : Opens w theirs h o i v later) (e : Occurrence) :
    Opens w theirs (h.hear e) o i v later := by
  obtain ⟨r, before, call, split, opened⟩ := opens
  exact ⟨r, before, call.hear e, split, opened⟩

private theorem other (opens : Opens w theirs h o i v later) (a : Action) :
    Opens w (theirs ++ [a]) h o i v (later ++ [a]) := by
  obtain ⟨r, before, call, rfl, opened⟩ := opens
  exact ⟨r, before, call, List.append_assoc _ _ _, opened⟩

end Opens

namespace Course

variable {w : World} {theirs : List Action} {h : Heard} {x : Serving}

private theorem other (course : Course w theirs h x) (a : Action) :
    Course w (theirs ++ [a]) h { x with world := (a.perform x.world).2 } := by
  cases course with
  | waiting server world =>
    refine .waiting server ?_
    rw [world, Session.run_snoc]
  | refused faulty stage reply world =>
    refine .refused faulty stage reply ?_
    rw [world, Session.run_snoc]
  | answered before later call split single stage reply world =>
    refine .answered before (later ++ [a]) call ?_ single stage reply ?_
    · rw [split, List.append_assoc]
    · rw [world, Session.run_snoc]
  | streaming items opens first server going merged world =>
    refine .streaming items (opens.other a) first server going (merged.other a) ?_
    rw [world, Session.run_snoc]
  | left items last opens stage written going final merged world =>
    refine .left items last (opens.other a) stage written going final (merged.other a) ?_
    rw [world, Session.run_snoc]

private theorem closed (course : Course w theirs h x) (shut : x.server.stage = .closed)
    {y : Serving} (stage : y.server.stage = .closed) (written : y.server.written = x.server.written)
    (world : y.world = x.world) (e : Occurrence) : Course w theirs (h.hear e) y := by
  cases course with
  | waiting server =>
    rw [server] at shut
    cases shut
  | refused faulty _ reply same =>
    exact .refused (faulty.hear e) stage (by rwa [written]) (world.trans same)
  | answered before later call split single _ reply same =>
    exact .answered before later (call.hear e) split single stage (by rwa [written])
      (world.trans same)
  | streaming items opens first server =>
    rw [server] at shut
    cases shut
  | left items last opens _ told going final merged same =>
    exact .left items last (opens.hear e) stage (written.trans told) going final merged
      (world.trans same)

private theorem step_peer {octets : Bytes} {written : List Bytes} {stage : Stage}
    (server : x.server = ⟨.having octets, h.ended, written, stage⟩) {e : Occurrence}
    (fromPeer : (∃ segment, e = .arrival segment) ∨ e = .ending) :
    ∃ more, (h.hear e).octets = h.octets ++ more ∧
      (x.step e).server = ⟨.having (octets ++ more), (h.hear e).ended, written, stage⟩ := by
  rcases fromPeer with ⟨segment, rfl⟩ | rfl
  · rw [Serving.step, Heard.hear, server]
    cases ended : h.ended with
    | true =>
      refine ⟨[], (List.append_nil _).symm, ?_⟩
      rw [List.append_nil, if_pos rfl, server, ended, if_pos rfl, ended]
    | false => exact ⟨segment, rfl, rfl⟩
  · refine ⟨[], (List.append_nil _).symm, ?_⟩
    rw [List.append_nil, Serving.step, server]
    rfl

private theorem peer (course : Course w theirs h x) {e : Occurrence}
    (fromPeer : (∃ segment, e = .arrival segment) ∨ e = .ending) :
    Course w theirs (h.hear e) (x.step e) := by
  have kept : (x.step e).server.stage = x.server.stage ∧
      (x.step e).server.written = x.server.written ∧ (x.step e).world = x.world := by
    rcases fromPeer with ⟨segment, rfl⟩ | rfl
    · rw [Serving.step]
      split <;> exact ⟨rfl, rfl, rfl⟩
    · exact ⟨rfl, rfl, rfl⟩
  obtain ⟨stage, written, world⟩ := kept
  have closed := fun shut => course.closed shut (stage.trans shut) written world e
  cases course with
  | waiting server same =>
    obtain ⟨more, octets, server'⟩ := step_peer server fromPeer
    refine .waiting ?_ (world.trans same)
    rw [server', ServerSide.waiting, octets]
  | refused _ shut => exact closed shut
  | answered _ _ _ _ _ shut => exact closed shut
  | streaming items opens first server going merged same =>
    obtain ⟨more, octets, server'⟩ := step_peer server fromPeer
    have first' := front_append_of_record first more
    rw [← octets] at first'
    exact .streaming items (opens.hear e) first' server' going merged (world.trans same)
  | left _ _ _ shut => exact closed shut

private theorem turn_waiting (server : x.server = .waiting h)
    (world : x.world = Session.run w theirs) (preferClient : Bool) :
    Course w theirs h (x.turn preferClient) := by
  have took := Serving.turn_waiting server preferClient
  rw [world] at took
  generalize x.turn preferClient = x' at took
  have alone : theirs = theirs ++ [] := (List.append_nil theirs).symm
  cases took with
  | nothing => exact .waiting rfl rfl
  | refused faulty reply => exact .refused faulty rfl reply rfl
  | answered call single reply => exact .answered theirs [] call alone single rfl reply rfl
  | opened first call opened =>
    exact .streaming [] ⟨_, theirs, call, alone, opened⟩ first rfl nofun .nil rfl

private theorem turn_streaming {o : Opened} {i : Nat} {v : World} {later all : List Action}
    {content rest : Bytes} {items : List StreamItem} (opens : Opens w theirs h o i v later)
    (first : front h.octets = .record content rest)
    (server : x.server = ⟨.having rest, h.ended,
      Reply.codec.write (.opened o) :: items.map itemRecord, .streaming i⟩)
    (going : ∀ y ∈ items, ends y = false)
    (merged : Merged (List.replicate items.length (.receive i)) later all)
    (world : x.world = Session.run v all)
    (proper : ∀ y, (x.world.receive i).1 = .item y → Proper y) (preferClient : Bool) :
    Course w theirs h (x.turn preferClient) := by
  have received : (x.world.receive i).2 = Session.run v (all ++ [.receive i]) := by
    rw [Session.run_snoc, ← world]
    rfl
  have dropped : ∀ u done, u = Session.run v done →
      u.dropReceiver i = Session.run v (done ++ [.dropReceiver i]) := by
    intro u done same
    rw [Session.run_snoc, ← same]
    rfl
  have merged' := merged.own (.receive i)
  rw [← List.replicate_succ'] at merged'
  have stage : x.server.stage = .streaming i := by rw [server]
  have passed := Serving.turn_streaming stage preferClient
  generalize x.turn preferClient = x' at passed
  cases passed with
  | nothing silent => exact .streaming items opens first server going merged world
  | @item y found fits more =>
    rw [passOn_last (proper y found) fits] at more
    refine .streaming (items ++ [y]) opens first ?_ ?_ ?_ received
    · rw [server, List.map_append]
      rfl
    · intro z member
      rcases List.mem_append.mp member with old | new
      · exact going z old
      · rw [List.mem_singleton.mp new, more]
    · rwa [List.length_append]
  | @last y found fits last =>
    rw [passOn_last (proper y found) fits] at last
    refine .left items (some y) opens rfl ?_ going ?_ (merged'.own _) (dropped _ _ received)
    · rw [server, List.map_append]
      rfl
    · intro z same
      obtain rfl := Option.some.inj same
      exact last
  | stopped =>
    refine .left items none opens rfl ?_ going nofun (merged'.own _) (dropped _ _ received)
    rw [server, Option.toList_none, List.append_nil]
  | abandoned =>
    refine .left items none opens rfl ?_ going nofun (merged.own _) (dropped _ _ world)
    rw [server, Option.toList_none, List.append_nil]

private theorem turn (course : Course w theirs h x)
    (proper : ∀ i y, (x.world.receive i).1 = .item y → Proper y) (preferClient : Bool) :
    Course w theirs h (x.turn preferClient) := by
  have shut : x.server.stage = .closed → Course w theirs h (x.turn preferClient) := by
    intro stage
    rwa [Serving.turn_closed stage]
  cases course with
  | waiting server world => exact turn_waiting server world preferClient
  | refused _ stage => exact shut stage
  | answered _ _ _ _ _ stage => exact shut stage
  | streaming items opens first server going merged world =>
    exact turn_streaming opens first server going merged world (proper _) preferClient
  | left _ _ _ stage => exact shut stage

theorem reachable {b : Beginning} {start : List Action}
    (course : Course (Session.run b.world start) theirs h x) :
    ∃ as, x.world = Session.run b.world as := by
  have opened : ∀ {a : Action} {before later : List Action},
      Session.run (a.perform (Session.run (Session.run b.world start) before)).2 later =
        Session.run b.world (start ++ before ++ [a] ++ later) := by
    intro a before later
    rw [Session.run_append, Session.run_snoc, Session.run_append]
  have streamed : ∀ {o : Opened} {i : Nat} {v : World} {later all : List Action},
      Opens (Session.run b.world start) theirs h o i v later → x.world = Session.run v all →
      ∃ as, x.world = Session.run b.world as := by
    rintro o i v later all ⟨r, before, -, -, same⟩ world
    have after : v = _ := (congrArg Prod.snd same).symm
    rw [after] at world
    exact ⟨_, world.trans opened⟩
  cases course with
  | waiting server world => exact ⟨start ++ theirs, by rw [world, Session.run_append]⟩
  | refused faulty stage reply world => exact ⟨start ++ theirs, by rw [world, Session.run_append]⟩
  | answered before later call split single stage reply world => exact ⟨_, world.trans opened⟩
  | streaming items opens first server going merged world => exact streamed opens world
  | left items last opens stage written going final merged world => exact streamed opens world

end Course

private theorem proper_of_received {b : Beginning} {as : List Action} {i : Nat} {x : StreamItem}
    (found : ((Session.run b.world as).receive i).1 = .item x) : Proper x := by
  obtain ⟨c, at_i, member⟩ := sent_of_receive (Prod.ext found rfl)
  obtain ⟨before, a, later, -, sends | ⟨r, -, greets⟩⟩ := sent_origin at_i member
  · exact sends.proper
  · unfold Life.prelude at greets
    split at greets
    · rw [List.mem_singleton.mp greets]
      exact .inr ⟨_, rfl⟩
    · cases greets

theorem course_run (b : Beginning) (start : List Action) (es : List Occurrence) :
    Course (Session.run b.world start) (others es) (heard es)
      ((Serving.accept (Session.run b.world start)).run es) := by
  induction es using List.reverseRecOn with
  | nil => exact .waiting rfl rfl
  | append_singleton es e ih =>
    rw [others_append, heard_snoc, Serving.run_snoc]
    have alone : ∀ h x, Course (Session.run b.world start) (others es) h x →
        Course (Session.run b.world start) (others es ++ []) h x := by
      intro h x course
      rwa [List.append_nil]
    cases e with
    | other a => exact ih.other a
    | arrival segment => exact alone _ _ (ih.peer (.inl ⟨segment, rfl⟩))
    | ending => exact alone _ _ (ih.peer (.inr rfl))
    | turn preferClient =>
      refine alone _ _ (ih.turn (fun i y found => ?_) preferClient)
      obtain ⟨as, world⟩ := ih.reachable
      rw [world] at found
      exact proper_of_received found

end DevicePairing.Connection
