import DevicePairing.Proofs.Frame
import DevicePairing.Proofs.Session.Events

set_option autoImplicit false
set_option relaxedAutoImplicit false

/-!
Everything that is ever sent to a new device: the payload, where the version sends it so, and after
it one item at most, which tells how the session ended. There is room for both from the beginning.
-/

namespace DevicePairing.Session

open DevicePairing
open DevicePairing.Clock

/-- No supervisor lets the time of its session be over too early. -/
def Life.Timely (ttl now : Nat) (l : Life) : Prop :=
  l.openedAt ≤ now ∧
    match l.phase with
    | .starting => True
    | .watching deadline => l.openedAt + ttl ≤ deadline
    | .lingering deadline => l.openedAt + ttl ≤ deadline
    | .finished => l.openedAt + ttl ≤ now

private theorem Life.Timely.wait {ttl now : Nat} {l : Life} (h : l.Timely ttl now) (ms : Nat) :
    l.Timely ttl (now + ms) := by
  obtain ⟨opened, deadline⟩ := h
  refine ⟨Nat.le_add_right_of_le opened, ?_⟩
  cases phase : l.phase <;> simp only [phase] at deadline ⊢
  · exact deadline
  · exact deadline
  · exact Nat.le_add_right_of_le deadline

private theorem Life.Timely.feel {ttl now : Nat} {l : Life} (h : l.Timely ttl now) {x : Stimulus}
    (moment : ∀ m prefer, x = .supervision m prefer → m.now = now ∧ m.woken ≤ now) :
    (l.feel ttl x).Timely ttl now := by
  have change := l.feel_change ttl x
  generalize l.feel ttl x = l' at change
  obtain ⟨opened, deadline⟩ := h
  cases change with
  | started m prefer starting =>
    obtain ⟨same, -⟩ := moment m prefer rfl
    exact ⟨opened, by simp only [same]; omega⟩
  | removed m prefer lingering due =>
    obtain ⟨-, woken⟩ := moment m prefer rfl
    simp only [lingering] at deadline
    exact ⟨opened, by simp only; omega⟩
  | timedOut m prefer watching => exact ⟨opened, by simpa only [watching] using deadline⟩
  | abandoned m prefer watching => exact ⟨opened, by simpa only [watching] using deadline⟩
  | released m prefer watching => exact ⟨opened, by simpa only [watching] using deadline⟩
  | _ => exact ⟨opened, deadline⟩

theorem timely_lives {b : Beginning} {as : List Action} {i : Nat} {l : Life}
    (at_i : (lives b as)[i]? = some l) :
    l.Timely b.config.sessionTtl.toNat (run b.world as).now := by
  refine lives_invariant
    (P := fun as _ l => l.Timely b.config.sessionTtl.toNat (run b.world as).now) ?_ ?_ at_i
  · intro as a l newcomer
    rw [newcomer?_eq] at newcomer
    obtain ⟨opening, -, rfl⟩ := Option.map_eq_some_iff.mp newcomer
    rw [now_snoc]
    exact ⟨Nat.le_add_right _ _, trivial⟩
  · intro as a i l _ timely
    rw [now_snoc]
    refine Life.Timely.wait ?_ _
    unfold Life.after
    rw [config_lives]
    split
    · exact timely
    · rename_i x stimulus
      refine timely.feel fun m prefer supervised => ?_
      exact Action.moment_of_stimulus (supervised ▸ stimulus)

/-- The supervisor of a session let it expire because its time was over. -/
def TimedOut (b : Beginning) (as : List Action) (session : String) (openedAt : Nat) : Prop :=
  ∃ before woken prefer i later, as = before ++ .service (.supervise woken prefer i) :: later ∧
    (run b.world before).system.stateOf? session = some .awaitingApproval ∧
    (run b.world (before ++ [.service (.supervise woken prefer i)])).system.stateOf? session =
      some .expired ∧
    openedAt + b.config.sessionTtl.toNat ≤ (run b.world before).now

/-- What the channel of a session holds after the payload, by the last state of the session. -/
inductive LastWord (b : Beginning) (as : List Action) (l : Life) : Option StreamItem → Prop where
  | waiting (state : l.state = .awaitingApproval) : LastWord b as l none
  | decision (d : Decision) (state : l.state = .resolved d.resolution) (made : Made b as d)
      (named : d.session = l.session) (became : Became b as l.session (.resolved d.resolution)) :
      LastWord b as l (some (l.lastFrame d))
  | departure (state : l.state = .expired) : LastWord b as l none
  | timeout (state : l.state = .expired) (due : TimedOut b as l.session l.openedAt) :
      LastWord b as l (some (.error .timeout))

private theorem LastWord.keep {b : Beginning} {as : List Action} {l l' : Life}
    {last : Option StreamItem} (h : LastWord b as l last) (origin : l'.origin = l.origin)
    (state : l'.state = l.state) (more : List Action) : LastWord b (as ++ more) l' last := by
  have session : l'.session = l.session := congrArg Prod.fst origin
  have request : l'.request = l.request := congrArg (fun o => o.2.1) origin
  have openedAt : l'.openedAt = l.openedAt := congrArg (fun o => o.2.2) origin
  cases h with
  | waiting waiting => exact .waiting (state.trans waiting)
  | decision d decided made named became =>
    have same : l.lastFrame d = l'.lastFrame d := by
      rw [Life.lastFrame, Life.lastFrame, session, request]
    rw [same]
    refine .decision d (state.trans decided) (made.append more) (named.trans session.symm) ?_
    rw [session]
    exact became.append more
  | departure expired => exact .departure (state.trans expired)
  | timeout expired due =>
    obtain ⟨before, woken, prefer, i, later, rfl, waiting, passed, late⟩ := due
    refine .timeout (state.trans expired) ?_
    rw [session, openedAt]
    exact ⟨before, woken, prefer, i, later ++ more, by rw [List.append_assoc, List.cons_append],
      waiting, passed, late⟩

private theorem LastWord.eq_none {b : Beginning} {as : List Action} {l : Life}
    {last : Option StreamItem} (h : LastWord b as l last) (waiting : l.state = .awaitingApproval) :
    last = none := by
  cases h with
  | waiting => rfl
  | decision d decided => rw [waiting] at decided; cases decided
  | departure => rfl
  | timeout expired => rw [waiting] at expired; cases expired

/-- The session with the channel `i` has something in its channel and a reason for it. -/
def Recorded (b : Beginning) (as : List Action) (l : Life) : Prop :=
  ∃ last, l.channel.sent = Life.prelude l.request.version l.session ++ last.toList ∧
    LastWord b as l last

private theorem Recorded.keep {b : Beginning} {as : List Action} {l l' : Life} (h : Recorded b as l)
    (origin : l'.origin = l.origin) (state : l'.state = l.state)
    (sent : l'.channel.sent = l.channel.sent) (more : List Action) :
    Recorded b (as ++ more) l' := by
  obtain ⟨last, same, word⟩ := h
  have session : l'.session = l.session := congrArg Prod.fst origin
  have request : l'.request = l.request := congrArg (fun o => o.2.1) origin
  exact ⟨last, by rw [sent, same, session, request], word.keep origin state more⟩

theorem Recorded.sent_of_waiting {b : Beginning} {as : List Action} {l : Life}
    (h : Recorded b as l) (waiting : l.state = .awaitingApproval) :
    l.channel.sent = Life.prelude l.request.version l.session := by
  obtain ⟨last, sent, word⟩ := h
  obtain rfl := word.eq_none waiting
  rw [sent, Option.toList_none, List.append_nil]

private theorem Recorded.sent_push {b : Beginning} {as : List Action} {l : Life}
    (h : Recorded b as l) (waiting : l.state = .awaitingApproval) (x : StreamItem) :
    (l.channel.push x).sent = Life.prelude l.request.version l.session ++ [x] := by
  rw [Channel.push, h.sent_of_waiting waiting]

private theorem Recorded.depart {b : Beginning} {as : List Action} {l l' : Life}
    (h : Recorded b as l) (waiting : l.state = .awaitingApproval) (origin : l'.origin = l.origin)
    (state : l'.state = .expired) (sent : l'.channel.sent = l.channel.sent) (more : List Action) :
    Recorded b (as ++ more) l' := by
  have session : l'.session = l.session := congrArg Prod.fst origin
  have request : l'.request = l.request := congrArg (fun o => o.2.1) origin
  refine ⟨none, ?_, .departure state⟩
  rw [sent, h.sent_of_waiting waiting, session, request, Option.toList_none, List.append_nil]

section

variable {b : Beginning} {as : List Action} {i : Nat} {l : Life} (recorded : Recorded b as l)
  (f : Faithful (run b.world as).system (lives b as)) (at_i : (lives b as)[i]? = some l)

include recorded f at_i

private theorem recorded_of_decided {h : Happening} {d : Decision}
    (asked : h.decision? (run b.world as) = some d) (named : d.session = l.session)
    (kept : l.phase ≠ .finished) (waiting : l.state = .awaitingApproval)
    (receiving : l.channel.receiving = true)
    (became : (run b.world (as ++ [.service h])).system.stateOf? l.session =
      some (.resolved d.resolution)) :
    Recorded b (as ++ [.service h])
      { l with
        state := .resolved d.resolution
        channel := (l.channel.push (l.lastFrame d)).dropSender } := by
  have granted := Life.verdict_eq_ok.mpr ⟨kept, waiting, receiving⟩
  have made : Made b (as ++ [.service h]) d :=
    ⟨as, h, [], rfl, asked, (f.answer_decision asked at_i named).trans (by rw [granted])⟩
  refine ⟨some (l.lastFrame d), recorded.sent_push waiting _, .decision d rfl made named ?_⟩
  exact ⟨as ++ [.service h], [], by rw [List.append_nil], became⟩

private theorem recorded_of_timedOut {woken : Nat} {prefer : Cause} {deadline : Nat}
    (watching : l.phase = .watching deadline) (due : deadline ≤ min woken (run b.world as).now)
    (waiting : l.state = .awaitingApproval)
    (became : (run b.world (as ++ [.service (.supervise woken prefer i)])).system.stateOf?
      l.session = some .expired) :
    Recorded b (as ++ [.service (.supervise woken prefer i)])
      { l with
        state := .expired
        channel := (l.channel.dropSender.push (.error .timeout)).dropSender
        phase := .lingering deadline } := by
  have before := f.stateOf? at_i
  rw [watching, if_neg Phase.noConfusion, waiting] at before
  obtain ⟨-, timely⟩ := timely_lives at_i
  simp only [watching] at timely
  have passed := Nat.le_trans due (Nat.min_le_right woken (run b.world as).now)
  refine ⟨some (.error .timeout), recorded.sent_push waiting _, .timeout rfl ?_⟩
  exact ⟨as, woken, prefer, i, [], rfl, before, became, Nat.le_trans timely passed⟩

end

private theorem recorded_after {b : Beginning} {as : List Action} {a : Action} {i : Nat} {l : Life}
    (distinct : (openings (steps b.world (as ++ [a]))).Nodup) (at_i : (lives b as)[i]? = some l)
    (h : Recorded b as l) : Recorded b (as ++ [a]) (l.after (run b.world as) a i) := by
  have f := faithful_run b as (distinct_of_append distinct)
  have f' := faithful_run b (as ++ [a]) distinct
  have at_i' := lives_snoc_of_getElem? at_i a
  have origin := Life.origin_after (run b.world as) a i l
  unfold Life.after at at_i' origin ⊢
  rw [config_lives] at at_i' origin ⊢
  split at at_i'
  · exact h.keep rfl rfl rfl [a]
  · rename_i x stimulus
    simp only [stimulus] at origin ⊢
    have stateOf := f'.stateOf? at_i'
    have change := l.feel_change b.config.sessionTtl.toNat x
    generalize l.feel b.config.sessionTtl.toNat x = l' at change origin at_i' stateOf ⊢
    cases change with
    | nothing => exact h.keep origin rfl rfl [a]
    | decided d kept waiting receiving =>
      obtain ⟨happening, rfl, asked, named⟩ := Action.decision_of_stimulus stimulus
      rw [if_neg kept] at stateOf
      exact recorded_of_decided h f at_i asked named kept waiting receiving stateOf
    | missed d kept waiting gone => exact h.depart waiting origin rfl rfl [a]
    | received => exact h.keep origin rfl (Channel.sent_receive _) [a]
    | departed => exact h.keep origin rfl rfl [a]
    | started => exact h.keep origin rfl rfl [a]
    | timedOut moment prefer watching due waiting receiving =>
      obtain ⟨woken, rfl, rfl⟩ := Action.supervision_of_stimulus stimulus
      rw [if_neg Phase.noConfusion] at stateOf
      exact recorded_of_timedOut h f at_i watching due waiting stateOf
    | abandoned moment prefer watching waiting gone => exact h.depart waiting origin rfl rfl [a]
    | released => exact h.keep origin rfl rfl [a]
    | removed => exact h.keep origin rfl rfl [a]

theorem recorded_lives {b : Beginning} {as : List Action}
    (distinct : (openings (steps b.world as)).Nodup) {i : Nat} {l : Life}
    (at_i : (lives b as)[i]? = some l) : Recorded b as l := by
  refine lives_invariant
    (P := fun as _ l => (openings (steps b.world as)).Nodup → Recorded b as l) ?_ ?_ at_i distinct
  · intro as a l newcomer _
    rw [newcomer?_eq] at newcomer
    obtain ⟨opening, -, rfl⟩ := Option.map_eq_some_iff.mp newcomer
    exact ⟨none, (List.append_nil _).symm, .waiting rfl⟩
  · intro as a i l at_i recorded distinct
    exact recorded_after distinct at_i (recorded (distinct_of_append distinct))

theorem state_of_became {b : Beginning} {as : List Action}
    (distinct : (openings (steps b.world as)).Nodup) {i : Nat} {l : Life}
    (at_i : (lives b as)[i]? = some l) {state : State} (ended : state.isFinal = true)
    (became : Became b as l.session state) : l.state = state := by
  obtain ⟨before, later, rfl, kept⟩ := became
  have f := faithful_run b before (distinct_of_append distinct)
  obtain ⟨j, k, at_j, named, was⟩ := f.life_of_stateOf? kept
  obtain ⟨k', at_j', state', named'⟩ := lives_append at_j
    (R := fun k' => k'.state = state ∧ k'.session = l.session) ⟨was, named⟩
    (fun as a k ⟨was, named⟩ => by
      refine ⟨?_, (Life.session_after _ a j k).trans named⟩
      unfold Life.after
      split
      · exact was
      · exact (Life.feel_of_final (was ▸ ended) _ _).1.trans was) later
  have whole := faithful_run b (before ++ later) distinct
  obtain rfl := whole.eq_of_session at_i at_j' named'.symm
  rw [at_i] at at_j'
  obtain rfl := Option.some.inj at_j'
  exact state'

private theorem capacity_lives {b : Beginning} {as : List Action} {i : Nat} {l : Life}
    (at_i : (lives b as)[i]? = some l) : l.channel.capacity = b.config.channelCapacity := by
  refine lives_invariant (P := fun _ _ l => l.channel.capacity = b.config.channelCapacity) ?_ ?_ at_i
  · intro as a l newcomer
    rw [newcomer?_eq, config_lives] at newcomer
    obtain ⟨opening, -, rfl⟩ := Option.map_eq_some_iff.mp newcomer
    rfl
  · intro as a i l _ capacity
    unfold Life.after
    split
    · exact capacity
    · rename_i x _
      rw [← capacity]
      have change := l.feel_change (run b.world as).system.config.sessionTtl.toNat x
      generalize l.feel _ x = l' at change
      cases change with
      | received =>
        simp only [Channel.receive]
        split <;> rfl
      | _ => rfl

private theorem Life.length_prelude (version : ProtocolVersion) (session : String) :
    (prelude version session).length ≤ 1 := by
  cases version with
  | v1 => exact Nat.le_refl 1
  | v2 => exact Nat.zero_le 1

private theorem Recorded.length_sent {b : Beginning} {as : List Action} {l : Life}
    (h : Recorded b as l) : l.channel.sent.length ≤ 2 := by
  obtain ⟨last, sent, -⟩ := h
  have first := Life.length_prelude l.request.version l.session
  rw [sent, List.length_append]
  cases last <;> simp only [Option.toList_none, Option.toList_some, List.length_nil,
    List.length_singleton] <;> omega

private theorem Recorded.not_isFull {b : Beginning} {as : List Action} {l : Life}
    (h : Recorded b as l) (waiting : l.state = .awaitingApproval) (room : 2 ≤ l.channel.capacity) :
    l.channel.isFull = false := by
  have first := Life.length_prelude l.request.version l.session
  simp only [Channel.isFull, Channel.queued, List.length_drop, h.sent_of_waiting waiting,
    decide_eq_false_iff_not]
  omega

def RejectedFor (b : Beginning) (as : List Action) (session reason : String) : Prop :=
  ∃ before q later, as = before ++ .service (.reject q) :: later ∧
    (run b.world before).system.checkRejection q = .ok ⟨session, reason⟩ ∧
    ((Happening.reject q).perform (run b.world before)).1 = .decided (.ok ())

/-- What went over the channel `i` of a session from its opening on. -/
structure ChannelHistory (b : Beginning) (as : List Action) (r : PairRequest) (session : String)
    (openedAt i : Nat) (c : Channel) (last : Option StreamItem) : Prop where
  sent : c.sent = Life.prelude r.version session ++ last.toList
  approved : Became b as session (.resolved .approved) ↔
    ∃ issued, last = some (.ok (Frame.encode (.response ⟨session, .approved issued⟩)))
  /-- The last item is a rejection exactly when the session was rejected, and it gives the reason
  of the one who did so. -/
  rejected : Became b as session (.resolved .rejected) ↔
    ∃ reason, RejectedFor b as session reason ∧
      last = some (.ok (Frame.encode (.response ⟨session, .rejected reason⟩)))
  only : ∀ item, last = some item →
    (∃ issued, item = .ok (Frame.encode (.response ⟨session, .approved issued⟩))) ∨
      (∃ reason, item = .ok (Frame.encode (.response ⟨session, .rejected reason⟩))) ∨
      item = .error .timeout ∧ TimedOut b as session openedAt
  /-- Every frame can be read under the version of the session, and a response is for it. -/
  readable : ∀ octets, .ok octets ∈ c.sent → Frame.Countable octets →
    ∃ frame, Frame.decode r.version octets = .ok frame ∧
      ∀ response, frame = .response response → response.session = session
  length_sent : c.sent.length ≤ 2
  capacity_eq : c.capacity = max b.config.frameBuffer.toNat 2
  queued_le : c.queued.length ≤ c.capacity
  room : ∀ before a later, as = before ++ a :: later → ∀ c₁ c₂,
    (run b.world before).system.channels[i]? = some c₁ →
    (run b.world (before ++ [a])).system.channels[i]? = some c₂ →
    c₂.sent ≠ c₁.sent → c₁.isFull = false

theorem room_of_run {b : Beginning} {before later : List Action} {a : Action}
    (distinct : (openings (steps b.world (before ++ a :: later))).Nodup) {i : Nat} {c₁ c₂ : Channel}
    (at_before : (run b.world before).system.channels[i]? = some c₁)
    (at_after : (run b.world (before ++ [a])).system.channels[i]? = some c₂)
    (grown : c₂.sent ≠ c₁.sent) : c₁.isFull = false := by
  have distinct₁ := distinct_of_append distinct
  rw [List.append_cons] at distinct
  have distinct₂ := distinct_of_append distinct
  rw [(faithful_run b before distinct₁).channels, List.getElem?_map] at at_before
  obtain ⟨l, at_i, rfl⟩ := Option.map_eq_some_iff.mp at_before
  rw [(faithful_run b (before ++ [a]) distinct₂).channels, List.getElem?_map,
    lives_snoc_of_getElem? at_i a] at at_after
  obtain rfl := Option.some.inj at_after
  have waiting : l.state = .awaitingApproval := by
    unfold Life.after at grown
    split at grown
    · exact absurd rfl grown
    · exact Life.waiting_of_change (.inr grown)
  refine (recorded_lives distinct₁ at_i).not_isFull waiting ?_
  rw [capacity_lives at_i]
  exact Nat.le_max_right _ _

private theorem rejectedFor_of_made {b : Beginning} {as : List Action} {d : Decision}
    (made : Made b as d) (rejected : d.resolution = .rejected) :
    ∃ reason, RejectedFor b as d.session reason ∧ ∀ key, d.outcome key = .rejected reason := by
  obtain ⟨before, h, later, split, asked, answered⟩ := made
  cases h with
  | reject q =>
    simp only [Happening.decision?] at asked
    cases check : (run b.world before).system.checkRejection q with
    | error cause => simp only [check, reduceCtorEq] at asked
    | ok body =>
      simp only [check, Option.some.injEq] at asked
      subst asked
      exact ⟨body.reason, ⟨before, q, later, split, check, answered⟩, fun _ => rfl⟩
  | approve q =>
    simp only [Happening.decision?] at asked
    split at asked
    · cases asked
    · obtain rfl := Option.some.inj asked
      cases rejected
  | _ => cases asked

private theorem issued_of_made {b : Beginning} {as : List Action} {d : Decision}
    (made : Made b as d) (approved : d.resolution = .approved) (key : Key) :
    ∃ issued, d.outcome key = .approved issued := by
  obtain ⟨before, h, later, split, asked, answered⟩ := made
  cases h with
  | approve q =>
    simp only [Happening.decision?] at asked
    split at asked
    · cases asked
    · obtain rfl := Option.some.inj asked
      exact ⟨_, rfl⟩
  | reject q =>
    simp only [Happening.decision?] at asked
    split at asked
    · cases asked
    · obtain rfl := Option.some.inj asked
      cases approved
  | _ => cases asked

private inductive Told (b : Beginning) (as : List Action) (l : Life) :
    Option StreamItem → Prop where
  | nothing (undecided : ∀ resolution, l.state ≠ .resolved resolution) : Told b as l none
  | approval (issued : IssuedCredentials) (state : l.state = .resolved .approved)
      (became : Became b as l.session (.resolved .approved)) :
      Told b as l (some (.ok (Frame.encode (.response ⟨l.session, .approved issued⟩))))
  | rejection (reason : String) (state : l.state = .resolved .rejected)
      (became : Became b as l.session (.resolved .rejected))
      (made : RejectedFor b as l.session reason) :
      Told b as l (some (.ok (Frame.encode (.response ⟨l.session, .rejected reason⟩))))
  | timeout (undecided : ∀ resolution, l.state ≠ .resolved resolution)
      (due : TimedOut b as l.session l.openedAt) : Told b as l (some (.error .timeout))

private theorem LastWord.told {b : Beginning} {as : List Action} {l : Life}
    {last : Option StreamItem} (h : LastWord b as l last) : Told b as l last := by
  cases h with
  | waiting state => exact .nothing fun resolution decided => by rw [state] at decided; cases decided
  | departure state => exact .nothing fun resolution decided => by rw [state] at decided; cases decided
  | timeout state due =>
    exact .timeout (fun resolution decided => by rw [state] at decided; cases decided) due
  | decision d state made named became =>
    cases resolution : d.resolution with
    | approved =>
      obtain ⟨issued, told⟩ := issued_of_made made resolution l.request.deviceKey
      rw [Life.lastFrame, told]
      rw [resolution] at state became
      exact .approval issued state became
    | rejected =>
      obtain ⟨reason, rejected, told⟩ := rejectedFor_of_made made resolution
      rw [Life.lastFrame, told]
      rw [resolution] at state became
      rw [named] at rejected
      exact .rejection reason state became rejected

private theorem Told.approved_iff {b : Beginning} {as : List Action} {l : Life}
    {last : Option StreamItem} (told : Told b as l last)
    (ended : ∀ resolution, Became b as l.session (.resolved resolution) →
      l.state = .resolved resolution) :
    Became b as l.session (.resolved .approved) ↔
      ∃ issued, last = some (.ok (Frame.encode (.response ⟨l.session, .approved issued⟩))) := by
  constructor
  · intro became
    have state := ended _ became
    cases told with
    | approval issued => exact ⟨issued, rfl⟩
    | rejection reason state' => rw [state] at state'; cases state'
    | nothing undecided => exact absurd state (undecided _)
    | timeout undecided => exact absurd state (undecided _)
  · rintro ⟨issued, same⟩
    cases told with
    | approval issued' state became => exact became
    | rejection reason =>
      exact absurd (Except.ok.inj (Option.some.inj same)).symm
        (Frame.approved_ne_rejected l.session issued reason)
    | nothing => cases same
    | timeout => cases same

private theorem Told.rejected_iff {b : Beginning} {as : List Action} {l : Life}
    {last : Option StreamItem} (told : Told b as l last)
    (ended : ∀ resolution, Became b as l.session (.resolved resolution) →
      l.state = .resolved resolution) :
    Became b as l.session (.resolved .rejected) ↔
      ∃ reason, RejectedFor b as l.session reason ∧
        last = some (.ok (Frame.encode (.response ⟨l.session, .rejected reason⟩))) := by
  constructor
  · intro became
    have state := ended _ became
    cases told with
    | rejection reason _ _ made => exact ⟨reason, made, rfl⟩
    | approval issued state' => rw [state] at state'; cases state'
    | nothing undecided => exact absurd state (undecided _)
    | timeout undecided => exact absurd state (undecided _)
  · rintro ⟨reason, -, same⟩
    cases told with
    | rejection reason' state became => exact became
    | approval issued =>
      exact absurd (Except.ok.inj (Option.some.inj same))
        (Frame.approved_ne_rejected l.session issued reason)
    | nothing => cases same
    | timeout => cases same

private theorem Told.only {b : Beginning} {as : List Action} {l : Life} {item : StreamItem}
    (told : Told b as l (some item)) :
    (∃ issued, item = .ok (Frame.encode (.response ⟨l.session, .approved issued⟩))) ∨
      (∃ reason, item = .ok (Frame.encode (.response ⟨l.session, .rejected reason⟩))) ∨
      item = .error .timeout ∧ TimedOut b as l.session l.openedAt := by
  cases told with
  | approval issued => exact .inl ⟨issued, rfl⟩
  | rejection reason => exact .inr (.inl ⟨reason, rfl⟩)
  | timeout undecided due => exact .inr (.inr ⟨rfl, due⟩)

private theorem readable_prelude {version : ProtocolVersion} {session : String} {octets : Bytes}
    (member : .ok octets ∈ Life.prelude version session) :
    Frame.decode version octets = .ok (.info (Exchange.payload session)) := by
  cases version with
  | v1 =>
    obtain rfl := Except.ok.inj (List.mem_singleton.mp member)
    exact Frame.decode_info _
  | v2 => cases member

private theorem Told.readable {b : Beginning} {as : List Action} {l : Life} {octets : Bytes}
    (told : Told b as l (some (.ok octets))) (countable : Frame.Countable octets)
    (version : ProtocolVersion) :
    ∃ response : PairResponse, Frame.decode version octets = .ok (.response response) ∧
      response.session = l.session := by
  cases told with
  | approval issued => exact ⟨_, Frame.decode_response _ countable, rfl⟩
  | rejection reason => exact ⟨_, Frame.decode_response _ countable, rfl⟩

private theorem history_of_life {b : Beginning} {as : List Action}
    (distinct : (openings (steps b.world as)).Nodup) {i : Nat} {l : Life}
    (at_i : (lives b as)[i]? = some l) :
    ∃ last, ChannelHistory b as l.request l.session l.openedAt i l.channel last := by
  have recorded := recorded_lives distinct at_i
  have capacity := capacity_lives at_i
  have short := recorded.length_sent
  obtain ⟨last, sent, word⟩ := recorded
  have told := word.told
  have ended : ∀ resolution, Became b as l.session (.resolved resolution) →
      l.state = .resolved resolution := fun resolution became =>
    state_of_became distinct at_i rfl became
  refine ⟨last, sent, told.approved_iff ended, told.rejected_iff ended, ?_, ?_, short, capacity,
    ?_, ?_⟩
  · rintro item rfl
    exact told.only
  · intro octets member countable
    rw [sent, List.mem_append, Option.mem_toList] at member
    rcases member with first | second
    · exact ⟨_, readable_prelude first, fun response impossible => by cases impossible⟩
    · obtain rfl : last = some (.ok octets) := second
      obtain ⟨response, decoded, named⟩ := told.readable countable l.request.version
      refine ⟨_, decoded, fun response' same => ?_⟩
      cases same
      exact named
  · have enough : 2 ≤ b.config.channelCapacity := Nat.le_max_right _ _
    rw [Channel.queued, List.length_drop, capacity]
    omega
  · rintro before a later rfl c₁ c₂ at_before at_after grown
    exact room_of_run distinct at_before at_after grown

/-- The history of the channel of every session of a run. A payload can always be sent at once. -/
theorem channel_history {b : Beginning} {as : List Action}
    (distinct : (openings (steps b.world as)).Nodup) {x : Step} (member : x ∈ steps b.world as)
    {r : PairRequest} {o : Opened} {i : Nat} (opened : x.opening? = some (r, o, i)) :
    (∃ c last, (run b.world as).system.channels[i]? = some c ∧
      ChannelHistory b as r o.session x.before.now i c last) ∧
      ∀ version session, ∃ c,
        (run b.world as).system.openingChannel version (Exchange.payload session) = .ok c := by
  obtain ⟨before, later, rfl, world⟩ := mem_steps.mp member
  obtain ⟨world', action⟩ := x
  obtain rfl : world' = run b.world before := world
  have begun := life_of_opening (distinct_of_append distinct) opened
  obtain ⟨l, at_i, origin⟩ := lives_append begun
    (R := fun l => l.origin = (o.session, r, (run b.world before).now)) rfl
    (fun as a k origin => (Life.origin_after _ a i k).trans origin) later
  rw [List.append_assoc, List.singleton_append] at at_i
  simp only [Life.origin, Prod.mk.injEq] at origin
  obtain ⟨session, request, openedAt⟩ := origin
  obtain ⟨last, history⟩ := history_of_life distinct at_i
  rw [session, request, openedAt] at history
  refine ⟨⟨l.channel, last, ?_, history⟩, fun version session => ?_⟩
  · rw [(faithful_run b _ distinct).channels, List.getElem?_map, at_i]
    rfl
  · exact ⟨_, Service.openingChannel_eq _ version session⟩

namespace Sample

/-- A session is opened, and no one does anything until its time is over. -/
def unattended : List Action :=
  [.openSession request, .service (.supervise 0 .deadline 0), .service (.advance 300000),
    .service (.supervise 300000 .deadline 0)]

end Sample

/-- The channel of a session that no one attends to. -/
theorem channel_history_of_unattended :
    (∃ c last, (run Sample.beginning.world Sample.unattended).system.channels[0]? = some c ∧
      ChannelHistory Sample.beginning Sample.unattended Sample.request Sample.session 0 0 c last) ∧
      ∀ version session, ∃ c, (run Sample.beginning.world Sample.unattended).system.openingChannel
        version (Exchange.payload session) = .ok c :=
  channel_history (x := ⟨Sample.beginning.world, .openSession Sample.request⟩)
    (o := ⟨Sample.session, .v1, none⟩) (by decide +kernel) List.mem_cons_self (by decide +kernel)

end DevicePairing.Session
