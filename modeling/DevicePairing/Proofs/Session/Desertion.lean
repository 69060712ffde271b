import DevicePairing.Proofs.Session.Pending
import DevicePairing.Proofs.Session.Representation

set_option autoImplicit false
set_option relaxedAutoImplicit false

namespace DevicePairing.Session

open DevicePairing
open DevicePairing.Clock

/-- What a channel keeps whatever happens: the items taken stay taken, no more are taken than were
sent, and a receiver that has gone stays away. -/
structure Channel.GoesOn (c c' : Channel) : Prop where
  taken : c.taken ≤ c'.taken
  ahead : c.taken ≤ c.sent.length → c'.taken ≤ c'.sent.length
  receiving : c.receiving = false → c'.receiving = false

private theorem Channel.goesOn_receive (c : Channel) : c.GoesOn c.receive.2 := by
  rcases c.receive_cases with ⟨x, next, same⟩ | same | same
  · have inside : c.taken < c.sent.length := (List.getElem?_eq_some_iff.mp next).1
    rw [same]
    exact ⟨Nat.le_succ _, fun _ => inside, id⟩
  · rw [same]
    exact ⟨Nat.le_refl _, id, id⟩
  · rw [same]
    exact ⟨Nat.le_refl _, id, id⟩

theorem Action.channel_goesOn {w : World} (a : Action) {i : Nat} {c : Channel}
    (at_i : w.system.channels[i]? = some c) :
    ∃ c', (a.perform w).2.system.channels[i]? = some c' ∧ c.GoesOn c' := by
  obtain ⟨c', at_i', evolves | ⟨-, rfl⟩ | ⟨-, rfl⟩⟩ := a.channel_cases at_i
  · obtain ⟨more, sent, -, -⟩ := evolves.sent
    refine ⟨c', at_i', Nat.le_of_eq evolves.taken.symm, fun ahead => ?_, evolves.receiving.trans⟩
    rw [evolves.taken, sent, List.length_append]
    omega
  · exact ⟨_, at_i', c.goesOn_receive⟩
  · exact ⟨_, at_i', Nat.le_refl _, id, fun _ => rfl⟩

theorem channel_run {w : World} {i : Nat} (channel : ∃ c, w.system.channels[i]? = some c)
    (as : List Action) : ∃ c, (run w as).system.channels[i]? = some c := by
  induction as generalizing w with
  | nil => exact channel
  | cons a as ih =>
    obtain ⟨c, at_i⟩ := channel
    obtain ⟨c', at_i', -⟩ := a.channel_goesOn at_i
    exact ih ⟨c', at_i'⟩

def Service.Gone (s : Service) (i : Nat) : Prop :=
  ∃ c, s.channels[i]? = some c ∧ c.receiving = false

private theorem Service.Gone.isReceiving {s : Service} {i : Nat} (h : s.Gone i) :
    s.isReceiving i = false := by
  obtain ⟨c, at_i, gone⟩ := h
  rw [Service.isReceiving, at_i]
  exact gone

theorem gone_dropReceiver {w : World} {i : Nat} (channel : ∃ c, w.system.channels[i]? = some c) :
    (w.dropReceiver i).system.Gone i := by
  obtain ⟨c, at_i⟩ := channel
  refine ⟨c.dropReceiver, ?_, rfl⟩
  show (w.system.modifyChannel i Channel.dropReceiver).channels[i]? = some c.dropReceiver
  rw [Service.modifyChannel, List.getElem?_modify_eq, at_i]
  rfl

private theorem Service.Gone.perform {w : World} {i : Nat} (h : w.system.Gone i) (a : Action) :
    (a.perform w).2.system.Gone i := by
  obtain ⟨c, at_i, gone⟩ := h
  obtain ⟨c', at_i', goes⟩ := a.channel_goesOn at_i
  exact ⟨c', at_i', goes.receiving gone⟩

private theorem Service.Gone.run {w : World} {i : Nat} (h : w.system.Gone i) (as : List Action) :
    (run w as).system.Gone i := by
  induction as generalizing w with
  | nil => exact h
  | cons a as ih => exact ih (h.perform a)

namespace Service

variable {s : Service} {session : String} {e e' : Entry} {i : Nat}

theorem listener?_of_gone (gone : s.Gone i) (sender : e.sender = some i) :
    s.listener? e = none := by
  rw [listener?, sender, Option.filter_some, gone.isReceiving]
  rfl

private theorem get?_ending_cases {name : String} {e₀ : Entry} {state : State}
    (entry : s.sessions.get? session = some e) (entry₀ : s.sessions.get? name = some e₀)
    (entry' : (s.ending name e₀ state).sessions.get? session = some e') :
    e' = e ∨ name = session ∧ e' = e.ended state := by
  rw [ending, putEntry, Table.get?_put] at entry'
  split at entry'
  · rename_i same
    subst same
    obtain rfl := Option.some.inj (entry.symm.trans entry₀)
    exact .inr ⟨rfl, (Option.some.inj entry').symm⟩
  · exact .inl (Option.some.inj (entry'.symm.trans entry))

private theorem get?_decide_of_deaf (entry : s.sessions.get? session = some e)
    (deaf : s.listener? e = none) (name : String) (r : Resolution) (outcome : Key → Outcome)
    (entry' : (s.decide name r outcome).2.sessions.get? session = some e') :
    e' = e ∨ e' = e.ended .expired := by
  have unchanged : s.sessions.get? session = some e' → e' = e ∨ e' = e.ended .expired :=
    fun entry' => .inl (Option.some.inj (entry'.symm.trans entry))
  rw [decide_eq] at entry'
  cases entry₀ : s.sessions.get? name with
  | none =>
    rw [entry₀] at entry'
    exact unchanged entry'
  | some e₀ =>
    simp only [entry₀] at entry'
    split at entry'
    · exact unchanged entry'
    · exact unchanged entry'
    · rename_i j _ listener
      rcases get?_ending_cases entry entry₀ entry' with same | ⟨rfl, -⟩
      · exact .inl same
      · obtain rfl := Option.some.inj (entry.symm.trans entry₀)
        rw [deaf] at listener
        cases listener
    · exact unchanged entry'
    · rw [sessions_releaseSender] at entry'
      exact (get?_ending_cases entry entry₀ entry').imp_right And.right

private theorem get?_stopWatching_cases (entry : s.sessions.get? session = some e) (v : Supervisor)
    (cause : Cause) (entry' : (s.stopWatching v cause).sessions.get? session = some e') :
    e' = e ∨ e' = e.ended .expired := by
  have unchanged : s.sessions.get? session = some e' → e' = e ∨ e' = e.ended .expired :=
    fun entry' => .inl (Option.some.inj (entry'.symm.trans entry))
  have expired : ∀ e₀, s.sessions.get? v.session = some e₀ →
      (s.ending v.session e₀ .expired).sessions.get? session = some e' →
      e' = e ∨ e' = e.ended .expired :=
    fun e₀ entry₀ entry' => (get?_ending_cases entry entry₀ entry').imp_right And.right
  rw [stopWatching_eq] at entry'
  cases entry₀ : s.sessions.get? v.session with
  | none =>
    rw [entry₀] at entry'
    exact unchanged entry'
  | some e₀ =>
    simp only [entry₀] at entry'
    split at entry'
    · split at entry'
      · exact expired e₀ entry₀ entry'
      · rw [sessions_releaseSender] at entry'
        split at entry' <;> exact expired e₀ entry₀ entry'
    · exact unchanged entry'

private theorem get?_stopWatching_self {v : Supervisor} (entry : s.sessions.get? v.session = some e)
    (state : e.state = .awaitingApproval) (cause : Cause) :
    (s.stopWatching v cause).sessions.get? v.session = some (e.ended .expired) := by
  have expired : (s.ending v.session e .expired).sessions.get? v.session =
      some (e.ended .expired) := by
    rw [ending, putEntry, Table.get?_put, if_pos rfl]
    rfl
  have mayExpire : State.expired.mayFollow e.state = true := by
    rw [state]
    rfl
  simp only [stopWatching_eq, entry, if_pos mayExpire]
  split
  · exact expired
  · rw [sessions_releaseSender]
    split <;> exact expired

private theorem get?_superviseStep_cases (entry : s.sessions.get? session = some e)
    (moment : Moment) (prefer : Cause) (j : Nat)
    (entry' : ((s.superviseStep moment prefer j).getD s).sessions.get? session = some e') :
    e' = e ∨ e' = e.ended .expired := by
  have unchanged : s.sessions.get? session = some e' → e' = e ∨ e' = e.ended .expired :=
    fun entry' => .inl (Option.some.inj (entry'.symm.trans entry))
  unfold superviseStep at entry'
  split at entry'
  · exact unchanged entry'
  · split at entry'
    · exact unchanged entry'
    · split at entry'
      · exact unchanged entry'
      · exact get?_stopWatching_cases entry _ _ entry'
    · split at entry'
      · have left : (s.remove _).sessions.get? session = some e' := entry'
        rw [sessions_remove, Table.get?_erase] at left
        split at left
        · cases left
        · exact unchanged left
      · exact unchanged entry'
    · exact unchanged entry'

end Service

/-- Whatever happens to a session without its new device, it stays as it is or expires, unless a
session of the same name is opened. -/
private theorem Action.get?_of_gone {w : World} {session : String} {e e' : Entry} {i : Nat}
    (gone : w.system.Gone i) (entry : w.system.sessions.get? session = some e)
    (sender : e.sender = some i) {a : Action} (other : session ∉ openings [⟨w, a⟩])
    (entry' : (a.perform w).2.system.sessions.get? session = some e') :
    e' = e ∨ e' = e.ended .expired := by
  have unchanged : w.system.sessions.get? session = some e' → e' = e ∨ e' = e.ended .expired :=
    fun entry' => .inl (Option.some.inj (entry'.symm.trans entry))
  have goes : e.Goes e' := by
    obtain ⟨e₀, entry₀, goes⟩ := Step.entry_of_unopened other entry'
    obtain rfl := Option.some.inj (entry.symm.trans entry₀)
    exact goes
  have effect := a.effect w
  generalize (a.perform w).2.system = s' at effect entry'
  cases effect with
  | calm channels supervisors sessions => exact unchanged (sessions ▸ entry')
  | decided h d asked =>
    exact Service.get?_decide_of_deaf entry (Service.listener?_of_gone gone sender) d.session
      d.resolution d.outcome entry'
  | supervised moment woken prefer j =>
    exact Service.get?_superviseStep_cases entry moment prefer j entry'
  | opened r =>
    simp only [Service.accept, Table.get?_put] at entry'
    split at entry'
    · cases goes with
      | nowhere => exact .inl rfl
      | @toEnd state unfinished final =>
        have none : (e.ended state).sender = none := rfl
        rw [← Option.some.inj entry'] at none
        cases none
    · rw [Service.sessions_remove, Table.get?_erase] at entry'
      split at entry'
      · cases entry'
      · exact unchanged entry'
  | received j => exact unchanged entry'
  | departed j => exact unchanged entry'

private theorem entry_goes {v : World} {session : String} {later : List Action}
    (other : session ∉ openings (steps v later)) {e : Entry}
    (entry : (run v later).system.sessions.get? session = some e) :
    ∃ e₀, v.system.sessions.get? session = some e₀ ∧ e₀.Goes e := by
  induction later using List.reverseRecOn generalizing e with
  | nil => exact ⟨e, entry, .nowhere⟩
  | append_singleton later a ih =>
    rw [steps_snoc, openings_append, List.mem_append, not_or] at other
    rw [run_snoc] at entry
    obtain ⟨e₁, entry₁, goes⟩ := Step.entry_of_unopened other.2 entry
    obtain ⟨e₀, entry₀, went⟩ := ih other.1 entry₁
    exact ⟨e₀, entry₀, went.trans goes⟩

theorem sender_of_opened {w : World} {r : PairRequest} {o : Opened} {i : Nat}
    {v : World} (opened : (Action.openSession r).perform w = (.opened (.ok (o, i)), v))
    {later : List Action} (other : o.session ∉ openings (steps v later)) {e : Entry}
    (entry : (run v later).system.sessions.get? o.session = some e)
    (state : e.state = .awaitingApproval) : e.sender = some i := by
  have after : ((Action.openSession r).perform w).2 = v := congrArg Prod.snd opened
  have opening : (Step.mk w (.openSession r)).opening? = some (r, o, i) := by
    simp only [Step.opening?, Step.answer, opened]
  obtain ⟨e₀, entry₀, goes⟩ := entry_goes other entry
  rw [← after] at entry₀
  have sender : e₀.sender = some i := by
    rcases Step.entry_cases entry₀ with ⟨o', j, opening', -, -, new⟩ | ⟨unopened, -⟩
    · cases opening.symm.trans opening'
      rw [new]
    · simp [openings, opening] at unopened
  cases goes with
  | nowhere => exact sender
  | @toEnd last unfinished final =>
    obtain rfl : last = .awaitingApproval := state
    cases final

def Action.isStepOf (j : Nat) : Action → Bool
  | .service (.supervise _ _ k) => j == k
  | _ => false

private theorem Service.supervisors_decide (s : Service) (session : String) (r : Resolution)
    (outcome : Key → Outcome) : (s.decide session r outcome).2.supervisors = s.supervisors := by
  rw [decide_eq]
  cases s.sessions.get? session with
  | none => rfl
  | some e =>
    simp only
    split
    · rfl
    · rfl
    · rfl
    · rfl
    · exact supervisors_releaseSender _ e.sender

private theorem getElem?_setPhase {s s' : Service} {j k : Nat} {v : Supervisor}
    (at_j : s.supervisors[j]? = some v) (same : s'.supervisors = s.supervisors) (other : j ≠ k)
    (phase : Phase) : (s'.setPhase k phase).supervisors[j]? = some v := by
  show (s'.supervisors.modify k _)[j]? = some v
  rw [List.getElem?_modify_ne, same, at_j]
  exact Ne.symm other

private theorem Action.getElem?_supervisors {w : World} {a : Action} {j : Nat} {v : Supervisor}
    (at_j : w.system.supervisors[j]? = some v) (other : a.isStepOf j = false) :
    (a.perform w).2.system.supervisors[j]? = some v := by
  have effect := a.effect w
  generalize (a.perform w).2.system = s' at effect
  cases effect with
  | calm channels supervisors sessions => rw [supervisors, at_j]
  | decided h d asked => rw [Service.supervisors_decide, at_j]
  | supervised moment woken prefer k =>
    have elsewhere : j ≠ k := by simpa [isStepOf] using other
    unfold Service.superviseStep
    split
    · exact at_j
    · split
      · exact getElem?_setPhase at_j rfl elsewhere _
      · split
        · exact at_j
        · exact getElem?_setPhase at_j (Service.supervisors_stopWatching _ _ _) elsewhere _
      · split
        · exact getElem?_setPhase at_j (Service.supervisors_remove _ _) elsewhere _
        · exact at_j
      · exact at_j
  | opened r =>
    obtain ⟨inside, -⟩ := List.getElem?_eq_some_iff.mp at_j
    simp only [Service.accept, Service.supervisors_remove]
    rw [List.getElem?_append_left inside, at_j]
  | received k => exact at_j
  | departed k => exact at_j

section

variable {w : World} {session : String} {e : Entry} {i j : Nat} {v : Supervisor}
  (woken : Nat) (prefer : Cause)

private theorem watching_of_starting (at_j : w.system.supervisors[j]? = some v)
    (starting : v.phase = .starting) :
    ∃ deadline, ((Action.service (.supervise woken prefer j)).perform w).2.system.supervisors[j]? =
      some { v with phase := .watching deadline } := by
  refine ⟨w.now + w.system.config.sessionTtl.toNat, ?_⟩
  simp only [Action.perform, Happening.perform, Service.superviseStep, at_j, starting,
    Option.getD_some, Environment.withSystem, Service.setPhase, List.getElem?_modify_eq]
  rfl

private theorem expired_of_watching (gone : w.system.Gone v.channel)
    (entry : w.system.sessions.get? v.session = some e) (state : e.state = .awaitingApproval)
    (at_j : w.system.supervisors[j]? = some v) {deadline : Nat}
    (watching : v.phase = .watching deadline) :
    ((Action.service (.supervise woken prefer j)).perform w).2.system.sessions.get? v.session =
      some (e.ended .expired) := by
  have stopped := fun cause => Service.get?_stopWatching_self entry state cause
  have cause : ∃ cause more, w.system.causes ⟨w.now, min woken w.now⟩ v = cause :: more := by
    simp only [Service.causes, watching, gone.isReceiving, Bool.false_eq_true, if_false]
    split
    · exact ⟨_, _, rfl⟩
    · exact ⟨_, _, rfl⟩
  obtain ⟨cause, more, found⟩ := cause
  simp only [Action.perform, Happening.perform, Service.superviseStep, at_j, watching, found,
    Option.getD_some, Environment.withSystem]
  exact stopped _

end

/-- What becomes of the sessions that hold a sender of the channel `i`, whose receiver has gone. -/
structure Deserted (v : World) (i : Nat) : Prop where
  /-- As long as no session of the same name is opened, such a session stays as it is or expires,
  and whoever decides it is told that there is none. -/
  undecided : ∀ session e later, v.system.sessions.get? session = some e → e.sender = some i →
    session ∉ openings (steps v later) →
    (∀ e', (run v later).system.sessions.get? session = some e' → e' = e ∨ e' = e.ended .expired) ∧
      ∀ (h : Happening) (d : Decision), h.decision? (run v later) = some d → d.session = session →
        (h.perform (run v later)).1 = .decided (.error (.sessionNotFound session))
  /-- It has a supervisor that, once it has made a step, makes it expire by the next one. -/
  expires : ∀ session e, v.system.sessions.get? session = some e → e.sender = some i →
    ∃ j, ∀ later woken prefer, session ∉ openings (steps v later) →
      (run v later).system.sessions.get? session = some e →
      (∃ a ∈ later, a.isStepOf j = true) →
      ((Action.service (.supervise woken prefer j)).perform (run v later)).2.system.sessions.get?
        session = some (e.ended .expired)
  settled : ∀ later, Settled (run v later) →
    ∀ session e, (run v later).system.sessions.get? session = some e → e.sender ≠ some i

section

variable {b : Beginning} {as : List Action} {session : String} {e : Entry} {i : Nat}

private theorem awaiting_of_sender (entry : (run b.world as).system.sessions.get? session = some e)
    (sender : e.sender = some i) : e.state = .awaitingApproval :=
  (represents_run entry).sender_iff.mp (by rw [sender]; rfl)

private theorem watched_of_sender (entry : (run b.world as).system.sessions.get? session = some e)
    (sender : e.sender = some i) : (run b.world as).system.WatchedOver session i := by
  cases allWatched_run b as session e entry with
  | ended final =>
    rw [awaiting_of_sender entry sender] at final
    cases final
  | waiting state k same guard =>
    obtain rfl := Option.some.inj (sender.symm.trans same)
    exact guard

end

section

variable {v : World} {session : String} {e : Entry} {i : Nat}
  (gone : v.system.Gone i) (entry : v.system.sessions.get? session = some e)
  (sender : e.sender = some i) (state : e.state = .awaitingApproval)

include gone entry sender in
private theorem only_expires {later : List Action} (other : session ∉ openings (steps v later)) :
    ∀ e', (run v later).system.sessions.get? session = some e' →
      e' = e ∨ e' = e.ended .expired := by
  induction later using List.reverseRecOn with
  | nil => exact fun e' entry' => .inl (Option.some.inj (entry'.symm.trans entry))
  | append_singleton later a ih =>
    intro e' entry'
    rw [steps_snoc, openings_append, List.mem_append, not_or] at other
    rw [run_snoc] at entry'
    obtain ⟨e₀, entry₀, goes⟩ := Step.entry_of_unopened other.2 entry'
    rcases ih other.1 e₀ entry₀ with rfl | rfl
    · exact Action.get?_of_gone (gone.run later) entry₀ sender other.2 entry'
    · cases goes with
      | nowhere => exact .inr rfl
      | toEnd unfinished final => cases unfinished

include state in
private theorem entry_before {later : List Action} {a : Action}
    (other : session ∉ openings [⟨run v later, a⟩])
    (entry' : (a.perform (run v later)).2.system.sessions.get? session = some e) :
    (run v later).system.sessions.get? session = some e := by
  obtain ⟨e₀, entry₀, goes⟩ := Step.entry_of_unopened other entry'
  generalize same : e = e' at goes
  cases goes with
  | nowhere => exact entry₀
  | @toEnd last unfinished final =>
    have waits : last = .awaitingApproval := (congrArg Entry.state same).symm.trans state
    rw [waits] at final
    cases final

include gone entry sender state in
private theorem watching_run {u : Supervisor} {j : Nat} (at_j : v.system.supervisors[j]? = some u)
    (named : u.session = session) (channel : u.channel = i) (watches : u.Watches)
    {later : List Action} (other : session ∉ openings (steps v later))
    (entry' : (run v later).system.sessions.get? session = some e) :
    ∃ phase, (run v later).system.supervisors[j]? = some { u with phase := phase } ∧
      Supervisor.Watches { u with phase := phase } ∧
      ((∃ a ∈ later, a.isStepOf j = true) → ∃ deadline, phase = .watching deadline) := by
  subst named channel
  induction later using List.reverseRecOn with
  | nil => exact ⟨u.phase, at_j, watches, by simp⟩
  | append_singleton later a ih =>
    rw [steps_snoc, openings_append, List.mem_append, not_or] at other
    rw [run_snoc] at entry' ⊢
    have before := entry_before state other.2 entry'
    obtain ⟨phase, at_j', watches', since⟩ := ih other.1 before
    cases step : a.isStepOf j with
    | false =>
      refine ⟨phase, a.getElem?_supervisors at_j' step, watches', fun ⟨x, member, isStep⟩ => ?_⟩
      rcases List.mem_append.mp member with earlier | last
      · exact since ⟨x, earlier, isStep⟩
      · rw [List.mem_singleton.mp last, step] at isStep
        cases isStep
    | true =>
      obtain ⟨woken, prefer, rfl⟩ : ∃ woken prefer, a = .service (.supervise woken prefer j) := by
        unfold Action.isStepOf at step
        split at step
        · rename_i woken prefer k
          obtain rfl : j = k := by simpa using step
          exact ⟨woken, prefer, rfl⟩
        · cases step
      rcases watches' with starting | ⟨deadline, watching⟩
      · obtain ⟨deadline, at_j''⟩ := watching_of_starting woken prefer at_j' starting
        exact ⟨.watching deadline, at_j'', .inr ⟨deadline, rfl⟩, fun _ => ⟨deadline, rfl⟩⟩
      · have expired := expired_of_watching woken prefer (v := { u with phase := phase })
          (gone.run later) before state at_j' watching
        rw [entry'] at expired
        have none : e.sender = none := congrArg Entry.sender (Option.some.inj expired)
        rw [sender] at none
        cases none

end

theorem deserted_of_gone {b : Beginning} {as : List Action} {i : Nat}
    (gone : (run b.world as).system.Gone i) : Deserted (run b.world as) i where
  undecided := by
    intro session e later entry sender other
    have state := awaiting_of_sender entry sender
    have only := only_expires gone entry sender other
    refine ⟨only, fun h d asked named => ?_⟩
    subst named
    rw [Happening.perform_of_decision asked, Service.decide_eq]
    cases entry' : (run (run b.world as) later).system.sessions.get? d.session with
    | none => rfl
    | some e' =>
      rcases only e' entry' with rfl | rfl
      · simp only [state, Service.listener?_of_gone (gone.run later) sender]
      · simp only [Entry.ended]
  expires := by
    intro session e entry sender
    have state := awaiting_of_sender entry sender
    obtain ⟨j, u, at_j, rfl, rfl, watches⟩ := watched_of_sender entry sender
    refine ⟨j, fun later woken prefer other entry' stepped => ?_⟩
    obtain ⟨phase, at_j', -, since⟩ :=
      watching_run gone entry sender state at_j rfl rfl watches other entry'
    obtain ⟨deadline, watching⟩ := since stepped
    exact expired_of_watching woken prefer (v := { u with phase := phase }) (gone.run later) entry'
      state at_j' watching
  settled := by
    intro later settled session e entry sender
    rw [← run_append] at settled entry
    have receiving := isReceiving_of_settled settled (watched_of_sender entry sender)
    rw [run_append, (gone.run later).isReceiving] at receiving
    cases receiving

end DevicePairing.Session
