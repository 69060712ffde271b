import DevicePairing.Proofs.Session.Lives

set_option autoImplicit false
set_option relaxedAutoImplicit false

namespace DevicePairing.Session

open DevicePairing
open DevicePairing.Clock

/-- A step of a run is done in the world that the actions before it lead to. -/
theorem mem_steps {w : World} {as : List Action} {x : Step} :
    x ∈ steps w as ↔
      ∃ before later, as = before ++ x.action :: later ∧ x.before = run w before := by
  induction as generalizing w with
  | nil =>
    constructor
    · intro member
      cases member
    · rintro ⟨before, later, split, -⟩
      cases before <;> cases split
  | cons a as ih =>
    rw [steps, List.mem_cons, ih]
    constructor
    · rintro (rfl | ⟨before, later, rfl, world⟩)
      · exact ⟨[], as, rfl, rfl⟩
      · exact ⟨a :: before, later, rfl, world⟩
    · rintro ⟨before, later, split, world⟩
      cases before with
      | nil =>
        obtain ⟨rfl, -⟩ := List.cons.inj split
        obtain ⟨world', action⟩ := x
        exact .inl (congrArg (Step.mk · action) world)
      | cons a' before =>
        obtain ⟨rfl, rest⟩ := List.cons.inj split
        exact .inr ⟨before, later, rest, world⟩

def Action.elapsed : Action → Nat
  | .service (.advance ms) => ms
  | _ => 0

theorem Action.now_perform (w : World) (a : Action) :
    (a.perform w).2.now = w.now + a.elapsed := by
  cases a with
  | service h => cases h <;> rfl
  | openSession r =>
    simp only [Action.perform, Transport.Direct.pairDevice]
    split <;> rfl
  | receive i =>
    simp only [Action.perform, Environment.receive]
    split <;> rfl
  | _ => rfl

theorem now_snoc (w : World) (as : List Action) (a : Action) :
    (run w (as ++ [a])).now = (run w as).now + a.elapsed := by
  rw [run_snoc, Action.now_perform]

/-- The state of a session is kept until its supervisor is done. -/
theorem Faithful.stateOf? {s : Service} {ls : List Life} (f : Faithful s ls) {i : Nat} {l : Life}
    (at_i : ls[i]? = some l) :
    s.stateOf? l.session = if l.phase = .finished then none else some l.state := by
  rw [Service.stateOf?, f.entries i l at_i, Life.kept?]
  split <;> rfl

theorem Faithful.life_of_stateOf? {s : Service} {ls : List Life} (f : Faithful s ls)
    {session : String} {state : State} (kept : s.stateOf? session = some state) :
    ∃ (i : Nat) (l : Life), ls[i]? = some l ∧ l.session = session ∧ l.state = state := by
  obtain ⟨e, entry, -⟩ := Option.map_eq_some_iff.mp kept
  obtain ⟨l, member, rfl⟩ := f.known session e entry
  obtain ⟨i, at_i⟩ := List.mem_iff_getElem?.mp member
  refine ⟨i, l, at_i, rfl, ?_⟩
  rw [f.stateOf? at_i] at kept
  split at kept
  · cases kept
  · exact Option.some.inj kept

theorem Faithful.answer_decision {w : World} {ls : List Life} (f : Faithful w.system ls)
    {h : Happening} {d : Decision} (asked : h.decision? w = some d) {i : Nat} {l : Life}
    (at_i : ls[i]? = some l) (named : d.session = l.session) :
    (h.perform w).1 = .decided l.verdict := by
  rw [Happening.perform_of_decision asked, named]
  have wf := f.wellFormed l (List.mem_of_getElem? at_i)
  exact congrArg Answer.decided (decide_of_follows (f.follows at_i) wf d).1

theorem Happening.decision?_of_made {w : World} {h : Happening}
    (answered : (h.perform w).1 = .decided (.ok ())) : ∃ d, h.decision? w = some d := by
  cases h with
  | approve r =>
    simp only [perform, Transport.Direct.approve, Service.approve] at answered
    simp only [decision?]
    cases check : w.system.checkApproval r with
    | error cause =>
      rw [check] at answered
      cases answered
    | ok granted => exact ⟨_, rfl⟩
  | reject r =>
    simp only [perform, Transport.Direct.reject, Service.reject] at answered
    simp only [decision?]
    cases check : w.system.checkRejection r with
    | error cause =>
      rw [check] at answered
      cases answered
    | ok body => exact ⟨_, rfl⟩
  | _ => cases answered

/-- Whoever may decide a session that no one opened is told that there is none. -/
theorem Faithful.answer_absent {w : World} {ls : List Life} (f : Faithful w.system ls)
    {h : Happening} {d : Decision} (asked : h.decision? w = some d)
    (unknown : d.session ∉ ls.map Life.session) :
    (h.perform w).1 = .decided (.error (.sessionNotFound d.session)) := by
  rw [Happening.perform_of_decision asked, decide_of_absent (f.absent unknown)]

theorem Life.verdict_eq_ok {l : Life} :
    l.verdict = .ok () ↔
      l.phase ≠ .finished ∧ l.state = .awaitingApproval ∧ l.channel.receiving = true := by
  unfold verdict
  by_cases finished : l.phase = .finished
  · simp [finished]
  · rw [if_neg finished]
    cases state : l.state with
    | awaitingApproval => cases l.channel.receiving <;> simp [finished]
    | _ => simp

theorem Life.decide_of_verdict {l : Life} (granted : l.verdict = .ok ()) (d : Decision) :
    l.decide d =
      { l with
        state := .resolved d.resolution
        channel := (l.channel.push (l.lastFrame d)).dropSender } := by
  obtain ⟨kept, waiting, receiving⟩ := verdict_eq_ok.mp granted
  rw [decide, if_neg kept, if_pos waiting, if_pos receiving]

theorem Life.verdict_eq_ok_or (l : Life) :
    l.verdict = .ok () ∨ l.verdict = .error (.sessionNotFound l.session) ∨
      l.verdict = .error (.sessionAlreadyResolved l.session) := by
  unfold verdict
  split
  · exact .inr (.inl rfl)
  · split
    · exact .inr (.inr rfl)
    · split
      · exact .inl rfl
      · exact .inr (.inl rfl)
    · exact .inr (.inl rfl)

theorem Action.stimulus?_of_decision {w : World} {h : Happening} {d : Decision}
    (asked : h.decision? w = some d) (i : Nat) (session : String) :
    (Action.service h).stimulus? w i session =
      if d.session = session then some (.decision d) else none := by
  rw [stimulus?_of_calm, asked, Option.bind_some]
  rintro woken prefer j rfl
  cases asked

/-- What can reach a session comes from the side of the service or from its own receiver. -/
theorem Action.stimulus?_cases {w : World} {a : Action} {i : Nat} {session : String} {x : Stimulus}
    (stimulus : a.stimulus? w i session = some x) :
    (∃ h d, a = .service h ∧ h.decision? w = some d ∧ d.session = session ∧ x = .decision d) ∨
      (∃ woken prefer, a = .service (.supervise woken prefer i) ∧
        x = .supervision ⟨w.now, min woken w.now⟩ prefer) ∨
      (a = .receive i ∧ x = .receipt) ∨ a = .dropReceiver i ∧ x = .departure := by
  cases a with
  | service h =>
    by_cases calm : ∀ woken prefer j, h ≠ .supervise woken prefer j
    · rw [stimulus?_of_calm calm] at stimulus
      obtain ⟨d, asked, found⟩ := Option.bind_eq_some_iff.mp stimulus
      split at found
      · exact .inl ⟨h, d, rfl, asked, by assumption, (Option.some.inj found).symm⟩
      · cases found
    · simp only [not_forall, not_not] at calm
      obtain ⟨woken, prefer, j, rfl⟩ := calm
      simp only [stimulus?] at stimulus
      split at stimulus
      · rename_i numbered
        exact .inr (.inl ⟨woken, prefer, by rw [numbered], (Option.some.inj stimulus).symm⟩)
      · cases stimulus
  | receive j =>
    simp only [stimulus?] at stimulus
    split at stimulus
    · rename_i numbered
      exact .inr (.inr (.inl ⟨by rw [numbered], (Option.some.inj stimulus).symm⟩))
    · cases stimulus
  | dropReceiver j =>
    simp only [stimulus?] at stimulus
    split at stimulus
    · rename_i numbered
      exact .inr (.inr (.inr ⟨by rw [numbered], (Option.some.inj stimulus).symm⟩))
    · cases stimulus
  | openSession r => cases stimulus
  | drawKey => cases stimulus

theorem Action.decision_of_stimulus {w : World} {a : Action} {i : Nat} {session : String}
    {d : Decision} (stimulus : a.stimulus? w i session = some (.decision d)) :
    ∃ h, a = .service h ∧ h.decision? w = some d ∧ d.session = session := by
  rcases stimulus?_cases stimulus with
    ⟨h, d', rfl, asked, named, same⟩ | ⟨_, _, -, same⟩ | ⟨-, same⟩ | ⟨-, same⟩
  · obtain rfl := Stimulus.decision.inj same
    exact ⟨h, rfl, asked, named⟩
  · cases same
  · cases same
  · cases same

theorem Action.supervision_of_stimulus {w : World} {a : Action} {i : Nat} {session : String}
    {m : Moment} {prefer : Cause}
    (stimulus : a.stimulus? w i session = some (.supervision m prefer)) :
    ∃ woken, a = .service (.supervise woken prefer i) ∧ m = ⟨w.now, min woken w.now⟩ := by
  rcases stimulus?_cases stimulus with
    ⟨_, _, -, -, -, same⟩ | ⟨woken, prefer', rfl, same⟩ | ⟨-, same⟩ | ⟨-, same⟩
  · cases same
  · cases same
    exact ⟨woken, rfl, rfl⟩
  · cases same
  · cases same

/-- A supervisor goes on at the time of the world, and it is woken for that time at the latest. -/
theorem Action.moment_of_stimulus {w : World} {a : Action} {i : Nat} {session : String}
    {m : Moment} {prefer : Cause}
    (stimulus : a.stimulus? w i session = some (.supervision m prefer)) :
    m.now = w.now ∧ m.woken ≤ w.now := by
  obtain ⟨woken, -, rfl⟩ := supervision_of_stimulus stimulus
  exact ⟨rfl, Nat.min_le_right _ _⟩

/-- A session only comes to another state, and something is only sent to it, while it waits. -/
theorem Life.waiting_of_change {ttl : Nat} {l : Life} {x : Stimulus}
    (changed : (l.feel ttl x).state ≠ l.state ∨ (l.feel ttl x).channel.sent ≠ l.channel.sent) :
    l.state = .awaitingApproval := by
  have change := l.feel_change ttl x
  generalize l.feel ttl x = l' at change changed
  cases change with
  | decided d kept waiting => exact waiting
  | missed d kept waiting => exact waiting
  | timedOut moment prefer watching due waiting => exact waiting
  | abandoned moment prefer watching waiting => exact waiting
  | received => simp at changed
  | _ => simp [Channel.dropSender, Channel.dropReceiver] at changed

theorem Life.feel_of_final {l : Life} (ended : l.state.isFinal = true) (ttl : Nat) (x : Stimulus) :
    (l.feel ttl x).state = l.state ∧ (l.feel ttl x).channel.sent = l.channel.sent := by
  by_contra changed
  rw [waiting_of_change (not_and_or.mp changed)] at ended
  cases ended

theorem Life.receiving_after (w : World) (a : Action) (i : Nat) (l : Life) :
    (l.after w a i).channel.receiving = true ↔
      l.channel.receiving = true ∧ a ≠ .dropReceiver i := by
  unfold Life.after
  split
  · rename_i stimulus
    refine ⟨fun receiving => ⟨receiving, ?_⟩, And.left⟩
    rintro rfl
    simp only [Action.stimulus?, if_true, reduceCtorEq] at stimulus
  · rename_i x stimulus
    have departs : a = .dropReceiver i ↔ x = .departure := by
      rcases Action.stimulus?_cases stimulus with
        ⟨_, _, rfl, -, -, rfl⟩ | ⟨_, _, rfl, rfl⟩ | ⟨rfl, rfl⟩ | ⟨rfl, rfl⟩ <;> simp
    rw [ne_eq, departs]
    by_cases departure : x = .departure
    · subst departure
      simp [Life.feel, Channel.dropReceiver]
    · have change := l.feel_change w.system.config.sessionTtl.toNat x
      generalize l.feel _ x = l' at change
      cases change with
      | departed => exact absurd rfl departure
      | nothing => simp [departure]
      | received => simp
      | _ => simp [Channel.dropSender, Channel.push]

/-- In a run someone who may decide a session asked for a decision and was answered that it was
made. -/
def Made (b : Beginning) (as : List Action) (d : Decision) : Prop :=
  ∃ before h later, as = before ++ .service h :: later ∧
    h.decision? (run b.world before) = some d ∧
    (h.perform (run b.world before)).1 = .decided (.ok ())

def Became (b : Beginning) (as : List Action) (session : String) (state : State) : Prop :=
  ∃ before later, as = before ++ later ∧
    (run b.world before).system.stateOf? session = some state

theorem Made.append {b : Beginning} {as : List Action} {d : Decision} (h : Made b as d)
    (more : List Action) : Made b (as ++ more) d := by
  obtain ⟨before, happening, later, rfl, asked, answered⟩ := h
  exact ⟨before, happening, later ++ more, by rw [List.append_assoc, List.cons_append], asked,
    answered⟩

theorem Became.append {b : Beginning} {as : List Action} {session : String} {state : State}
    (h : Became b as session state) (more : List Action) :
    Became b (as ++ more) session state := by
  obtain ⟨before, later, rfl, kept⟩ := h
  exact ⟨before, later ++ more, by rw [List.append_assoc], kept⟩

end DevicePairing.Session
