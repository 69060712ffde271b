import DevicePairing.Proofs.Session.Answers

set_option autoImplicit false
set_option relaxedAutoImplicit false

/-!
What a service keeps. Sessions enter the registry by their opening and leave it when their time is
over, and nothing that happens in between shortens or lengthens their stay: no decision, no failed
call, no departure of a new device and no channel that no one reads from.
-/

namespace DevicePairing.Session

open DevicePairing
open DevicePairing.Clock

private theorem Service.mem_keys_iff (s : Service) (session : String) :
    session ∈ s.sessions.keys ↔ ∃ state, s.stateOf? session = some state := by
  unfold stateOf?
  induction s.sessions with
  | nil => simp [Table.keys, Table.get?]
  | cons row rows ih =>
    obtain ⟨name, e⟩ := row
    rw [Table.keys, List.map_cons, List.mem_cons, Table.get?]
    by_cases same : name = session
    · simp [same]
    · rw [if_neg same, ← ih]
      simp only [Ne.symm same, false_or]
      rfl

private theorem Life.phase_after {w : World} {a : Action} {i : Nat} {l : Life}
    (finished : l.phase = .finished) : (l.after w a i).phase = .finished := by
  unfold Life.after
  split
  · exact finished
  · rename_i x _
    have change := l.feel_change w.system.config.sessionTtl.toNat x
    generalize l.feel _ x = l' at change
    cases change with
    | started _ _ starting => rw [finished] at starting; cases starting
    | timedOut _ _ watching => rw [finished] at watching; cases watching
    | abandoned _ _ watching => rw [finished] at watching; cases watching
    | released _ _ watching => rw [finished] at watching; cases watching
    | removed => rfl
    | _ => exact finished

private theorem Life.removed_of_phase {w : World} {a : Action} {i : Nat} {l : Life}
    (kept : l.phase ≠ .finished) (finished : (l.after w a i).phase = .finished) :
    a.isTask = true ∧ ∃ deadline, l.phase = .lingering deadline ∧ deadline ≤ w.now := by
  unfold Life.after at finished
  split at finished
  · exact absurd finished kept
  · rename_i x stimulus
    have change := l.feel_change w.system.config.sessionTtl.toNat x
    generalize l.feel _ x = l' at change finished
    cases change with
    | removed moment prefer lingering due =>
      obtain ⟨woken, rfl, rfl⟩ := Action.supervision_of_stimulus stimulus
      exact ⟨rfl, _, lingering, Nat.le_trans due (Nat.min_le_right _ _)⟩
    | started => cases finished
    | timedOut => cases finished
    | abandoned => cases finished
    | released => cases finished
    | _ => exact absurd finished kept

private theorem Life.state_after {w : World} {a : Action} {i : Nat} {l : Life} (wf : l.WellFormed) :
    (l.after w a i).state = l.state ∨
      l.state = .awaitingApproval ∧ (l.after w a i).state.isFinal = true := by
  unfold Life.after
  split
  · exact .inl rfl
  · rename_i x _
    by_cases same : (l.feel w.system.config.sessionTtl.toNat x).state = l.state
    · exact .inl same
    · have waiting := Life.waiting_of_change (.inl same)
      have wf' := wf.feel w.system.config.sessionTtl.toNat x
      right
      refine ⟨waiting, ?_⟩
      cases state : (l.feel w.system.config.sessionTtl.toNat x).state with
      | created => exact absurd state wf'.state_ne_created
      | awaitingApproval => exact absurd (state.trans waiting.symm) same
      | resolved r => rfl
      | expired => rfl

/-- What a service kept in the course of a run, as a function of when its sessions were opened. -/
structure KeepsLatest (b : Beginning) (as : List Action) : Prop where
  /-- At no moment is a session missing the time of which is not over. -/
  lasting : ∀ before later, as = before ++ later → ∀ session r i since,
    InTime b before session r i since → session ∈ (run b.world before).system.sessions.keys
  /-- Whenever the supervisors have settled, exactly the sessions are kept the time of which is not
  over. -/
  exactly : ∀ before later, as = before ++ later → Settled (run b.world before) → ∀ session,
    session ∈ (run b.world before).system.sessions.keys ↔
      ∃ r i since, InTime b before session r i since
  appears : ∀ before a later, as = before ++ a :: later → ∀ session state,
    (run b.world before).system.stateOf? session = none →
    (run b.world (before ++ [a])).system.stateOf? session = some state →
    state = .awaitingApproval ∧
      ∃ r o i, (Step.mk (run b.world before) a).opening? = some (r, o, i) ∧ o.session = session
  /-- As long as it is kept, it stays as it is or goes from waiting to an end. -/
  moves : ∀ before a later, as = before ++ a :: later → ∀ session state state',
    (run b.world before).system.stateOf? session = some state →
    (run b.world (before ++ [a])).system.stateOf? session = some state' →
    state' = state ∨ state = .awaitingApproval ∧ state'.isFinal = true
  /-- It disappears through its supervisor when its time is over. -/
  leaves : ∀ before a later, as = before ++ a :: later → ∀ session state,
    (run b.world before).system.stateOf? session = some state →
    (run b.world (before ++ [a])).system.stateOf? session = none →
    a.isTask = true ∧ ∃ r openedAt i since, OpenedIn b before session r openedAt i since ∧
      openedAt + b.config.sessionTtl.toNat ≤ (run b.world before).now
  /-- No one ever waits for room in a channel, whether it is read from or not. -/
  unhindered : ∀ before a later, as = before ++ a :: later →
    ∀ (i : Nat) (c₁ c₂ : Channel), (run b.world before).system.channels[i]? = some c₁ →
    (run b.world (before ++ [a])).system.channels[i]? = some c₂ →
    c₂.sent ≠ c₁.sent → c₁.isFull = false

section

variable {b : Beginning} {as : List Action} (distinct : (openings (steps b.world as)).Nodup)

include distinct

private theorem mem_keys_of_inTime (unhurried : Unhurried b.world as) {session : String}
    {r : PairRequest} {i : Nat} {since : List Action} (inTime : InTime b as session r i since) :
    session ∈ (run b.world as).system.sessions.keys := by
  obtain ⟨openedAt, opened, early⟩ := inTime
  obtain ⟨l, at_i, origin, -⟩ := life_of_openedIn distinct opened
  simp only [Life.origin, Prod.mk.injEq] at origin
  obtain ⟨rfl, -, rfl⟩ := origin
  have kept := kept_of_in_time distinct at_i unhurried early
  rw [Service.mem_keys_iff, (faithful_run b as distinct).stateOf? at_i, if_neg kept]
  exact ⟨l.state, rfl⟩

private theorem mem_keys_iff_inTime (unhurried : Unhurried b.world as)
    (settled : Settled (run b.world as)) (session : String) :
    session ∈ (run b.world as).system.sessions.keys ↔
      ∃ r i since, InTime b as session r i since := by
  constructor
  · intro member
    obtain ⟨state, kept⟩ := (Service.mem_keys_iff _ _).mp member
    have f := faithful_run b as distinct
    obtain ⟨i, l, at_i, rfl, -⟩ := f.life_of_stateOf? kept
    have remains : l.phase ≠ .finished := by
      intro finished
      rw [f.stateOf? at_i, if_pos finished] at kept
      cases kept
    obtain ⟨since, opened⟩ := openedIn_of_life distinct at_i
    have early := (kept_iff_in_time distinct at_i unhurried settled).mp remains
    exact ⟨l.request, i, since, l.openedAt, opened, early⟩
  · rintro ⟨r, i, since, inTime⟩
    exact mem_keys_of_inTime distinct unhurried inTime

end

section

variable {b : Beginning} {before : List Action} {a : Action}
  (distinct : (openings (steps b.world (before ++ [a]))).Nodup) {session : String}

include distinct

private theorem opened_of_appearing {state : State}
    (absent : (run b.world before).system.stateOf? session = none)
    (present : (run b.world (before ++ [a])).system.stateOf? session = some state) :
    state = .awaitingApproval ∧
      ∃ r o i, (Step.mk (run b.world before) a).opening? = some (r, o, i) ∧ o.session = session := by
  have f := faithful_run b before (distinct_of_append distinct)
  have f' := faithful_run b (before ++ [a]) distinct
  obtain ⟨i, l', at_i', rfl, rfl⟩ := f'.life_of_stateOf? present
  rcases lives_snoc_cases at_i' with ⟨l, at_i, rfl⟩ | ⟨-, newcomer⟩
  · -- an old session that is not kept any more would have had to come back
    rw [Life.session_after, f.stateOf? at_i] at absent
    have finished : l.phase = .finished := by
      by_contra kept
      rw [if_neg kept] at absent
      cases absent
    rw [f'.stateOf? at_i', if_pos (Life.phase_after finished)] at present
    cases present
  · rw [newcomer?_eq] at newcomer
    obtain ⟨⟨r, o, j⟩, opening, rfl⟩ := Option.map_eq_some_iff.mp newcomer
    exact ⟨rfl, r, o, j, opening, rfl⟩

private theorem state_of_step {state state' : State}
    (present : (run b.world before).system.stateOf? session = some state)
    (present' : (run b.world (before ++ [a])).system.stateOf? session = some state') :
    state' = state ∨ state = .awaitingApproval ∧ state'.isFinal = true := by
  have f := faithful_run b before (distinct_of_append distinct)
  have f' := faithful_run b (before ++ [a]) distinct
  obtain ⟨i, l, at_i, rfl, rfl⟩ := f.life_of_stateOf? present
  have stays := f'.stateOf? (lives_snoc_of_getElem? at_i a)
  rw [Life.session_after, present'] at stays
  split at stays
  · cases stays
  · obtain rfl := Option.some.inj stays
    exact Life.state_after (f.wellFormed l (List.mem_of_getElem? at_i))

private theorem over_of_leaving (unhurried : Unhurried b.world before) {state : State}
    (present : (run b.world before).system.stateOf? session = some state)
    (absent : (run b.world (before ++ [a])).system.stateOf? session = none) :
    a.isTask = true ∧ ∃ r openedAt i since, OpenedIn b before session r openedAt i since ∧
      openedAt + b.config.sessionTtl.toNat ≤ (run b.world before).now := by
  have distinct₁ := distinct_of_append distinct
  have f := faithful_run b before distinct₁
  have f' := faithful_run b (before ++ [a]) distinct
  obtain ⟨i, l, at_i, rfl, rfl⟩ := f.life_of_stateOf? present
  have kept : l.phase ≠ .finished := by
    intro finished
    rw [f.stateOf? at_i, if_pos finished] at present
    cases present
  have leaves := f'.stateOf? (lives_snoc_of_getElem? at_i a)
  rw [Life.session_after, absent] at leaves
  split at leaves
  · rename_i finished
    obtain ⟨task, deadline, lingering, due⟩ := Life.removed_of_phase kept finished
    have reached := (punctual_lives distinct₁ unhurried at_i).lingering deadline lingering
    obtain ⟨since, opened⟩ := openedIn_of_life distinct₁ at_i
    exact ⟨task, l.request, l.openedAt, i, since, opened, reached ▸ due⟩
  · cases leaves

end

/-- As long as the supervisors keep up with the time, the registry holds exactly the sessions that
were opened lately enough. -/
theorem registry_holds_latest {b : Beginning} {as : List Action}
    (distinct : (openings (steps b.world as)).Nodup) (unhurried : Unhurried b.world as) :
    KeepsLatest b as := by
  have step : ∀ {before : List Action} {a : Action} {later : List Action},
      as = before ++ a :: later → (openings (steps b.world (before ++ [a]))).Nodup := by
    rintro before a later rfl
    rw [List.append_cons] at distinct
    exact distinct_of_append distinct
  refine ⟨?_, ?_, ?_, ?_, ?_, ?_⟩
  · rintro before later rfl session r i since inTime
    exact mem_keys_of_inTime (distinct_of_append distinct) unhurried.of_append inTime
  · rintro before later rfl settled session
    exact mem_keys_iff_inTime (distinct_of_append distinct) unhurried.of_append settled session
  · intro before a later split session state absent present
    exact opened_of_appearing (step split) absent present
  · intro before a later split session state state' present present'
    exact state_of_step (step split) present present'
  · intro before a later split session state present absent
    exact over_of_leaving (step split) (split ▸ unhurried).of_append present absent
  · rintro before a later rfl i c₁ c₂ at_before at_after grown
    exact room_of_run distinct at_before at_after grown

/-- Anything may happen in the moment after some time has passed. -/
theorem Unhurried.moment {w : World} {done rest : List Action} (unhurried : Unhurried w done)
    (settled : Settled (run w done)) (ms : Nat)
    (instant : ∀ ms', Action.service (.advance ms') ∉ rest) :
    Unhurried w (done ++ .service (.advance ms) :: rest) := by
  intro before ms' later split
  rcases List.append_eq_append_iff.mp split with ⟨more, rfl, right⟩ | ⟨more, rfl, right⟩
  · cases more with
    | nil => rwa [List.append_nil]
    | cons x more =>
      obtain ⟨-, rfl⟩ := List.cons.inj right
      exact absurd (List.mem_append_right more List.mem_cons_self) (instant ms')
  · cases more with
    | nil => rwa [List.append_nil] at settled
    | cons x more =>
      obtain ⟨rfl, -⟩ := List.cons.inj right
      exact unhurried before ms' more rfl

namespace Sample

def overlapping : List Action :=
  Session.attended beginning.world
    [.openSession request, .service (.advance 200000), .openSession request]

/-- The time of the first session is over at the moment at which its new device leaves, and its
supervisor takes notice of the departure first. -/
def crossing : List Action :=
  overlapping ++ [.service (.advance 100000), .dropReceiver 0,
    .service (.supervise 300000 .abandoned 0), .service (.supervise 300000 .deadline 0)]

end Sample

/-- The registry for two sessions of which the first has to go. -/
theorem registry_holds_latest_of_crossing : KeepsLatest Sample.beginning Sample.crossing :=
  have distinct : (openings (steps Sample.beginning.world Sample.crossing)).Nodup := by
    decide +kernel
  have attended := paced_attended (distinct_of_append distinct)
  registry_holds_latest distinct (attended.1.unhurried.moment attended.2 100000 (by simp))

end DevicePairing.Session
