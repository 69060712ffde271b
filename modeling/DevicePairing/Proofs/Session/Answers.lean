import DevicePairing.Proofs.Session.ChannelHistory
import DevicePairing.Proofs.Session.Settling

set_option autoImplicit false
set_option relaxedAutoImplicit false

/-!
The answers of a service as a function of what happened. As long as the supervisors keep up, what
those who may see and decide a session are told depends on the history of the session alone: when
and by whom it was opened, whether it was decided, and whether its new device has left.
-/

namespace DevicePairing.Session

open DevicePairing
open DevicePairing.Clock

/-- In a run a session was opened by a request at some time over the channel `i`, and the given
actions came after it. -/
def OpenedIn (b : Beginning) (as : List Action) (session : String) (r : PairRequest)
    (openedAt i : Nat) (later : List Action) : Prop :=
  ∃ before a o, as = before ++ a :: later ∧
    (Step.mk (run b.world before) a).opening? = some (r, o, i) ∧ o.session = session ∧
    (run b.world before).now = openedAt

def DecidedIn (b : Beginning) (as : List Action) (session : String) : Prop :=
  ∃ d, Made b as d ∧ d.session = session

def InTime (b : Beginning) (as : List Action) (session : String) (r : PairRequest) (i : Nat)
    (later : List Action) : Prop :=
  ∃ openedAt, OpenedIn b as session r openedAt i later ∧
    (run b.world as).now < openedAt + b.config.sessionTtl.toNat

/-- A session was opened by a request, its time is not over, no one has decided it and its new
device has not left. -/
def Awaits (b : Beginning) (as : List Action) (session : String) (r : PairRequest) : Prop :=
  ∃ i later, InTime b as session r i later ∧ ¬ DecidedIn b as session ∧
    .dropReceiver i ∉ later

/-- A session was opened and decided, and its time is not over. -/
def Closed (b : Beginning) (as : List Action) (session : String) : Prop :=
  (∃ r i later, InTime b as session r i later) ∧ DecidedIn b as session

/-- The life of a session that was opened. Its new device is there unless it has left. -/
theorem life_of_openedIn {b : Beginning} {as : List Action}
    (distinct : (openings (steps b.world as)).Nodup) {session : String} {r : PairRequest}
    {openedAt i : Nat} {later : List Action} (h : OpenedIn b as session r openedAt i later) :
    ∃ l, (lives b as)[i]? = some l ∧ l.origin = (session, r, openedAt) ∧
      (l.channel.receiving = true ↔ .dropReceiver i ∉ later) := by
  obtain ⟨before, a, o, rfl, opened, rfl, rfl⟩ := h
  have begun := life_of_opening (distinct_of_append distinct) opened
  clear distinct
  induction later using List.reverseRecOn with
  | nil => exact ⟨_, begun, rfl, by simp [Life.opening]⟩
  | append_singleton later x ih =>
    obtain ⟨l, at_i, origin, receiving⟩ := ih
    refine ⟨l.after (run b.world (before ++ a :: later)) x i, ?_, ?_, ?_⟩
    · rw [← List.cons_append, ← List.append_assoc]
      exact lives_snoc_of_getElem? at_i x
    · rw [Life.origin_after, origin]
    · rw [Life.receiving_after, receiving, List.mem_append, List.mem_singleton, not_or, ne_comm]

theorem openedIn_of_life {b : Beginning} {as : List Action}
    (distinct : (openings (steps b.world as)).Nodup) {i : Nat} {l : Life}
    (at_i : (lives b as)[i]? = some l) :
    ∃ later, OpenedIn b as l.session l.request l.openedAt i later := by
  refine lives_invariant
    (P := fun as i l => (openings (steps b.world as)).Nodup →
      ∃ later, OpenedIn b as l.session l.request l.openedAt i later) ?_ ?_ at_i distinct
  · intro as a l newcomer distinct
    rw [newcomer?_eq] at newcomer
    obtain ⟨⟨r, o, i⟩, opening, rfl⟩ := Option.map_eq_some_iff.mp newcomer
    rw [← channel_of_opening (distinct_of_append distinct) opening]
    exact ⟨[], as, a, o, rfl, opening, rfl, rfl⟩
  · intro as a i l _ known distinct
    obtain ⟨later, before, x, o, rfl, opened, session, openedAt⟩ :=
      known (distinct_of_append distinct)
    have origin := Life.origin_after (run b.world (before ++ x :: later)) a i l
    simp only [Life.origin, Prod.mk.injEq] at origin
    rw [origin.1, origin.2.1, origin.2.2]
    exact ⟨later ++ [a], before, x, o, by rw [List.append_assoc, List.cons_append], opened, session,
      openedAt⟩

private theorem became_of_made {b : Beginning} {as : List Action}
    (distinct : (openings (steps b.world as)).Nodup) {d : Decision} (made : Made b as d) :
    Became b as d.session (.resolved d.resolution) := by
  obtain ⟨before, h, later, rfl, asked, answered⟩ := made
  have f := faithful_run b before (distinct_of_append distinct)
  by_cases known : d.session ∈ (lives b before).map Life.session
  · obtain ⟨l, member, named⟩ := List.mem_map.mp known
    obtain ⟨i, at_i⟩ := List.mem_iff_getElem?.mp member
    rw [f.answer_decision asked at_i named.symm] at answered
    have granted := Answer.decided.inj answered
    rw [List.append_cons] at distinct ⊢
    have f' := faithful_run b (before ++ [.service h]) (distinct_of_append distinct)
    have at_i' := lives_snoc_of_getElem? at_i (.service h)
    have after : l.after (run b.world before) (.service h) i = l.decide d := by
      rw [Life.after, Action.stimulus?_of_decision asked, if_pos named.symm]
      rfl
    rw [after, Life.decide_of_verdict granted] at at_i'
    refine ⟨before ++ [.service h], later, rfl, ?_⟩
    rw [← named, f'.stateOf? at_i', if_neg (Life.verdict_eq_ok.mp granted).1]
  · rw [f.answer_absent asked known] at answered
    cases answered

theorem decidedIn_iff {b : Beginning} {as : List Action}
    (distinct : (openings (steps b.world as)).Nodup) {i : Nat} {l : Life}
    (at_i : (lives b as)[i]? = some l) :
    DecidedIn b as l.session ↔ ∃ resolution, l.state = .resolved resolution := by
  constructor
  · rintro ⟨d, made, named⟩
    have became := became_of_made distinct made
    rw [named] at became
    exact ⟨d.resolution, state_of_became distinct at_i rfl became⟩
  · rintro ⟨resolution, state⟩
    obtain ⟨last, -, word⟩ := recorded_lives distinct at_i
    cases word with
    | decision d _ made named => exact ⟨d, made, named⟩
    | waiting state' => rw [state] at state'; cases state'
    | departure state' => rw [state] at state'; cases state'
    | timeout state' => rw [state] at state'; cases state'

private theorem Life.verdict_eq_resolved {l : Life} :
    l.verdict = .error (.sessionAlreadyResolved l.session) ↔
      l.phase ≠ .finished ∧ ∃ resolution, l.state = .resolved resolution := by
  unfold verdict
  by_cases finished : l.phase = .finished
  · simp [finished]
  · rw [if_neg finished]
    cases state : l.state with
    | awaitingApproval => cases l.channel.receiving <;> simp
    | resolved r => simp [finished]
    | _ => simp

section

variable {b : Beginning} {as : List Action} (distinct : (openings (steps b.world as)).Nodup)
  {i : Nat} {l : Life} (at_i : (lives b as)[i]? = some l)

include distinct at_i

theorem kept_of_in_time (unhurried : Unhurried b.world as)
    (early : (run b.world as).now < l.openedAt + b.config.sessionTtl.toNat) :
    l.phase ≠ .finished := by
  intro finished
  have reached := (punctual_lives distinct unhurried at_i).finished finished
  exact absurd reached (Nat.not_le_of_lt early)

theorem kept_iff_in_time (unhurried : Unhurried b.world as) (settled : Settled (run b.world as)) :
    l.phase ≠ .finished ↔
      (run b.world as).now < l.openedAt + b.config.sessionTtl.toNat := by
  have punctual := punctual_lives distinct unhurried at_i
  have quiet := (faithful_run b as distinct).quiet settled at_i
  refine ⟨fun kept => ?_, kept_of_in_time distinct at_i unhurried⟩
  cases phase : l.phase with
  | starting => exact absurd phase quiet.started
  | watching deadline =>
    rw [← punctual.watching deadline phase]
    exact (quiet.watching deadline phase).1
  | lingering deadline =>
    rw [← punctual.lingering deadline phase]
    exact quiet.lingering deadline phase
  | finished => exact absurd phase kept

end

section

variable {b : Beginning} {as : List Action} (distinct : (openings (steps b.world as)).Nodup)
  (paced : Paced b.world as) (settled : Settled (run b.world as)) {i : Nat} {l : Life}
  (at_i : (lives b as)[i]? = some l)

include distinct paced settled at_i

private theorem inTime_iff {r : PairRequest} {j : Nat} {later : List Action}
    (h : InTime b as l.session r j later) :
    j = i ∧ r = l.request ∧ l.phase ≠ .finished ∧
      (l.channel.receiving = true ↔ .dropReceiver i ∉ later) := by
  obtain ⟨openedAt, opened, early⟩ := h
  obtain ⟨k, at_j, origin, receiving⟩ := life_of_openedIn distinct opened
  simp only [Life.origin, Prod.mk.injEq] at origin
  obtain rfl := (faithful_run b as distinct).eq_of_session at_j at_i origin.1
  rw [at_i] at at_j
  obtain rfl := Option.some.inj at_j
  rw [← origin.2.2] at early
  have kept := (kept_iff_in_time distinct at_i paced.unhurried settled).mpr early
  exact ⟨rfl, origin.2.1.symm, kept, receiving⟩

private theorem inTime_of_kept (kept : l.phase ≠ .finished) :
    ∃ later, InTime b as l.session l.request i later := by
  obtain ⟨later, opened⟩ := openedIn_of_life distinct at_i
  have early := (kept_iff_in_time distinct at_i paced.unhurried settled).mp kept
  exact ⟨later, l.openedAt, opened, early⟩

private theorem awaits_iff (r : PairRequest) :
    Awaits b as l.session r ↔ r = l.request ∧ l.verdict = .ok () := by
  rw [Life.verdict_eq_ok]
  constructor
  · rintro ⟨j, later, inTime, undecided, present⟩
    obtain ⟨rfl, rfl, kept, receiving⟩ := inTime_iff distinct paced settled at_i inTime
    have here := receiving.mpr present
    refine ⟨rfl, kept, ?_, here⟩
    have punctual := punctual_lives distinct paced.unhurried at_i
    cases state : l.state with
    | awaitingApproval => rfl
    | created =>
      have wf := (faithful_run b as distinct).wellFormed l (List.mem_of_getElem? at_i)
      exact absurd state wf.state_ne_created
    | resolved resolution =>
      exact absurd ((decidedIn_iff distinct at_i).mpr ⟨resolution, state⟩) undecided
    | expired =>
      have early := (kept_iff_in_time distinct at_i paced.unhurried settled).mp kept
      rcases punctual.expired state with gone | passed
      · rw [here] at gone
        cases gone
      · exact absurd passed (Nat.not_le_of_lt early)
  · rintro ⟨rfl, kept, waiting, here⟩
    obtain ⟨later, inTime⟩ := inTime_of_kept distinct paced settled at_i kept
    obtain ⟨-, -, -, receiving⟩ := inTime_iff distinct paced settled at_i inTime
    refine ⟨i, later, inTime, fun decided => ?_, receiving.mp here⟩
    obtain ⟨resolution, state⟩ := (decidedIn_iff distinct at_i).mp decided
    rw [waiting] at state
    cases state

private theorem closed_iff :
    Closed b as l.session ↔ l.verdict = .error (.sessionAlreadyResolved l.session) := by
  rw [Life.verdict_eq_resolved, Closed, decidedIn_iff distinct at_i]
  refine and_congr_left fun _ => ?_
  constructor
  · rintro ⟨r, j, later, inTime⟩
    exact (inTime_iff distinct paced settled at_i inTime).2.2.1
  · intro kept
    obtain ⟨later, inTime⟩ := inTime_of_kept distinct paced settled at_i kept
    exact ⟨l.request, i, later, inTime⟩

end

private theorem not_openedIn {b : Beginning} {as : List Action}
    (distinct : (openings (steps b.world as)).Nodup) {session : String}
    (unknown : session ∉ (lives b as).map Life.session) (r : PairRequest) (openedAt i : Nat)
    (later : List Action) : ¬ OpenedIn b as session r openedAt i later := by
  intro opened
  obtain ⟨l, at_i, origin, -⟩ := life_of_openedIn distinct opened
  have named : l.session = session := congrArg Prod.fst origin
  exact unknown (named ▸ List.mem_map_of_mem (List.mem_of_getElem? at_i))

/-- What is told about a session that was opened by a request. -/
def dataOf (session : String) (r : PairRequest) : PairingData :=
  ⟨session, Exchange.payload session, r.name, r.description, r.restrictions⟩

section

variable {w : World} {ls : List Life} (f : Faithful w.system ls) {q : SignedRequest}
  {body : LookupBody} {a : NodeAuthority}
  (opened : w.system.openAuthorized LookupBody.codec .getPairingData q = .ok (body, a))

include f opened

private theorem Faithful.answer_lookUp {i : Nat} {l : Life} (at_i : ls[i]? = some l)
    (named : body.session = l.session) :
    ((Happening.lookUp q).perform w).1 =
      if l.phase ≠ .finished ∧ l.state = .awaitingApproval then
        .data (.ok (dataOf l.session l.request))
      else .data (.error (.sessionNotFound l.session)) := by
  have entry := f.entries i l at_i
  simp only [Happening.perform, Transport.Direct.pairingData, Service.pairingData, opened,
    Results.ok_bind, named, entry, Life.kept?]
  by_cases finished : l.phase = .finished
  · simp [finished]
  · cases state : l.state <;> simp [finished, Life.entryAs, State.isOpen, Service.describe, dataOf]

private theorem Faithful.answer_lookUp_absent (unknown : body.session ∉ ls.map Life.session) :
    ((Happening.lookUp q).perform w).1 = .data (.error (.sessionNotFound body.session)) := by
  simp only [Happening.perform, Transport.Direct.pairingData, Service.pairingData, opened,
    Results.ok_bind, f.absent unknown]

end

private theorem Life.Quiet.receiving {now : Nat} {l : Life} (h : l.Quiet now) (wf : l.WellFormed)
    (waiting : l.state = .awaitingApproval) : l.channel.receiving = true := by
  rcases wf.watched waiting with starting | ⟨deadline, watching⟩
  · exact absurd starting h.started
  · exact (h.watching deadline watching).2

/-- The answers that a service gives after some actions to those who may see and decide sessions, as
a function of what happened. -/
structure AnswersFromHistory (b : Beginning) (as : List Action) : Prop where
  made : ∀ (h : Happening) (d : Decision), h.decision? (run b.world as) = some d →
    ((h.perform (run b.world as)).1 = .decided (.ok ()) ↔ ∃ r, Awaits b as d.session r)
  /-- It is refused with the earlier one exactly if there was one within the time of the session. -/
  resolved : ∀ (h : Happening) (d : Decision), h.decision? (run b.world as) = some d →
    ((h.perform (run b.world as)).1 = .decided (.error (.sessionAlreadyResolved d.session)) ↔
      Closed b as d.session)
  unknown : ∀ (h : Happening) (d : Decision), h.decision? (run b.world as) = some d →
    ((h.perform (run b.world as)).1 = .decided (.error (.sessionNotFound d.session)) ↔
      ¬ (∃ r, Awaits b as d.session r) ∧ ¬ Closed b as d.session)
  /-- What opened a session is told exactly as long as it awaits a decision. -/
  described : ∀ (q : SignedRequest) (body : LookupBody) (a : NodeAuthority),
    (run b.world as).system.openAuthorized LookupBody.codec .getPairingData q = .ok (body, a) →
    ∀ data, ((Happening.lookUp q).perform (run b.world as)).1 = .data (.ok data) ↔
      ∃ r, Awaits b as body.session r ∧ data = dataOf body.session r
  undescribed : ∀ (q : SignedRequest) (body : LookupBody) (a : NodeAuthority),
    (run b.world as).system.openAuthorized LookupBody.codec .getPairingData q = .ok (body, a) →
    (((Happening.lookUp q).perform (run b.world as)).1 =
      .data (.error (.sessionNotFound body.session)) ↔ ¬ ∃ r, Awaits b as body.session r)

section

variable {b : Beginning} {as : List Action} (distinct : (openings (steps b.world as)).Nodup)
  (paced : Paced b.world as) (settled : Settled (run b.world as))

include distinct paced settled

private theorem answers_decision {h : Happening} {d : Decision}
    (asked : h.decision? (run b.world as) = some d) :
    ((h.perform (run b.world as)).1 = .decided (.ok ()) ↔ ∃ r, Awaits b as d.session r) ∧
      ((h.perform (run b.world as)).1 = .decided (.error (.sessionAlreadyResolved d.session)) ↔
        Closed b as d.session) ∧
      ((h.perform (run b.world as)).1 = .decided (.error (.sessionNotFound d.session)) ↔
        ¬ (∃ r, Awaits b as d.session r) ∧ ¬ Closed b as d.session) := by
  have f := faithful_run b as distinct
  by_cases known : d.session ∈ (lives b as).map Life.session
  · obtain ⟨l, member, named⟩ := List.mem_map.mp known
    obtain ⟨i, at_i⟩ := List.mem_iff_getElem?.mp member
    have awaits : (∃ r, Awaits b as l.session r) ↔ l.verdict = .ok () := by
      simp only [awaits_iff distinct paced settled at_i, exists_eq_left]
    have closed := closed_iff distinct paced settled at_i
    rw [f.answer_decision asked at_i named.symm, ← named, awaits, closed]
    rcases l.verdict_eq_ok_or with verdict | verdict | verdict <;> simp [verdict]
  · have never : ∀ r t i later, ¬ OpenedIn b as d.session r t i later :=
      not_openedIn distinct known
    have unawaited : ¬ ∃ r, Awaits b as d.session r := by
      rintro ⟨r, i, later, ⟨openedAt, opened, -⟩, -⟩
      exact never r openedAt i later opened
    have unclosed : ¬ Closed b as d.session := by
      rintro ⟨⟨r, i, later, openedAt, opened, -⟩, -⟩
      exact never r openedAt i later opened
    rw [f.answer_absent asked known]
    simp [unawaited, unclosed]

private theorem answers_lookUp {q : SignedRequest} {body : LookupBody} {a : NodeAuthority}
    (opened : (run b.world as).system.openAuthorized LookupBody.codec .getPairingData q =
      .ok (body, a)) :
    (∀ data, ((Happening.lookUp q).perform (run b.world as)).1 = .data (.ok data) ↔
      ∃ r, Awaits b as body.session r ∧ data = dataOf body.session r) ∧
      (((Happening.lookUp q).perform (run b.world as)).1 =
        .data (.error (.sessionNotFound body.session)) ↔ ¬ ∃ r, Awaits b as body.session r) := by
  have f := faithful_run b as distinct
  by_cases known : body.session ∈ (lives b as).map Life.session
  · obtain ⟨l, member, named⟩ := List.mem_map.mp known
    obtain ⟨i, at_i⟩ := List.mem_iff_getElem?.mp member
    have receiving := (f.quiet settled at_i).receiving (f.wellFormed l member)
    rw [f.answer_lookUp opened at_i named.symm, ← named]
    simp only [awaits_iff distinct paced settled at_i, Life.verdict_eq_ok]
    by_cases waits : l.phase ≠ .finished ∧ l.state = .awaitingApproval
    · simp [waits, receiving waits.2, eq_comm]
    · have unawaited : ¬ (l.phase ≠ .finished ∧ l.state = .awaitingApproval ∧
          l.channel.receiving = true) := fun ⟨kept, waiting, _⟩ => waits ⟨kept, waiting⟩
      simp [waits, unawaited]
  · have unawaited : ∀ r, ¬ Awaits b as body.session r := by
      rintro r ⟨i, later, ⟨openedAt, opened, -⟩, -⟩
      exact not_openedIn distinct known r openedAt i later opened
    rw [f.answer_lookUp_absent opened known]
    simp [unawaited]

/-- As long as the supervisors keep up, the answers of a service follow from the history. -/
theorem answers_follow_history : AnswersFromHistory b as where
  made _ _ asked := (answers_decision distinct paced settled asked).1
  resolved _ _ asked := (answers_decision distinct paced settled asked).2.1
  unknown _ _ asked := (answers_decision distinct paced settled asked).2.2
  described _ _ _ opened := (answers_lookUp distinct paced settled opened).1
  undescribed _ _ _ opened := (answers_lookUp distinct paced settled opened).2

end

namespace Sample

def attended : List Action :=
  Session.attended beginning.world
    [.service (.register authority), .openSession request, .service (.advance 300000)]

end Sample

/-- The answers for a session whose time is over. -/
theorem answers_follow_history_of_attended : AnswersFromHistory Sample.beginning Sample.attended :=
  have distinct : (openings (steps Sample.beginning.world Sample.attended)).Nodup := by
    decide +kernel
  answers_follow_history distinct (paced_attended distinct).1 (paced_attended distinct).2

end DevicePairing.Session
