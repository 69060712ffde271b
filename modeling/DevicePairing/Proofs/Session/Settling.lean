import DevicePairing.Proofs.Session.Pace

set_option autoImplicit false
set_option relaxedAutoImplicit false

namespace DevicePairing.Session

open DevicePairing
open DevicePairing.Clock

/-- A step of a supervisor that is woken for all times up to now. -/
def supervision (now i : Nat) : Action := .service (.supervise now .deadline i)

/-- The steps of one supervisor until it has to wait: it has three phases to leave. -/
def supervisions (now i : Nat) : List Action :=
  [supervision now i, supervision now i, supervision now i]

private theorem after_supervision {w : World} {now : Nat} (time : w.now = now) (i j : Nat)
    (l : Life) :
    l.after w (supervision now j) i =
      if j = i then l.supervise w.system.config.sessionTtl.toNat ⟨now, now⟩ .deadline else l := by
  subst time
  unfold Life.after supervision
  by_cases same : j = i
  · simp only [Action.stimulus?, if_pos same, Nat.min_self, Life.feel]
  · simp only [Action.stimulus?, if_neg same]

private theorem Life.Quiet.supervise {now : Nat} {l : Life} (h : l.Quiet now) (ttl : Nat) :
    l.supervise ttl ⟨now, now⟩ .deadline = l := by
  unfold Life.supervise
  cases phase : l.phase with
  | starting => exact absurd phase h.started
  | watching deadline =>
    obtain ⟨early, receiving⟩ := h.watching deadline phase
    simp only [Life.causes, if_neg (Nat.not_le_of_lt early), receiving, if_true, List.append_nil]
  | lingering deadline =>
    simp only [if_neg (Nat.not_le_of_lt (h.lingering deadline phase))]
  | finished => rfl

private theorem quiet_of_finished {now : Nat} {l : Life} (finished : l.phase = .finished) :
    l.Quiet now :=
  ⟨by simp [finished], by simp [finished], by simp [finished]⟩

private theorem quiet_of_lingering {l : Life} {deadline : Nat} (ttl now : Nat)
    (lingering : l.phase = .lingering deadline) :
    (l.supervise ttl ⟨now, now⟩ .deadline).Quiet now := by
  simp only [Life.supervise, lingering]
  by_cases due : deadline ≤ now
  · rw [if_pos due]
    exact quiet_of_finished rfl
  · rw [if_neg due]
    exact ⟨by simp [lingering], by simp [lingering], by simp [lingering, Nat.lt_of_not_le due]⟩

private theorem quiet_of_watching {l : Life} {deadline : Nat} (ttl now : Nat)
    (watching : l.phase = .watching deadline) :
    ((l.supervise ttl ⟨now, now⟩ .deadline).supervise ttl ⟨now, now⟩ .deadline).Quiet now := by
  cases causes : l.causes ⟨now, now⟩ deadline with
  | nil =>
    have quiet : l.Quiet now := by
      unfold Life.causes at causes
      by_cases due : deadline ≤ now
      · simp only [if_pos due, List.cons_append, reduceCtorEq] at causes
      · cases receiving : l.channel.receiving with
        | true =>
          exact ⟨by simp [watching], by simp [watching, Nat.lt_of_not_le due, receiving],
            by simp [watching]⟩
        | false =>
          simp only [if_neg due, receiving, Bool.false_eq_true, if_false, List.nil_append,
            reduceCtorEq] at causes
    rwa [quiet.supervise, quiet.supervise]
  | cons cause more =>
    have stopped : (l.supervise ttl ⟨now, now⟩ .deadline).phase = .lingering deadline := by
      simp only [Life.supervise, watching, causes]
    exact quiet_of_lingering ttl now stopped

private theorem quiet_of_three (ttl now : Nat) (l : Life) :
    (((l.supervise ttl ⟨now, now⟩ .deadline).supervise ttl ⟨now, now⟩ .deadline).supervise ttl
      ⟨now, now⟩ .deadline).Quiet now := by
  cases phase : l.phase with
  | starting =>
    have watched : (l.supervise ttl ⟨now, now⟩ .deadline).phase = .watching (now + ttl) := by
      simp only [Life.supervise, phase]
    exact quiet_of_watching ttl now watched
  | watching deadline =>
    have quiet := quiet_of_watching ttl now phase
    rwa [quiet.supervise]
  | lingering deadline =>
    have quiet := quiet_of_lingering ttl now phase
    rwa [quiet.supervise, quiet.supervise]
  | finished =>
    have quiet : l.Quiet now := quiet_of_finished phase
    rwa [quiet.supervise, quiet.supervise, quiet.supervise]

private theorem now_supervision (w : World) (as : List Action) (now j : Nat) :
    (run w (as ++ [supervision now j])).now = (run w as).now := now_snoc _ _ _

private theorem lives_supervisions {b : Beginning} {as : List Action} {now : Nat}
    (time : (run b.world as).now = now) {i : Nat} {l : Life} (at_i : (lives b as)[i]? = some l)
    (j : Nat) :
    ∃ l', (lives b (as ++ supervisions now j))[i]? = some l' ∧
      (j = i ∨ l.Quiet now → l'.Quiet now) := by
  have time₁ := (now_supervision b.world as now j).trans time
  have time₂ := (now_supervision b.world _ now j).trans time₁
  have first := lives_snoc_of_getElem? at_i (supervision now j)
  rw [after_supervision time, config_lives] at first
  have second := lives_snoc_of_getElem? first (supervision now j)
  rw [after_supervision time₁, config_lives] at second
  have third := lives_snoc_of_getElem? second (supervision now j)
  rw [after_supervision time₂, config_lives] at third
  simp only [List.append_assoc, List.cons_append, List.nil_append] at third
  refine ⟨_, third, fun quiet => ?_⟩
  by_cases same : j = i
  · simp only [if_pos same]
    exact quiet_of_three _ now l
  · simp only [if_neg same]
    exact quiet.resolve_left same

def supervisionsBelow (now n : Nat) : List Action := (List.range n).flatMap (supervisions now)

/-- The steps of all supervisors until they have to wait. -/
def settling (w : World) : List Action := supervisionsBelow w.now w.system.supervisors.length

private theorem supervisionsBelow_succ (now n : Nat) :
    supervisionsBelow now (n + 1) = supervisionsBelow now n ++ supervisions now n := by
  rw [supervisionsBelow, List.range_succ, List.flatMap_append, List.flatMap_singleton]
  rfl

private theorem isTask_of_mem_supervisionsBelow {now n : Nat} {a : Action}
    (member : a ∈ supervisionsBelow now n) : a.isTask = true := by
  obtain ⟨i, -, one⟩ := List.mem_flatMap.mp member
  simp only [supervisions, List.mem_cons, List.not_mem_nil, or_false, or_self] at one
  rw [one]
  rfl

private theorem now_supervisionsBelow (w : World) (now n : Nat) :
    (run w (supervisionsBelow now n)).now = w.now := by
  induction n with
  | zero => rfl
  | succ n ih =>
    rw [supervisionsBelow_succ, supervisions, run_append]
    simp only [run, Action.now_perform, supervision, Action.elapsed, Nat.add_zero, ih]

private theorem lives_supervisionsBelow {b : Beginning} {as : List Action} {now : Nat}
    (time : (run b.world as).now = now) (n : Nat) {i : Nat} {l : Life}
    (at_i : (lives b as)[i]? = some l) :
    ∃ l', (lives b (as ++ supervisionsBelow now n))[i]? = some l' ∧ (i < n → l'.Quiet now) := by
  induction n with
  | zero => exact ⟨l, by rwa [supervisionsBelow, List.range_zero, List.flatMap_nil, List.append_nil],
      fun below => absurd below (Nat.not_lt_zero i)⟩
  | succ n ih =>
    obtain ⟨k, at_k, quiet⟩ := ih
    have time' : (run b.world (as ++ supervisionsBelow now n)).now = now := by
      rw [run_append, now_supervisionsBelow, time]
    obtain ⟨l', at_i', quiet'⟩ := lives_supervisions time' at_k n
    rw [supervisionsBelow_succ, ← List.append_assoc]
    refine ⟨l', at_i', fun below => quiet' ?_⟩
    rcases Nat.lt_succ_iff_lt_or_eq.mp below with less | same
    · exact .inr (quiet less)
    · exact .inl same.symm

private theorem length_lives_tasks (b : Beginning) (as tasks : List Action)
    (all : ∀ a ∈ tasks, a.isTask = true) :
    (lives b (as ++ tasks)).length = (lives b as).length := by
  induction tasks using List.reverseRecOn with
  | nil => rw [List.append_nil]
  | append_singleton tasks a ih =>
    have task := all a (List.mem_append_right _ List.mem_cons_self)
    have old : a.newcomer? (run b.world (as ++ tasks)) = none := by
      cases a with
      | openSession r => cases task
      | _ => rfl
    rw [← List.append_assoc, lives_snoc, Action.evolve, old, Option.toList_none, List.append_nil,
      List.length_mapIdx, ih fun a member => all a (List.mem_append_left _ member)]

private theorem Faithful.settled {w : World} {ls : List Life} (f : Faithful w.system ls)
    (quiet : ∀ (i : Nat) (l : Life), ls[i]? = some l → l.Quiet w.now) : Settled w := by
  intro prefer i
  cases at_i : ls[i]? with
  | none =>
    unfold Service.superviseStep
    rw [f.supervisors, List.getElem?_mapIdx, at_i]
    rfl
  | some l =>
    have waits := quiet i l at_i
    have follows := f.follows at_i
    unfold Service.superviseStep
    rw [follows.supervisor]
    dsimp only
    cases phase : l.phase with
    | starting => exact absurd phase waits.started
    | watching deadline =>
      obtain ⟨early, receiving⟩ := waits.watching deadline phase
      have none : w.system.causes (.settled w.now) ⟨l.session, i, .watching deadline⟩ = [] := by
        simp only [Service.causes, Service.isReceiving, follows.channel, receiving, Moment.settled]
        simp [Nat.not_le_of_lt early]
      simp only [none]
    | lingering deadline => exact if_neg (Nat.not_le_of_lt (waits.lingering deadline phase))
    | finished => rfl

private theorem settled_settling {b : Beginning} {as : List Action}
    (distinct : (openings (steps b.world (as ++ settling (run b.world as)))).Nodup) :
    Settled (run b.world (as ++ settling (run b.world as))) := by
  have f := faithful_run b as (distinct_of_append distinct)
  have f' := faithful_run b _ distinct
  have tasks := length_lives_tasks b as (settling (run b.world as))
    fun a member => isTask_of_mem_supervisionsBelow member
  refine f'.settled fun i l at_i => ?_
  obtain ⟨inside, -⟩ := List.getElem?_eq_some_iff.mp at_i
  rw [tasks] at inside
  obtain ⟨l', at_i', quiet⟩ := lives_supervisionsBelow rfl
    (run b.world as).system.supervisors.length (List.getElem?_eq_getElem inside)
  have same : (lives b (as ++ settling (run b.world as)))[i]? = some l' := at_i'
  rw [at_i] at same
  obtain rfl := Option.some.inj same
  have count : i < (run b.world as).system.supervisors.length := by
    rw [f.supervisors, List.length_mapIdx]
    exact inside
  have time : (run b.world (as ++ settling (run b.world as))).now = (run b.world as).now := by
    rw [run_append, settling, now_supervisionsBelow]
  rw [time]
  exact quiet count

private theorem run_supervisions (w : World) (i : Nat) :
    run w (supervisions w.now i) = w.withSystem (w.system.superviseOne (.settled w.now) i) := by
  simp only [supervisions, supervision, run, Action.perform, Happening.perform,
    Environment.withSystem, Nat.min_self]
  rfl

private theorem run_settling (w : World) : run w (settling w) = w.settle := by
  have below : ∀ n, run w (supervisionsBelow w.now n) =
      w.withSystem ((List.range n).foldl
        (fun s i => s.superviseOne (.settled w.now) i) w.system) := by
    intro n
    induction n with
    | zero => rfl
    | succ n ih =>
      rw [supervisionsBelow_succ, run_append, ih, List.range_succ, List.foldl_append]
      exact run_supervisions (w.withSystem _) n
  exact below _

def attended (w : World) (as : List Action) : List Action :=
  as.foldl (fun done a => done ++ [a] ++ settling (run w (done ++ [a]))) []

private theorem Paced.round {w : World} {done tasks : List Action} {a : Action}
    (paced : Paced w done) (settled : Settled (run w done))
    (all : ∀ a ∈ tasks, a.isTask = true) : Paced w (done ++ [a] ++ tasks) := by
  induction tasks using List.reverseRecOn with
  | nil =>
    intro before x later split caller
    rw [List.append_nil] at split
    rcases List.eq_nil_or_concat later with rfl | ⟨later, last, rfl⟩
    · obtain ⟨rfl, -⟩ := List.append_inj' split rfl
      exact settled
    · rw [List.concat_eq_append, ← List.cons_append, ← List.append_assoc] at split
      obtain ⟨rfl, -⟩ := List.append_inj' split rfl
      exact paced before x later rfl caller
  | append_singleton tasks task ih =>
    have earlier := ih fun a member => all a (List.mem_append_left _ member)
    intro before x later split caller
    rw [← List.append_assoc] at split
    rcases List.eq_nil_or_concat later with rfl | ⟨later, last, rfl⟩
    · obtain ⟨-, single⟩ := List.append_inj' split rfl
      have last := all task (List.mem_append_right _ List.mem_cons_self)
      rw [(List.cons.inj single).1, caller] at last
      cases last
    · rw [List.concat_eq_append, ← List.cons_append, ← List.append_assoc] at split
      obtain ⟨whole, -⟩ := List.append_inj' split rfl
      exact earlier before x later whole caller

/-- When the supervisors go on after every action until they have to wait, they keep up. -/
theorem paced_attended {b : Beginning} {as : List Action}
    (distinct : (openings (steps b.world (attended b.world as))).Nodup) :
    Paced b.world (attended b.world as) ∧ Settled (run b.world (attended b.world as)) := by
  induction as using List.reverseRecOn with
  | nil =>
    refine ⟨fun before a later split => ?_, fun prefer i => rfl⟩
    rw [attended, List.foldl_nil] at split
    cases before <;> cases split
  | append_singleton as a ih =>
    simp only [attended, List.foldl_append, List.foldl_cons, List.foldl_nil] at distinct ⊢
    have distinct' := distinct_of_append (distinct_of_append distinct)
    obtain ⟨paced, settled⟩ := ih distinct'
    exact ⟨paced.round settled fun a member => isTask_of_mem_supervisionsBelow member,
      settled_settling distinct⟩

end DevicePairing.Session
