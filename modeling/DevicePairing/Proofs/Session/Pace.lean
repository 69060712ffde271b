import DevicePairing.Proofs.Session.Events

set_option autoImplicit false
set_option relaxedAutoImplicit false

/-!
Supervisors that keep up. They have settled whenever someone else acts, so that a session is watched
from its opening on and ends when its time is over.
-/

namespace DevicePairing.Session

open DevicePairing
open DevicePairing.Clock

def Action.isTask : Action → Bool
  | .service (.supervise _ _ _) => true
  | _ => false

def Settled (w : World) : Prop :=
  ∀ prefer i, w.system.superviseStep (.settled w.now) prefer i = none

/-- The supervisors have settled whenever someone else acts. -/
def Paced (w : World) (as : List Action) : Prop :=
  ∀ before a later, as = before ++ a :: later → a.isTask = false → Settled (run w before)

/-- The supervisors have settled whenever time passes. What happens at one moment may come in any
order. -/
def Unhurried (w : World) (as : List Action) : Prop :=
  ∀ before ms later, as = before ++ .service (.advance ms) :: later → Settled (run w before)

theorem Paced.unhurried {w : World} {as : List Action} (h : Paced w as) : Unhurried w as :=
  fun before _ later split => h before _ later split rfl

theorem Unhurried.of_append {w : World} {before later : List Action}
    (h : Unhurried w (before ++ later)) : Unhurried w before := by
  rintro first ms rest rfl
  exact h first ms (rest ++ later) (by rw [List.append_assoc, List.cons_append])

/-- A session whose supervisor waits. -/
structure Life.Quiet (now : Nat) (l : Life) : Prop where
  started : l.phase ≠ .starting
  watching : ∀ deadline, l.phase = .watching deadline →
    now < deadline ∧ l.channel.receiving = true
  lingering : ∀ deadline, l.phase = .lingering deadline → now < deadline

theorem Faithful.quiet {w : World} {ls : List Life} (f : Faithful w.system ls) (h : Settled w)
    {i : Nat} {l : Life} (at_i : ls[i]? = some l) : l.Quiet w.now := by
  have step : w.system.superviseStep ⟨w.now, w.now⟩ .deadline i = none := h .deadline i
  have follows := f.follows at_i
  unfold Service.superviseStep at step
  rw [follows.supervisor] at step
  dsimp only at step
  refine ⟨fun starting => ?_, fun deadline watching => ?_, fun deadline lingering => ?_⟩
  · simp only [starting, reduceCtorEq] at step
  · simp only [watching, Service.causes, Service.isReceiving, follows.channel] at step
    by_cases due : deadline ≤ w.now
    · simp only [if_pos due, List.cons_append, reduceCtorEq] at step
    · cases receiving : l.channel.receiving with
      | true => exact ⟨Nat.lt_of_not_le due, rfl⟩
      | false =>
        simp only [if_neg due, receiving, Bool.false_eq_true, if_false, List.nil_append,
          reduceCtorEq] at step
  · simp only [lingering] at step
    by_cases due : deadline ≤ w.now
    · simp only [if_pos due, reduceCtorEq] at step
    · exact Nat.lt_of_not_le due

/-- What keeping up means for a session: it is watched from its opening on, it ends when its time
is over and not before, and it only expires earlier when its new device is gone. -/
structure Life.Punctual (ttl now : Nat) (l : Life) : Prop where
  starting : l.phase = .starting → now = l.openedAt
  watching : ∀ deadline, l.phase = .watching deadline → deadline = l.openedAt + ttl
  lingering : ∀ deadline, l.phase = .lingering deadline → deadline = l.openedAt + ttl
  finished : l.phase = .finished → l.openedAt + ttl ≤ now
  expired : l.state = .expired → l.channel.receiving = false ∨ l.openedAt + ttl ≤ now

private theorem Life.Punctual.wait {ttl now : Nat} {l : Life} (h : l.Punctual ttl now) {ms : Nat}
    (ready : ms = 0 ∨ l.phase ≠ .starting) : l.Punctual ttl (now + ms) where
  starting := by
    intro starting
    rcases ready with rfl | started
    · exact h.starting starting
    · exact absurd starting started
  watching := h.watching
  lingering := h.lingering
  finished := fun finished => Nat.le_add_right_of_le (h.finished finished)
  expired := fun expired => (h.expired expired).imp_right Nat.le_add_right_of_le

private theorem Life.Punctual.feel {ttl now : Nat} {l : Life} (h : l.Punctual ttl now)
    {x : Stimulus} (moment : ∀ m prefer, x = .supervision m prefer → m.now = now ∧ m.woken ≤ now) :
    (l.feel ttl x).Punctual ttl now := by
  have change := l.feel_change ttl x
  generalize l.feel ttl x = l' at change
  cases change with
  | nothing => exact h
  | decided => exact ⟨h.starting, h.watching, h.lingering, h.finished, State.noConfusion⟩
  | missed d kept waiting gone =>
    exact ⟨h.starting, h.watching, h.lingering, h.finished, fun _ => .inl gone⟩
  | received =>
    exact ⟨h.starting, h.watching, h.lingering, h.finished,
      by simpa only [Channel.receiving_receive] using h.expired⟩
  | departed => exact ⟨h.starting, h.watching, h.lingering, h.finished, fun _ => .inl rfl⟩
  | started m prefer starting =>
    obtain ⟨same, -⟩ := moment m prefer rfl
    refine ⟨Phase.noConfusion, fun deadline watching => ?_, fun _ => Phase.noConfusion,
      Phase.noConfusion, h.expired⟩
    rw [← Phase.watching.inj watching, same, h.starting starting]
  | timedOut m prefer watching due =>
    obtain ⟨-, woken⟩ := moment m prefer rfl
    have deadline := h.watching _ watching
    refine ⟨Phase.noConfusion, fun _ => Phase.noConfusion, fun d lingering => ?_,
      Phase.noConfusion, fun _ => .inr (by simp only; omega)⟩
    exact (Phase.lingering.inj lingering).symm.trans deadline
  | abandoned m prefer watching waiting gone =>
    have deadline := h.watching _ watching
    refine ⟨Phase.noConfusion, fun _ => Phase.noConfusion, fun d lingering => ?_,
      Phase.noConfusion, fun _ => .inl gone⟩
    exact (Phase.lingering.inj lingering).symm.trans deadline
  | released m prefer watching =>
    have deadline := h.watching _ watching
    refine ⟨Phase.noConfusion, fun _ => Phase.noConfusion, fun d lingering => ?_,
      Phase.noConfusion, h.expired⟩
    exact (Phase.lingering.inj lingering).symm.trans deadline
  | removed m prefer lingering due =>
    obtain ⟨-, woken⟩ := moment m prefer rfl
    have deadline := h.lingering _ lingering
    exact ⟨Phase.noConfusion, fun _ => Phase.noConfusion, fun _ => Phase.noConfusion,
      fun _ => by simp only; omega, h.expired⟩

private theorem Action.elapsed_cases (a : Action) :
    a.elapsed = 0 ∨ ∃ ms, a = .service (.advance ms) := by
  unfold elapsed
  split
  · exact .inr ⟨_, rfl⟩
  · exact .inl rfl

private theorem phase_of_no_time {w : World} {a : Action} {i : Nat} {l : Life}
    (starting : (l.after w a i).phase = .starting) : l.phase = .starting := by
  unfold Life.after at starting
  split at starting
  · exact starting
  · rename_i x _
    have change := l.feel_change w.system.config.sessionTtl.toNat x
    generalize l.feel _ x = l' at change starting
    cases change <;> first | exact starting | cases starting

theorem punctual_lives {b : Beginning} {as : List Action}
    (distinct : (openings (steps b.world as)).Nodup) (unhurried : Unhurried b.world as) {i : Nat}
    {l : Life} (at_i : (lives b as)[i]? = some l) :
    l.Punctual b.config.sessionTtl.toNat (run b.world as).now := by
  refine lives_invariant
    (P := fun as _ l => (openings (steps b.world as)).Nodup → Unhurried b.world as →
      l.Punctual b.config.sessionTtl.toNat (run b.world as).now) ?_ ?_ at_i distinct unhurried
  · intro as a l newcomer _ _
    have instant : a.elapsed = 0 := by
      cases a with
      | openSession r => rfl
      | _ => cases newcomer
    rw [newcomer?_eq] at newcomer
    obtain ⟨opening, -, rfl⟩ := Option.map_eq_some_iff.mp newcomer
    rw [now_snoc, instant]
    exact ⟨fun _ => rfl, fun _ => Phase.noConfusion, fun _ => Phase.noConfusion, Phase.noConfusion,
      State.noConfusion⟩
  · intro as a i l at_i punctual distinct unhurried
    have before := punctual (distinct_of_append distinct) unhurried.of_append
    rw [now_snoc]
    refine Life.Punctual.wait ?_ ?_
    · unfold Life.after
      rw [config_lives]
      split
      · exact before
      · rename_i x stimulus
        refine before.feel fun m prefer supervised => ?_
        exact Action.moment_of_stimulus (supervised ▸ stimulus)
    · rcases a.elapsed_cases with instant | ⟨ms, rfl⟩
      · exact .inl instant
      · have settled := unhurried as ms [] rfl
        have quiet := (faithful_run b as (distinct_of_append distinct)).quiet settled at_i
        exact .inr fun starting => quiet.started (phase_of_no_time starting)

end DevicePairing.Session
