import DevicePairing.Proofs.Session.Faithful
import DevicePairing.Proofs.Session.Setup

set_option autoImplicit false
set_option relaxedAutoImplicit false

namespace DevicePairing.Session

open DevicePairing
open DevicePairing.Clock

namespace Life

/-- What never changes in a life: the name, the request and the time of the opening. -/
def origin (l : Life) : String × PairRequest × Nat := (l.session, l.request, l.openedAt)

theorem origin_feel (ttl : Nat) (l : Life) (x : Stimulus) : (l.feel ttl x).origin = l.origin := by
  have change := l.feel_change ttl x
  generalize l.feel ttl x = l' at change
  cases change <;> rfl

theorem origin_after (w : World) (a : Action) (i : Nat) (l : Life) :
    (l.after w a i).origin = l.origin := by
  unfold after
  split
  · rfl
  · exact origin_feel _ _ _

theorem session_after (w : World) (a : Action) (i : Nat) (l : Life) :
    (l.after w a i).session = l.session := congrArg Prod.fst (origin_after w a i l)

end Life

/-- A step opens a session when the request is accepted, under the next name and over a new
channel. -/
theorem opening?_eq (w : World) (a : Action) :
    (Step.mk w a).opening? =
      match a with
      | .openSession r =>
        match w.system.checkOpening r with
        | .error _ => none
        | .ok _ =>
          some (r, (w.system.accept w.now w.entropy r).opened,
            (w.system.accept w.now w.entropy r).channel)
      | _ => none := by
  cases a with
  | openSession r =>
    simp only [Step.opening?, Step.answer, Action.perform, Transport.Direct.pairDevice,
      Service.openSession_eq]
    cases w.system.checkOpening r <;> rfl
  | _ => rfl

theorem newcomer?_eq (w : World) (a : Action) :
    a.newcomer? w = (Step.mk w a).opening?.map fun (r, o, _) =>
      Life.opening w.system.config o.session r w.now := by
  rw [opening?_eq]
  cases a with
  | openSession r =>
    simp only [Action.newcomer?]
    cases w.system.checkOpening r <;> rfl
  | _ => rfl

private theorem openings_single (w : World) (a : Action) :
    openings [⟨w, a⟩] = (a.newcomer? w).toList.map Life.session := by
  rw [newcomer?_eq, openings, List.filterMap_cons]
  cases (Step.mk w a).opening? <;> rfl

private theorem map_session_evolve (w : World) (a : Action) (ls : List Life) :
    (a.evolve w ls).map Life.session =
      ls.map Life.session ++ (a.newcomer? w).toList.map Life.session := by
  unfold Action.evolve
  rw [List.map_append]
  congr 1
  apply List.ext_getElem?
  intro i
  rw [List.getElem?_map, List.getElem?_mapIdx, List.getElem?_map]
  cases ls[i]? with
  | none => rfl
  | some l => exact congrArg some (Life.session_after w a i l)

theorem map_session_lives (b : Beginning) (as : List Action) :
    (lives b as).map Life.session = openings (steps b.world as) := by
  induction as using List.reverseRecOn with
  | nil => rfl
  | append_singleton as a ih =>
    rw [lives_snoc, map_session_evolve, ih, steps_snoc, openings_append, openings_single]

theorem distinct_of_append {b : Beginning} {before later : List Action}
    (distinct : (openings (steps b.world (before ++ later))).Nodup) :
    (openings (steps b.world before)).Nodup := by
  rw [steps_append, openings_append] at distinct
  exact (List.nodup_append.mp distinct).1

theorem faithful_run (b : Beginning) (as : List Action)
    (distinct : (openings (steps b.world as)).Nodup) :
    Faithful (run b.world as).system (lives b as) := by
  induction as using List.reverseRecOn with
  | nil =>
    exact
      { channels := rfl
        supervisors := rfl
        entries := fun _ _ at_i => by cases at_i
        known := fun _ _ entry => by cases entry
        distinct := List.nodup_nil
        wellFormed := fun _ member => by cases member }
  | append_singleton as a ih =>
    rw [run_snoc, lives_snoc]
    refine (ih (distinct_of_append distinct)).perform a fun l newcomer known => ?_
    rw [← map_session_lives, lives_snoc, map_session_evolve, newcomer] at distinct
    exact (List.nodup_append.mp distinct).2.2 _ known _ List.mem_cons_self rfl

theorem config_lives (b : Beginning) (as : List Action) :
    (run b.world as).system.config = b.config := config_run b.world as

theorem lives_snoc_cases {b : Beginning} {as : List Action} {a : Action} {i : Nat} {l : Life}
    (at_i : (lives b (as ++ [a]))[i]? = some l) :
    (∃ k, (lives b as)[i]? = some k ∧ l = k.after (run b.world as) a i) ∨
      (i = (lives b as).length ∧ a.newcomer? (run b.world as) = some l) := by
  rw [lives_snoc, Action.evolve] at at_i
  by_cases old : i < (lives b as).length
  · left
    rw [List.getElem?_append_left (by simpa using old), List.getElem?_mapIdx] at at_i
    cases known : (lives b as)[i]? with
    | none => simp only [known, Option.map_none, reduceCtorEq] at at_i
    | some k =>
      simp only [known, Option.map_some, Option.some.injEq] at at_i
      exact ⟨k, rfl, at_i.symm⟩
  · right
    rw [List.getElem?_append_right (by simpa using old), List.length_mapIdx] at at_i
    cases newcomer : a.newcomer? (run b.world as) with
    | none => simp only [newcomer, Option.toList_none, List.getElem?_nil, reduceCtorEq] at at_i
    | some k =>
      simp only [newcomer, Option.toList_some] at at_i
      obtain ⟨hi, same⟩ := List.getElem?_eq_some_iff.mp at_i
      simp only [List.length_cons, List.length_nil] at hi
      refine ⟨by omega, ?_⟩
      rw [← same, List.getElem_singleton]

theorem lives_snoc_of_getElem? {b : Beginning} {as : List Action} {i : Nat} {l : Life}
    (at_i : (lives b as)[i]? = some l) (a : Action) :
    (lives b (as ++ [a]))[i]? = some (l.after (run b.world as) a i) := by
  obtain ⟨hi, -⟩ := List.getElem?_eq_some_iff.mp at_i
  rw [lives_snoc, Action.evolve, List.getElem?_append_left (by simpa using hi),
    List.getElem?_mapIdx, at_i]
  rfl

/-- What holds of a life from its beginning on and is kept by all that reaches it holds in every
run. -/
theorem lives_invariant {b : Beginning} {P : List Action → Nat → Life → Prop}
    (begun : ∀ as a l, a.newcomer? (run b.world as) = some l →
      P (as ++ [a]) (lives b as).length l)
    (goesOn : ∀ as a i l, (lives b as)[i]? = some l → P as i l →
      P (as ++ [a]) i (l.after (run b.world as) a i))
    {as : List Action} {i : Nat} {l : Life} (at_i : (lives b as)[i]? = some l) : P as i l := by
  induction as using List.reverseRecOn generalizing l with
  | nil => cases at_i
  | append_singleton as a ih =>
    rcases lives_snoc_cases at_i with ⟨k, known, rfl⟩ | ⟨rfl, newcomer⟩
    · exact goesOn as a i k known (ih known)
    · exact begun as a l newcomer

/-- A life goes on in a longer run, and a relation that all that reaches it respects holds between
what it was and what it is. -/
theorem lives_append {b : Beginning} {before : List Action} {i : Nat} {l : Life}
    (at_i : (lives b before)[i]? = some l) {R : Life → Prop} (now : R l)
    (goesOn : ∀ as a k, R k → R (k.after (run b.world as) a i)) (later : List Action) :
    ∃ l', (lives b (before ++ later))[i]? = some l' ∧ R l' := by
  induction later using List.reverseRecOn with
  | nil => exact ⟨l, by rwa [List.append_nil], now⟩
  | append_singleton later a ih =>
    obtain ⟨k, known, holds⟩ := ih
    rw [← List.append_assoc]
    exact ⟨_, lives_snoc_of_getElem? known a, goesOn _ a k holds⟩

theorem channel_of_opening {b : Beginning} {as : List Action} {a : Action} {r : PairRequest}
    {o : Opened} {i : Nat} (distinct : (openings (steps b.world as)).Nodup)
    (opened : (Step.mk (run b.world as) a).opening? = some (r, o, i)) :
    i = (lives b as).length := by
  rw [opening?_eq] at opened
  cases a with
  | openSession q =>
    simp only at opened
    cases check : (run b.world as).system.checkOpening q with
    | error cause => simp only [check, reduceCtorEq] at opened
    | ok _ =>
      simp only [check, Option.some.injEq, Prod.mk.injEq] at opened
      have removed : ((run b.world as).system.remove
          (Service.nextName (run b.world as).entropy)).channels.length =
            (run b.world as).system.channels.length := by
        unfold Service.remove
        split
        · rename_i e _
          cases e.sender <;> simp [Service.releaseSender, Service.modifyChannel]
        · rfl
      rw [← opened.2.2]
      simp only [Service.accept, removed, (faithful_run b as distinct).channels, List.length_map]
  | _ => cases opened

theorem life_of_opening {b : Beginning} {as : List Action} {a : Action} {r : PairRequest}
    {o : Opened} {i : Nat} (distinct : (openings (steps b.world as)).Nodup)
    (opened : (Step.mk (run b.world as) a).opening? = some (r, o, i)) :
    (lives b (as ++ [a]))[i]? =
      some (Life.opening b.config o.session r (run b.world as).now) := by
  have newcomer : a.newcomer? (run b.world as) =
      some (Life.opening b.config o.session r (run b.world as).now) := by
    rw [newcomer?_eq, opened, config_lives]
    rfl
  rw [lives_snoc, Action.evolve, newcomer, channel_of_opening distinct opened,
    List.getElem?_append_right (by simp)]
  simp

end DevicePairing.Session
