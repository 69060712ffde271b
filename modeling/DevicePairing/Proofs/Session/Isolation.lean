import DevicePairing.Proofs.Session.Answers
import DevicePairing.Proofs.Session.Rights

set_option autoImplicit false
set_option relaxedAutoImplicit false

/-!
Sessions that do not interfere. Everything that concerns other sessions can be deleted from a run,
and nothing changes for the session that is left: its entry, its channel and all answers about it
are the same at every time.
-/

namespace DevicePairing.Session

open DevicePairing
open DevicePairing.Clock

/-! ### What is left of a run -/

/-- The session that a request names, where it can be read what is asked. -/
def Happening.named? : Happening → Option String
  | .lookUp r => (LookupBody.codec.decode r.body).toOption.map LookupBody.session
  | .approve r => (ApprovalBody.codec.decode r.body).toOption.map ApprovalBody.session
  | .reject r => (RejectionBody.codec.decode r.body).toOption.map RejectionBody.session
  | _ => none

/-- What is left of a happening for the session with the channel `i`. -/
def Happening.alone? (session : String) (i : Nat) : Happening → Option Happening
  | .supervise woken prefer j => if j = i then some (.supervise woken prefer 0) else none
  | h => if h.named?.getD session = session then some h else none

/-- What is left of a step when all that concerns other sessions is deleted. The octets that named
another session are drawn all the same, so that this one gets the same name; its channel is the
first one then. -/
def Step.alone? (session : String) (i : Nat) (x : Step) : Option Action :=
  match x.action with
  | .service h => (h.alone? session i).map .service
  | .openSession r =>
    match x.opening? with
    | some (_, o, _) => some (if o.session = session then .openSession r else .drawKey)
    | none => some (.openSession r)
  | .receive j => if j = i then some (.receive 0) else none
  | .dropReceiver j => if j = i then some (.dropReceiver 0) else none
  | .drawKey => some .drawKey

/-- What is left of a run for the session with the channel `i`. -/
def alone (b : Beginning) (session : String) (i : Nat) (as : List Action) : List Action :=
  (steps b.world as).filterMap (Step.alone? session i)

private theorem alone_snoc (b : Beginning) (session : String) (i : Nat) (as : List Action)
    (a : Action) :
    alone b session i (as ++ [a]) =
      alone b session i as ++ ((Step.mk (run b.world as) a).alone? session i).toList := by
  rw [alone, steps_snoc, List.filterMap_append, ← alone]
  rfl

/-! ### Worlds that differ in their sessions only -/

/-- The worlds have the same clocks, the same random octets and services with the same setup. -/
structure Alike (w w' : World) : Prop where
  now : w'.now = w.now
  wallClock : w'.wallClock = w.wallClock
  entropy : w'.entropy = w.entropy
  setup : w'.system.setup = w.system.setup

namespace Service

variable {s s' : Service} (same : s'.authorities.get? = s.authorities.get?) (r : SignedRequest)

include same

theorem openAuthorized_congr {α : Type} (k : Cbor.Codec α) (operation : Operation) :
    s'.openAuthorized k operation r = s.openAuthorized k operation r := by
  simp only [openAuthorized, authorize, same]

theorem checkApproval_congr : s'.checkApproval r = s.checkApproval r := by
  simp only [checkApproval, openAuthorized_congr same]

theorem checkRejection_congr : s'.checkRejection r = s.checkRejection r := by
  simp only [checkRejection, openAuthorized_congr same]

theorem check_congr (operation : Operation) : s'.check r operation = s.check r operation := by
  cases operation with
  | getPairingData => simp only [check, openAuthorized_congr same]
  | approvePairing => simp only [check, checkApproval_congr same]
  | rejectPairing => simp only [check, checkRejection_congr same]

end Service

namespace Alike

variable {w w' : World} (alike : Alike w w')

include alike

private theorem config : w'.system.config = w.system.config := congrArg Prod.fst alike.setup

private theorem known : w'.system.authorities.get? = w.system.authorities.get? :=
  congrArg (fun setup => setup.2.get?) alike.setup

private theorem checkOpening (r : PairRequest) :
    w'.system.checkOpening r = w.system.checkOpening r := by
  simp only [Service.checkOpening, alike.config]

private theorem decision? (h : Happening) : h.decision? w' = h.decision? w := by
  cases h with
  | approve r =>
    simp only [Happening.decision?, Service.checkApproval_congr alike.known, Environment.issuedAt,
      alike.wallClock]
  | reject r => simp only [Happening.decision?, Service.checkRejection_congr alike.known]
  | _ => rfl

end Alike

theorem Happening.named?_of_decision {w : World} {h : Happening} {d : Decision}
    (asked : h.decision? w = some d) : h.named? = some d.session := by
  cases h with
  | approve r =>
    simp only [decision?] at asked
    cases granted : w.system.checkApproval r with
    | error cause => simp only [granted, reduceCtorEq] at asked
    | ok checked =>
      obtain ⟨body, a⟩ := checked
      simp only [granted, Option.some.injEq] at asked
      have opened := ((Service.checkApproval_eq_ok body a).mp granted).1
      have decoded := ((Service.openAuthorized_eq_ok body a).mp opened).1.2
      simp only [named?, decoded, ← asked]
      rfl
  | reject r =>
    simp only [decision?] at asked
    cases granted : w.system.checkRejection r with
    | error cause => simp only [granted, reduceCtorEq] at asked
    | ok body =>
      simp only [granted, Option.some.injEq] at asked
      obtain ⟨a, opened⟩ := (Service.checkRejection_eq_ok body).mp granted
      have decoded := ((Service.openAuthorized_eq_ok body a).mp opened).1.2
      simp only [named?, decoded, ← asked]
      rfl
  | _ => cases asked

private theorem Step.alone?_of_calm {w : World} {h : Happening}
    (calm : ∀ woken prefer i, h ≠ .supervise woken prefer i) (session : String) (i : Nat) :
    (Step.mk w (.service h)).alone? session i =
      if h.named?.getD session = session then some (.service h) else none := by
  simp only [alone?, Happening.alone?]
  split <;> rfl

private theorem Alike.stimulus? {w w' : World} (alike : Alike w w') (a : Action) (i : Nat)
    (session : String) :
    a.stimulus? w i session =
      ((Step.mk w a).alone? session i).bind fun a' => a'.stimulus? w' 0 session := by
  cases a with
  | service h =>
    by_cases calm : ∀ woken prefer j, h ≠ .supervise woken prefer j
    · rw [Step.alone?_of_calm calm, Action.stimulus?_of_calm calm]
      by_cases named : h.named?.getD session = session
      · rw [if_pos named, Option.bind_some, Action.stimulus?_of_calm calm, alike.decision?]
      · rw [if_neg named, Option.bind_none]
        cases asked : h.decision? w with
        | none => rfl
        | some d =>
          rw [Happening.named?_of_decision asked, Option.getD_some] at named
          rw [Option.bind_some, if_neg named]
    · simp only [not_forall, not_not] at calm
      obtain ⟨woken, prefer, j, rfl⟩ := calm
      simp only [Action.stimulus?, Step.alone?, Happening.alone?]
      split
      · simp only [Option.map_some, Option.bind_some, if_true, alike.now]
      · rfl
  | openSession r =>
    simp only [Step.alone?]
    cases (Step.mk w (.openSession r)).opening? with
    | none => rfl
    | some opened =>
      simp only [Option.bind_some]
      split <;> rfl
  | receive j =>
    simp only [Action.stimulus?, Step.alone?]
    split <;> rfl
  | dropReceiver j =>
    simp only [Action.stimulus?, Step.alone?]
    split <;> rfl
  | drawKey => rfl

private theorem Step.alone?_openSession (w : World) (r : PairRequest) (session : String) (i : Nat) :
    (Step.mk w (.openSession r)).alone? session i =
      match w.system.checkOpening r with
      | .error _ => some (.openSession r)
      | .ok _ =>
        some (if Service.nextName w.entropy = session then .openSession r else .drawKey) := by
  simp only [alone?, opening?_eq]
  cases w.system.checkOpening r <;> rfl

private theorem Alike.newcomer? {w w' : World} (alike : Alike w w') (a : Action) (i : Nat)
    (session : String) :
    (((Step.mk w a).alone? session i).bind fun a' => a'.newcomer? w') =
      (a.newcomer? w).filter fun l => l.session = session := by
  cases a with
  | service h =>
    simp only [Step.alone?]
    cases h.alone? session i <;> rfl
  | openSession r =>
    rw [Step.alone?_openSession]
    cases check : w.system.checkOpening r with
    | error cause => simp only [Option.bind_some, Action.newcomer?, alike.checkOpening, check]; rfl
    | ok _ =>
      have opened : (Action.openSession r).newcomer? w =
          some (Life.opening w.system.config (Service.nextName w.entropy) r w.now) := by
        simp only [Action.newcomer?, check]
      have opened' : (Action.openSession r).newcomer? w' = (Action.openSession r).newcomer? w := by
        simp only [Action.newcomer?, alike.checkOpening, alike.config, alike.entropy, alike.now]
      by_cases same : Service.nextName w.entropy = session
      · rw [if_pos same, Option.bind_some, opened', opened]
        simp [Option.filter_some, same]
      · rw [if_neg same, Option.bind_some, opened]
        simp [Option.filter_some, same, Action.newcomer?]
  | receive j =>
    simp only [Step.alone?]
    split <;> rfl
  | dropReceiver j =>
    simp only [Step.alone?]
    split <;> rfl
  | drawKey => rfl

/-- Whether an action touches neither the clocks nor the random octets nor the setup. -/
def Action.isInner : Action → Bool
  | .service (.register _) => false
  | .service (.advance _) => false
  | .service (.setClock _) => false
  | .openSession _ => false
  | .drawKey => false
  | _ => true

private theorem alike_perform (w : World) {a : Action} (inner : a.isInner = true) :
    Alike w (a.perform w).2 := by
  have setup := Action.setup_perform (w := w) (a := a) (by rintro authority rfl; cases inner)
  cases a with
  | service h => cases h <;> first | exact ⟨rfl, rfl, rfl, setup⟩ | cases inner
  | openSession r => cases inner
  | receive j =>
    simp only [Action.perform, Environment.receive] at setup ⊢
    split <;> exact ⟨rfl, rfl, rfl, rfl⟩
  | dropReceiver j => exact ⟨rfl, rfl, rfl, rfl⟩
  | drawKey => cases inner

private theorem Step.isInner_alone? {w : World} {a a' : Action} (inner : a.isInner = true)
    {session : String} {i : Nat} (left : (Step.mk w a).alone? session i = some a') :
    a'.isInner = true := by
  cases a with
  | service h =>
    by_cases calm : ∀ woken prefer j, h ≠ .supervise woken prefer j
    · rw [alone?_of_calm calm] at left
      obtain ⟨-, same⟩ := Option.ite_none_right_eq_some.mp left
      exact Option.some.inj same ▸ inner
    · simp only [not_forall, not_not] at calm
      obtain ⟨woken, prefer, j, rfl⟩ := calm
      obtain ⟨h', kept, rfl⟩ := Option.map_eq_some_iff.mp left
      obtain ⟨-, same⟩ := Option.ite_none_right_eq_some.mp kept
      exact Option.some.inj same ▸ rfl
  | openSession r => cases inner
  | receive j =>
    obtain ⟨-, left⟩ := Option.ite_none_right_eq_some.mp left
    exact Option.some.inj left ▸ rfl
  | dropReceiver j =>
    obtain ⟨-, left⟩ := Option.ite_none_right_eq_some.mp left
    exact Option.some.inj left ▸ rfl
  | drawKey => cases inner

namespace Alike

private theorem trans {w w' w'' : World} (h : Alike w w') (h' : Alike w' w'') : Alike w w'' :=
  ⟨h'.now.trans h.now, h'.wallClock.trans h.wallClock, h'.entropy.trans h.entropy,
    h'.setup.trans h.setup⟩

theorem symm {w w' : World} (h : Alike w w') : Alike w' w :=
  ⟨h.now.symm, h.wallClock.symm, h.entropy.symm, h.setup.symm⟩

private theorem perform {w w' : World} (alike : Alike w w') (a : Action) (i : Nat)
    (session : String) :
    Alike (a.perform w).2 (run w' ((Step.mk w a).alone? session i).toList) := by
  -- An inner action changes nothing that must be alike, whether it is left or not. All others are
  -- left, but for the opening of another session, in place of which the same octets are drawn.
  cases inner : a.isInner with
  | true =>
    refine (alike_perform w inner).symm.trans (alike.trans ?_)
    cases left : (Step.mk w a).alone? session i with
    | none => exact ⟨rfl, rfl, rfl, rfl⟩
    | some a' => exact alike_perform w' (Step.isInner_alone? inner left)
  | false =>
    cases a with
    | service h =>
      have calm : ∀ woken prefer j, h ≠ .supervise woken prefer j := by
        rintro woken prefer j rfl
        cases inner
      have unnamed : h.named? = none := by
        cases h <;> first | rfl | cases inner
      rw [Step.alone?_of_calm calm, unnamed, Option.getD_none, if_pos rfl]
      cases h with
      | register a =>
        refine ⟨alike.now, alike.wallClock, alike.entropy, ?_⟩
        exact congrArg (fun setup => (setup.1, setup.2.put a.node a)) alike.setup
      | advance ms =>
        exact ⟨congrArg (· + ms) alike.now, alike.wallClock, alike.entropy, alike.setup⟩
      | setClock seconds => exact ⟨alike.now, rfl, alike.entropy, alike.setup⟩
      | _ => cases inner
    | openSession r =>
      have drawn : (w'.entropy.draw 16).2 = (w.entropy.draw 16).2 :=
        congrArg (fun e => (e.draw 16).2) alike.entropy
      rw [Step.alone?_openSession]
      cases check : w.system.checkOpening r with
      | error cause =>
        have check' := (alike.checkOpening r).trans check
        simp only [Option.toList_some, run, Action.perform, Transport.Direct.pairDevice,
          Service.openSession_eq, check, check']
        exact alike
      | ok _ =>
        have check' := (alike.checkOpening r).trans check
        have setup := Service.setup_accept w.system w.now w.entropy r
        by_cases same : Service.nextName w.entropy = session
        · have setup' := Service.setup_accept w'.system w'.now w'.entropy r
          simp only [if_pos same, Option.toList_some, run, Action.perform,
            Transport.Direct.pairDevice, Service.openSession_eq, check, check']
          exact ⟨alike.now, alike.wallClock, drawn, setup'.trans (alike.setup.trans setup.symm)⟩
        · simp only [if_neg same, Option.toList_some, run, Action.perform,
            Transport.Direct.pairDevice, Service.openSession_eq, check]
          exact ⟨alike.now, alike.wallClock, drawn, alike.setup.trans setup.symm⟩
    | drawKey =>
      refine ⟨alike.now, alike.wallClock, ?_, alike.setup⟩
      exact congrArg (fun e => e.drawKey.2) alike.entropy
    | _ => cases inner

end Alike

/-! ### The life of the session that is left -/

/-- At every time of the run, the session has the channel `i`, and no other session has it. -/
def Numbered (b : Beginning) (as : List Action) (session : String) (i : Nat) : Prop :=
  ∀ before later, as = before ++ later → ∀ (j : Nat) (l : Life), (lives b before)[j]? = some l →
    (l.session = session ↔ j = i)

private theorem Numbered.of_append {b : Beginning} {before later : List Action} {session : String}
    {i : Nat} (h : Numbered b (before ++ later) session i) : Numbered b before session i := by
  rintro first rest rfl
  exact h first (rest ++ later) (List.append_assoc _ _ _)

private theorem numbered_of_openedIn {b : Beginning} {as : List Action}
    (distinct : (openings (steps b.world as)).Nodup) {session : String} {r : PairRequest}
    {openedAt i : Nat} {later : List Action} (opened : OpenedIn b as session r openedAt i later) :
    Numbered b as session i := by
  obtain ⟨l, at_i, origin, -⟩ := life_of_openedIn distinct opened
  have f := faithful_run b as distinct
  have named : l.session = session := congrArg Prod.fst origin
  rintro before rest rfl j k at_j
  obtain ⟨k', at_j', same⟩ := lives_append at_j (R := fun k' => k'.session = k.session) rfl
    (fun as a k' same => (Life.session_after _ a j k').trans same) rest
  constructor
  · intro named'
    exact f.eq_of_session at_j' at_i (by rw [same, named', named])
  · rintro rfl
    rw [at_i] at at_j'
    obtain rfl := Option.some.inj at_j'
    rw [← same, named]

private theorem getElem?_evolve (w : World) (a : Action) (ls : List Life) (i : Nat) :
    (a.evolve w ls)[i]? =
      match ls[i]? with
      | some l => some (l.after w a i)
      | none => if i = ls.length then a.newcomer? w else none := by
  unfold Action.evolve
  cases at_i : ls[i]? with
  | some l =>
    obtain ⟨inside, -⟩ := List.getElem?_eq_some_iff.mp at_i
    rw [List.getElem?_append_left (by simpa using inside), List.getElem?_mapIdx, at_i]
    rfl
  | none =>
    have outside := List.getElem?_eq_none_iff.mp at_i
    rw [List.getElem?_append_right (by simpa using outside), List.length_mapIdx]
    cases a.newcomer? w with
    | none => simp
    | some k =>
      by_cases last : i = ls.length
      · simp [last]
      · have beyond : i - ls.length ≠ 0 := by omega
        simp [last, beyond]

theorem Numbered.newcomer {b : Beginning} {as : List Action} {a : Action} {session : String}
    {i : Nat} (h : Numbered b (as ++ [a]) session i) {l : Life}
    (newcomer : a.newcomer? (run b.world as) = some l) :
    l.session = session ↔ (lives b as).length = i := by
  refine h (as ++ [a]) [] (List.append_nil _).symm (lives b as).length l ?_
  rw [lives_snoc, getElem?_evolve, List.getElem?_eq_none (Nat.le_refl _)]
  exact (if_pos rfl).trans newcomer

private theorem Numbered.getElem?_snoc {b : Beginning} {as : List Action} {a : Action}
    {session : String} {i : Nat} (h : Numbered b (as ++ [a]) session i) :
    (lives b (as ++ [a]))[i]? =
      match (lives b as)[i]? with
      | some l => some (l.after (run b.world as) a i)
      | none => (a.newcomer? (run b.world as)).filter fun l => l.session = session := by
  rw [lives_snoc, getElem?_evolve]
  cases at_i : (lives b as)[i]? with
  | some l => rfl
  | none =>
    cases newcomer : a.newcomer? (run b.world as) with
    | none => simp
    | some k =>
      have named := h.newcomer newcomer
      by_cases last : i = (lives b as).length
      · simp [last, Option.filter_some, named.mpr last.symm]
      · have other : ¬ k.session = session := fun same => last (named.mp same).symm
        simp [last, Option.filter_some, other]

private theorem Numbered.not_reopened {b : Beginning} {as : List Action} {a : Action}
    {session : String}
    {i : Nat} (h : Numbered b (as ++ [a]) session i) {l : Life} (at_i : (lives b as)[i]? = some l) :
    ((a.newcomer? (run b.world as)).filter fun l => l.session = session) = none := by
  rw [Option.filter_eq_none_iff]
  intro k newcomer same
  have last := (h.newcomer newcomer).mp (of_decide_eq_true same)
  obtain ⟨inside, -⟩ := List.getElem?_eq_some_iff.mp at_i
  omega

private theorem lives_alone {b : Beginning} {as : List Action} {session : String} {i : Nat}
    (numbered : Numbered b as session i) :
    lives b (alone b session i as) = ((lives b as)[i]?).toList ∧
      Alike (run b.world as) (run b.world (alone b session i as)) := by
  -- Both at once: what the next action is to the session depends on what is alike.
  induction as using List.reverseRecOn with
  | nil => exact ⟨rfl, rfl, rfl, rfl, rfl⟩
  | append_singleton as a ih =>
    obtain ⟨same, alike⟩ := ih numbered.of_append
    have reaches := alike.stimulus? a i session
    have opens := alike.newcomer? a i session
    rw [alone_snoc, run_snoc, run_append]
    refine ⟨?_, alike.perform a i session⟩
    rw [numbered.getElem?_snoc]
    cases at_i : (lives b as)[i]? with
    | none =>
      rw [at_i, Option.toList_none] at same
      rw [← opens]
      cases (Step.mk (run b.world as) a).alone? session i with
      | none => rw [Option.toList_none, List.append_nil, same]; rfl
      | some a' =>
        rw [Option.toList_some, lives_snoc, same]
        rfl
    | some l =>
      have named : l.session = session := (numbered as [a] rfl i l at_i).mpr rfl
      rw [at_i, Option.toList_some] at same
      rw [numbered.not_reopened at_i] at opens
      show _ = [l.after (run b.world as) a i]
      rw [Life.after, named, reaches]
      cases left : (Step.mk (run b.world as) a).alone? session i with
      | none => rw [Option.toList_none, List.append_nil, same]; rfl
      | some a' =>
        rw [left, Option.bind_some] at opens
        rw [Option.toList_some, lives_snoc, same, Action.evolve, opens]
        simp only [List.mapIdx_cons, List.mapIdx_nil, Option.toList_none, List.append_nil,
          Life.after, named, alike.config, Option.bind_some]

/-! ### What is seen of a session -/

def Entry.unnumbered (e : Entry) : Entry := { e with sender := e.sender.map fun _ => 0 }

def Answer.unnumbered : Answer → Answer
  | .opened (.ok (o, _)) => .opened (.ok (o, 0))
  | x => x

/-- The service has a life under a number and the name of a session, if any, and under no other. -/
structure Faithful.Numbers (s : Service) (ls : List Life) (session : String) (i : Nat) : Prop where
  faithful : Faithful s ls
  numbered : ∀ (j : Nat) (l : Life), ls[j]? = some l → (l.session = session ↔ j = i)

namespace Faithful.Numbers

variable {s : Service} {ls : List Life} {session : String} {i : Nat} (h : Numbers s ls session i)

include h

private theorem unknown (none : ls[i]? = none) : session ∉ ls.map Life.session := by
  intro known
  obtain ⟨l, member, named⟩ := List.mem_map.mp known
  obtain ⟨j, at_j⟩ := List.mem_iff_getElem?.mp member
  obtain rfl := (h.numbered j l at_j).mp named
  rw [none] at at_j
  cases at_j

private theorem entry : s.sessions.get? session = (ls[i]?).bind (Life.kept? i) := by
  cases at_i : ls[i]? with
  | none => exact h.faithful.absent (h.unknown at_i)
  | some l =>
    have named := (h.numbered i l at_i).mpr rfl
    rw [← named]
    exact h.faithful.entries i l at_i

private theorem channel : s.channels[i]? = (ls[i]?).map Life.channel := by
  rw [h.faithful.channels, List.getElem?_map]

end Faithful.Numbers

private theorem Life.unnumbered_kept? (l : Life) (i : Nat) :
    (l.kept? i).map Entry.unnumbered = l.kept? 0 := by
  unfold kept?
  split
  · rfl
  · split <;> rfl

/-- What is seen of the session with the channel `i` in a world, and of the same session in another
world with the first channel. -/
structure SameSession (w w' : World) (session : String) (i : Nat) : Prop where
  state : w'.system.stateOf? session = w.system.stateOf? session
  entry : w'.system.sessions.get? session =
    (w.system.sessions.get? session).map Entry.unnumbered
  channel : w'.system.channels[0]? = w.system.channels[i]?

/-- A session in a run does not depend on what concerns others. -/
structure Isolated (b : Beginning) (as : List Action) (session : String) (i : Nat) : Prop where
  only : openings (steps b.world (alone b session i as)) = [session]
  /-- At every time the session is the same as in what is left of the run until then. -/
  same : ∀ before later, as = before ++ later →
    SameSession (run b.world before) (run b.world (alone b session i before)) session i
  answers : ∀ before a later, as = before ++ a :: later →
    ∀ a', (Step.mk (run b.world before) a).alone? session i = some a' → a' ≠ .drawKey →
      (a'.perform (run b.world (alone b session i before))).1 =
        (a.perform (run b.world before)).1.unnumbered
  /-- What is not left, or only drew octets, changes neither the entry nor the channel. -/
  others : ∀ before a later, as = before ++ a :: later →
    (Step.mk (run b.world before) a).alone? session i = none ∨
      (Step.mk (run b.world before) a).alone? session i = some .drawKey →
    (run b.world (before ++ [a])).system.sessions.get? session =
        (run b.world before).system.sessions.get? session ∧
      (run b.world (before ++ [a])).system.channels[i]? =
        (run b.world before).system.channels[i]?

section

variable {b : Beginning} {as : List Action} {session : String} {i : Nat}
  (distinct : (openings (steps b.world as)).Nodup) (numbered : Numbered b as session i)

include distinct numbered

private theorem Numbered.run :
    Faithful.Numbers (Session.run b.world as).system (lives b as) session i :=
  ⟨faithful_run b as distinct, numbered as [] (List.append_nil _).symm⟩

omit distinct in
private theorem Numbered.alone :
    Faithful.Numbers (Session.run b.world (alone b session i as)).system
    ((lives b as)[i]?).toList session 0 := by
  have same := (lives_alone numbered).1
  have one : (openings (steps b.world (Session.alone b session i as))).Nodup := by
    rw [← map_session_lives, same]
    cases (lives b as)[i]? <;> simp
  have f := faithful_run b _ one
  rw [same] at f
  refine ⟨f, fun j l at_j => ?_⟩
  cases at_i : (lives b as)[i]? with
  | none => simp [at_i] at at_j
  | some k =>
    have named := (numbered as [] (List.append_nil _).symm i k at_i).mpr rfl
    rw [at_i, Option.toList_some, List.getElem?_singleton] at at_j
    split at at_j
    · obtain rfl := Option.some.inj at_j
      simp [*]
    · cases at_j

private theorem sameSession :
    SameSession (Session.run b.world as) (Session.run b.world (alone b session i as))
    session i := by
  have whole := numbered.run distinct
  have left := numbered.alone
  have entry : (Session.run b.world (Session.alone b session i as)).system.sessions.get? session =
      ((Session.run b.world as).system.sessions.get? session).map Entry.unnumbered := by
    rw [whole.entry, left.entry]
    cases (lives b as)[i]? with
    | none => rfl
    | some l => exact (l.unnumbered_kept? i).symm
  refine ⟨?_, entry, ?_⟩
  · rw [Service.stateOf?, Service.stateOf?, entry, Option.map_map]
    rfl
  · rw [whole.channel, left.channel]
    cases (lives b as)[i]? <;> rfl

private theorem pairingData_alone {q : SignedRequest}
    (named : (Happening.lookUp q).named?.getD session = session) :
    (Session.run b.world (alone b session i as)).system.pairingData q =
      (Session.run b.world as).system.pairingData q := by
  have alike := (lives_alone numbered).2
  have same := (sameSession distinct numbered).entry
  unfold Service.pairingData
  rw [Service.openAuthorized_congr alike.known]
  cases opened : (Session.run b.world as).system.openAuthorized LookupBody.codec .getPairingData q with
  | error cause => rfl
  | ok known =>
    obtain ⟨body, a⟩ := known
    have decoded := ((Service.openAuthorized_eq_ok body a).mp opened).1.2
    have here : body.session = session := by
      simpa only [Happening.named?, decoded, Except.toOption, Option.map_some,
        Option.getD_some] using named
    simp only [Results.ok_bind, here, same]
    cases (Session.run b.world as).system.sessions.get? session <;> rfl

private theorem answer_decision_alone {h : Happening} {d : Decision}
    (asked : h.decision? (Session.run b.world as) = some d) (named : d.session = session) :
    (h.perform (Session.run b.world (alone b session i as))).1 =
      (h.perform (Session.run b.world as)).1 := by
  have whole := numbered.run distinct
  have left := numbered.alone
  have asked' := ((lives_alone numbered).2.decision? h).trans asked
  cases at_i : (lives b as)[i]? with
  | none =>
    rw [whole.faithful.answer_absent asked (named ▸ whole.unknown at_i),
      left.faithful.answer_absent asked' (by simp [at_i])]
  | some l =>
    have own := ((whole.numbered i l at_i).mpr rfl).trans named.symm
    rw [whole.faithful.answer_decision asked at_i own.symm,
      left.faithful.answer_decision asked' (i := 0) (by simp [at_i]) own.symm]

private theorem answer_happening_alone {h : Happening}
    (calm : ∀ woken prefer j, h ≠ .supervise woken prefer j)
    (named : h.named?.getD session = session) :
    (h.perform (Session.run b.world (alone b session i as))).1 =
      (h.perform (Session.run b.world as)).1 := by
  have known := (lives_alone numbered).2.known
  cases asked : h.decision? (Session.run b.world as) with
  | some d =>
    rw [Happening.named?_of_decision asked, Option.getD_some] at named
    exact answer_decision_alone distinct numbered asked named
  | none =>
    cases h with
    | lookUp q =>
      simp only [Happening.perform, Transport.Direct.pairingData,
        pairingData_alone distinct numbered named]
    | approve q =>
      simp only [Happening.perform, Transport.Direct.approve, Service.approve,
        Service.checkApproval_congr known]
      cases granted : (Session.run b.world as).system.checkApproval q with
      | error cause => rfl
      | ok checked => simp only [Happening.decision?, granted, reduceCtorEq] at asked
    | reject q =>
      simp only [Happening.perform, Transport.Direct.reject, Service.reject,
        Service.checkRejection_congr known]
      cases granted : (Session.run b.world as).system.checkRejection q with
      | error cause => rfl
      | ok checked => simp only [Happening.decision?, granted, reduceCtorEq] at asked
    | supervise woken prefer j => exact absurd rfl (calm woken prefer j)
    | _ => rfl

end

private theorem Action.openSession_of_accepted {w : World} {r : PairRequest} {u : Unit}
    (accepted : w.system.checkOpening r = .ok u) :
    ((Action.openSession r).perform w).1 =
        .opened (.ok ((w.system.accept w.now w.entropy r).opened,
          (w.system.accept w.now w.entropy r).channel)) ∧
      (Step.mk w (.openSession r)).opening? =
        some (r, (w.system.accept w.now w.entropy r).opened,
          (w.system.accept w.now w.entropy r).channel) := by
  simp only [opening?_eq, perform, Transport.Direct.pairDevice, Service.openSession_eq, accepted,
    Except.map]
  exact ⟨trivial, trivial⟩

section

variable {b : Beginning} {as : List Action} {session : String} {i : Nat} {a : Action}
  (distinct : (openings (steps b.world as)).Nodup) (numbered : Numbered b (as ++ [a]) session i)

include distinct numbered

omit distinct in
private theorem channel_alone {r : PairRequest} {o : Opened} {j : Nat}
    (opened : (Step.mk (run b.world (alone b session i as)) (.openSession r)).opening? =
      some (r, o, j))
    {l : Life} (newcomer : a.newcomer? (run b.world as) = some l) (named : l.session = session) :
    j = 0 := by
  have last := (numbered.newcomer newcomer).mp named
  have none : lives b (alone b session i as) = [] := by
    rw [(lives_alone numbered.of_append).1, ← last, List.getElem?_eq_none (Nat.le_refl _)]
    rfl
  have fresh : (openings (steps b.world (alone b session i as))).Nodup := by
    rw [← map_session_lives, none]
    exact List.nodup_nil
  rw [channel_of_opening fresh opened, none]
  rfl

omit distinct numbered in
private theorem answer_alone_of_accepted {r : PairRequest}
    (numbered : Numbered b (as ++ [.openSession r]) session i)
    (check : (run b.world as).system.checkOpening r = .ok ())
    (same : Service.nextName (run b.world as).entropy = session) :
    ((Action.openSession r).perform (run b.world (alone b session i as))).1 =
      ((Action.openSession r).perform (run b.world as)).1.unnumbered := by
  have alike := (lives_alone numbered.of_append).2
  have newcomer : (Action.openSession r).newcomer? (run b.world as) =
      some (Life.opening (run b.world as).system.config
        (Service.nextName (run b.world as).entropy) r (run b.world as).now) := by
    simp only [Action.newcomer?, check]
  obtain ⟨answer, -⟩ := Action.openSession_of_accepted check
  obtain ⟨answer', opened⟩ :=
    Action.openSession_of_accepted ((alike.checkOpening r).trans check)
  have told : ∀ now now', ((run b.world (alone b session i as)).system.accept now'
      (run b.world (alone b session i as)).entropy r).opened =
        ((run b.world as).system.accept now (run b.world as).entropy r).opened := by
    intro now now'
    simp only [Service.accept, alike.entropy]
  rw [answer, answer', channel_alone numbered opened newcomer same, told (run b.world as).now]
  rfl

omit distinct numbered in
private theorem answer_alone_of_opening {r : PairRequest} {a' : Action}
    (numbered : Numbered b (as ++ [.openSession r]) session i)
    (left : (Step.mk (run b.world as) (.openSession r)).alone? session i = some a')
    (kept : a' ≠ .drawKey) :
    (a'.perform (run b.world (alone b session i as))).1 =
      ((Action.openSession r).perform (run b.world as)).1.unnumbered := by
  have alike := (lives_alone numbered.of_append).2
  rw [Step.alone?_openSession] at left
  cases check : (run b.world as).system.checkOpening r with
  | error cause =>
    rw [check] at left
    obtain rfl := Option.some.inj left
    simp only [Action.perform, Transport.Direct.pairDevice, Service.openSession_eq, check,
      (alike.checkOpening r).trans check]
    rfl
  | ok _ =>
    rw [check] at left
    by_cases same : Service.nextName (run b.world as).entropy = session
    · rw [if_pos same] at left
      obtain rfl := Option.some.inj left
      exact answer_alone_of_accepted numbered check same
    · rw [if_neg same] at left
      exact absurd (Option.some.inj left).symm kept

private theorem answer_alone {a' : Action}
    (left : (Step.mk (run b.world as) a).alone? session i = some a') (kept : a' ≠ .drawKey) :
    (a'.perform (run b.world (alone b session i as))).1 =
      (a.perform (run b.world as)).1.unnumbered := by
  have before := numbered.of_append
  cases a with
  | service h =>
    by_cases calm : ∀ woken prefer j, h ≠ .supervise woken prefer j
    · rw [Step.alone?_of_calm calm] at left
      obtain ⟨named, same⟩ := Option.ite_none_right_eq_some.mp left
      obtain rfl := Option.some.inj same
      have answer := answer_happening_alone distinct before calm named
      simp only [Action.perform, answer]
      cases h <;> rfl
    · simp only [not_forall, not_not] at calm
      obtain ⟨woken, prefer, j, rfl⟩ := calm
      obtain ⟨h', supervised, rfl⟩ := Option.map_eq_some_iff.mp left
      obtain ⟨-, same⟩ := Option.ite_none_right_eq_some.mp supervised
      exact Option.some.inj same ▸ rfl
  | openSession r => exact answer_alone_of_opening numbered left kept
  | receive j =>
    obtain ⟨rfl, same⟩ := Option.ite_none_right_eq_some.mp left
    obtain rfl := Option.some.inj same
    have channel := (sameSession distinct before).channel
    simp only [Action.perform, Environment.receive, Tasks.channel?, channel]
    cases (run b.world as).system.channels[j]? <;> rfl
  | dropReceiver j =>
    obtain ⟨-, same⟩ := Option.ite_none_right_eq_some.mp left
    exact Option.some.inj same ▸ rfl
  | drawKey => exact absurd (Option.some.inj left).symm kept

end

private theorem life_of_others {b : Beginning} {as : List Action} {a : Action} {session : String}
    {i : Nat} (numbered : Numbered b (as ++ [a]) session i)
    (other : (Step.mk (run b.world as) a).alone? session i = none ∨
      (Step.mk (run b.world as) a).alone? session i = some .drawKey) :
    (lives b (as ++ [a]))[i]? = (lives b as)[i]? := by
  have alike := (lives_alone numbered.of_append).2
  have reaches : a.stimulus? (run b.world as) i session = none := by
    rw [alike.stimulus?]
    rcases other with none | drawn
    · rw [none, Option.bind_none]
    · rw [drawn]
      rfl
  have opens : ((a.newcomer? (run b.world as)).filter fun l => l.session = session) = none := by
    rw [← alike.newcomer? a i session]
    rcases other with none | drawn
    · rw [none, Option.bind_none]
    · rw [drawn]
      rfl
  rw [numbered.getElem?_snoc, opens]
  cases at_i : (lives b as)[i]? with
  | none => rfl
  | some l =>
    have named := (numbered as [a] rfl i l at_i).mpr rfl
    simp only [Life.after, named, reaches]

/-- As long as no name is drawn twice, no session in a run depends on what concerns others. -/
theorem sessions_are_isolated {b : Beginning} {as : List Action}
    (distinct : (openings (steps b.world as)).Nodup) {session : String} {r : PairRequest}
    {openedAt i : Nat} {later : List Action} (opened : OpenedIn b as session r openedAt i later) :
    Isolated b as session i := by
  have numbered := numbered_of_openedIn distinct opened
  refine ⟨?_, ?_, ?_, ?_⟩
  · obtain ⟨l, at_i, origin, -⟩ := life_of_openedIn distinct opened
    rw [← map_session_lives, (lives_alone numbered).1, at_i]
    exact congrArg (fun o => [o.1]) origin
  · rintro before rest rfl
    exact sameSession (distinct_of_append distinct) numbered.of_append
  · rintro before a rest rfl a' left kept
    rw [List.append_cons] at distinct numbered
    exact answer_alone (distinct_of_append (distinct_of_append distinct)) numbered.of_append left kept
  · rintro before a rest rfl other
    rw [List.append_cons] at distinct numbered
    have distinct' := distinct_of_append distinct
    have after := numbered.of_append.run distinct'
    have before' := numbered.of_append.of_append.run (distinct_of_append distinct')
    have same := life_of_others numbered.of_append other
    rw [after.entry, after.channel, before'.entry, before'.channel, same]
    exact ⟨rfl, rfl⟩

namespace Sample

/-- Two sessions are opened. The new device of the first one leaves, and it expires; that of the
second one receives its payload. -/
def entangled : List Action :=
  [.service (.register authority), .openSession request, .openSession request, .dropReceiver 0,
    .service (.supervise 0 .abandoned 0), .service (.supervise 0 .abandoned 0), .receive 1]

end Sample

/-- The second session does not depend on the first one. -/
theorem sessions_are_isolated_of_entangled :
    Isolated Sample.beginning Sample.entangled Sample.laterSession 1 :=
  sessions_are_isolated (r := Sample.request) (by decide +kernel)
    ⟨Sample.entangled.take 2, .openSession Sample.request, ⟨Sample.laterSession, .v1, none⟩, rfl,
      by decide +kernel, rfl, rfl⟩

end DevicePairing.Session
