import DevicePairing.Proofs.Session.Life
import Mathlib.Data.List.Induction
import Mathlib.Data.List.Nodup

set_option autoImplicit false
set_option relaxedAutoImplicit false

/-!
A service is what its sessions are. The registry, the channels and the supervisors hold the lives
of the sessions that were opened and nothing else, and every action takes each life where what
reaches that session alone takes it, as long as no name is drawn twice.
-/

namespace DevicePairing.Session

open DevicePairing
open DevicePairing.Clock

/-- What holds of every life: a session waits from its opening on, and as long as it does its
supervisor watches it. -/
structure Life.WellFormed (l : Life) : Prop where
  state_ne_created : l.state ≠ .created
  watched : l.state = .awaitingApproval → l.phase = .starting ∨ ∃ d, l.phase = .watching d

/-- The service holds a session under the number `i`. -/
structure Follows (s : Service) (i : Nat) (l : Life) : Prop where
  supervisor : s.supervisors[i]? = some ⟨l.session, i, l.phase⟩
  channel : s.channels[i]? = some l.channel
  entry : s.sessions.get? l.session = l.kept? i

/-- The service differs from an earlier one in the session with the number `i` only, which went
from one life to another. -/
structure Moves (s s' : Service) (i : Nat) (l l' : Life) : Prop where
  session : l'.session = l.session
  config : s'.config = s.config
  authorities : s'.authorities = s.authorities
  channels : s'.channels = s.channels.set i l'.channel
  supervisors : s'.supervisors = s.supervisors.set i ⟨l.session, i, l'.phase⟩
  entries : ∀ name,
    s'.sessions.get? name = if l.session = name then l'.kept? i else s.sessions.get? name

/-- The service holds the given sessions, numbered in their order, and no others. -/
structure Faithful (s : Service) (ls : List Life) : Prop where
  channels : s.channels = ls.map Life.channel
  supervisors : s.supervisors = ls.mapIdx fun i l => ⟨l.session, i, l.phase⟩
  entries : ∀ (i : Nat) (l : Life), ls[i]? = some l → s.sessions.get? l.session = l.kept? i
  known : ∀ name e, s.sessions.get? name = some e → ∃ l ∈ ls, l.session = name
  distinct : (ls.map Life.session).Nodup
  wellFormed : ∀ l ∈ ls, l.WellFormed

/-! ### Steps of one session -/

private theorem set_of_getElem? {α : Type} {xs : List α} {i : Nat} {a : α}
    (h : xs[i]? = some a) : xs.set i a = xs := by
  obtain ⟨hi, rfl⟩ := List.getElem?_eq_some_iff.mp h
  exact List.set_getElem_self hi

private theorem modify_of_getElem? {α : Type} {xs : List α} {i : Nat} {a : α} (f : α → α)
    (h : xs[i]? = some a) : xs.modify i f = xs.set i (f a) := by
  apply List.ext_getElem?
  intro j
  rw [List.getElem?_modify, List.getElem?_set']
  by_cases hij : i = j
  · subst hij
    simp [h]
  · simp [hij]

private theorem Moves.refl {s : Service} {i : Nat} {l : Life} (f : Follows s i l) :
    Moves s s i l l where
  session := rfl
  config := rfl
  authorities := rfl
  channels := (set_of_getElem? f.channel).symm
  supervisors := (set_of_getElem? f.supervisor).symm
  entries := by
    intro name
    by_cases h : l.session = name
    · rw [if_pos h, ← h, f.entry]
    · rw [if_neg h]

private theorem Moves.modifyChannel {s : Service} {i : Nat} {l : Life} (f : Follows s i l)
    (g : Channel → Channel) :
    Moves s (s.modifyChannel i g) i l { l with channel := g l.channel } where
  session := rfl
  config := rfl
  authorities := rfl
  channels := modify_of_getElem? g f.channel
  supervisors := (set_of_getElem? f.supervisor).symm
  entries := (Moves.refl f).entries

private theorem Moves.trans {s t u : Service} {i : Nat} {l m n : Life} (h : Moves s t i l m)
    (h' : Moves t u i m n) : Moves s u i l n where
  session := h'.session.trans h.session
  config := h'.config.trans h.config
  authorities := h'.authorities.trans h.authorities
  channels := by rw [h'.channels, h.channels, List.set_set]
  supervisors := by rw [h'.supervisors, h.supervisors, List.set_set, h.session]
  entries := by
    intro name
    rw [h'.entries, h.entries, h.session]
    by_cases hn : l.session = name <;> simp [hn]

private theorem Moves.follows {s t : Service} {i : Nat} {l m : Life} (h : Moves s t i l m)
    (f : Follows s i l) : Follows t i m where
  supervisor := by
    obtain ⟨hi, -⟩ := List.getElem?_eq_some_iff.mp f.supervisor
    rw [h.supervisors, List.getElem?_set_self hi, h.session]
  channel := by
    obtain ⟨hi, -⟩ := List.getElem?_eq_some_iff.mp f.channel
    rw [h.channels, List.getElem?_set_self hi]
  entry := by rw [h.entries, h.session, if_pos rfl]

private theorem moves_putEntry {s : Service} {i : Nat} {l : Life} (f : Follows s i l)
    (state : State) (e : Entry) (h : ({ l with state := state } : Life).kept? i = some e) :
    Moves s (s.putEntry l.session e) i l { l with state := state } where
  session := rfl
  config := rfl
  authorities := rfl
  channels := (set_of_getElem? f.channel).symm
  supervisors := (set_of_getElem? f.supervisor).symm
  entries := by
    intro name
    simp only [Service.putEntry, Table.get?_put, h]

private theorem moves_setPhase {s : Service} {i : Nat} {l : Life} (f : Follows s i l)
    (phase : Phase) (h : ({ l with phase := phase } : Life).kept? i = l.kept? i) :
    Moves s (s.setPhase i phase) i l { l with phase := phase } where
  session := rfl
  config := rfl
  authorities := rfl
  channels := (set_of_getElem? f.channel).symm
  supervisors := modify_of_getElem? _ f.supervisor
  entries := by
    intro name
    rw [h]
    exact (Moves.refl f).entries name

private theorem isReceiving_of_follows {s : Service} {i : Nat} {l : Life} (f : Follows s i l) :
    s.isReceiving i = l.channel.receiving := by
  simp only [Service.isReceiving, f.channel]

private theorem canSend_of_sender {s : Service} {i : Nat} {l : Life} (f : Follows s i l) {e : Entry}
    (h : e.sender = some i) : s.canSend e = l.channel.receiving := by
  simp only [Service.canSend, h]
  exact isReceiving_of_follows f

private theorem entry_of_waiting {s : Service} {i : Nat} {l : Life} (f : Follows s i l)
    (kept : l.phase ≠ .finished) (waiting : l.state = .awaitingApproval) :
    s.sessions.get? l.session = some (l.entryAs .awaitingApproval (some i)) := by
  rw [f.entry, Life.kept?, if_neg kept, if_pos waiting, waiting]

private theorem entry_of_ended {s : Service} {i : Nat} {l : Life} (f : Follows s i l)
    (kept : l.phase ≠ .finished) (ended : l.state ≠ .awaitingApproval) :
    s.sessions.get? l.session = some (l.entryAs l.state none) := by
  rw [f.entry, Life.kept?, if_neg kept, if_neg ended]

private theorem moves_end {s : Service} {i : Nat} {l : Life} (f : Follows s i l)
    (kept : l.phase ≠ .finished) (state : State) (ended : state ≠ .awaitingApproval) :
    Moves s (s.putEntry l.session (l.entryAs state none)) i l { l with state := state } :=
  moves_putEntry f state _ (by simp only [Life.kept?, if_neg kept, if_neg ended]; rfl)

private theorem decide_of_listening {s : Service} {i : Nat} {l : Life} (f : Follows s i l)
    (kept : l.phase ≠ .finished) (waiting : l.state = .awaitingApproval)
    (receiving : l.channel.receiving = true) (d : Decision) :
    (s.decide l.session d.resolution d.outcome).1 = .ok () ∧
      Moves s (s.decide l.session d.resolution d.outcome).2 i l
        { l with
          state := .resolved d.resolution
          channel := (l.channel.push (l.lastFrame d)).dropSender } := by
  have entry := entry_of_waiting f kept waiting
  have sends : s.canSend (l.entryAs .awaitingApproval (some i)) = l.channel.receiving :=
    canSend_of_sender f rfl
  rw [receiving] at sends
  have put := moves_end f kept (.resolved d.resolution) State.noConfusion
  have sent := Moves.modifyChannel (put.follows f) fun _ => l.channel.push (l.lastFrame d)
  have released := Moves.modifyChannel (sent.follows (put.follows f)) Channel.dropSender
  have channel := (put.follows f).channel
  have decided : s.decide l.session d.resolution d.outcome =
      (.ok (), ((s.putEntry l.session (l.entryAs (.resolved d.resolution) none)).modifyChannel i
        fun _ => l.channel.push (l.lastFrame d)).releaseSender (some i)) := by
    unfold Service.decide Service.resolve
    rw [entry]
    simp only [Life.entryAs] at sends channel ⊢
    simp only [sends, if_true, State.transition, State.mayFollow, Service.deliver, channel,
      Option.bind_some, Channel.send?_eq, receiving]
    rfl
  rw [decided]
  exact ⟨rfl, put.trans (sent.trans released)⟩

private theorem decide_of_deserted {s : Service} {i : Nat} {l : Life} (f : Follows s i l)
    (kept : l.phase ≠ .finished) (waiting : l.state = .awaitingApproval)
    (gone : l.channel.receiving = false) (d : Decision) :
    (s.decide l.session d.resolution d.outcome).1 = .error (.sessionNotFound l.session) ∧
      Moves s (s.decide l.session d.resolution d.outcome).2 i l
        { l with state := .expired, channel := l.channel.dropSender } := by
  have entry := entry_of_waiting f kept waiting
  have sends : s.canSend (l.entryAs .awaitingApproval (some i)) = l.channel.receiving :=
    canSend_of_sender f rfl
  rw [gone] at sends
  have put := moves_end f kept .expired State.noConfusion
  have released := Moves.modifyChannel (put.follows f) Channel.dropSender
  have decided : s.decide l.session d.resolution d.outcome =
      (.error (.sessionNotFound l.session),
        (s.putEntry l.session (l.entryAs .expired none)).releaseSender (some i)) := by
    unfold Service.decide Service.resolve
    rw [entry]
    simp only [Life.entryAs] at sends ⊢
    simp only [sends, Bool.false_eq_true, if_false, Service.expireEntry, State.transition,
      State.mayFollow]
    rfl
  rw [decided]
  exact ⟨rfl, put.trans released⟩

/-- A decision on a session that is held is answered by its life and goes where its life goes. -/
theorem decide_of_follows {s : Service} {i : Nat} {l : Life} (f : Follows s i l)
    (h : l.WellFormed) (d : Decision) :
    (s.decide l.session d.resolution d.outcome).1 = l.verdict ∧
      Moves s (s.decide l.session d.resolution d.outcome).2 i l (l.decide d) := by
  by_cases finished : l.phase = .finished
  · have absent : s.sessions.get? l.session = none := by rw [f.entry, Life.kept?, if_pos finished]
    simp only [Service.decide, Service.resolve, absent, Life.verdict, Life.decide, if_pos finished]
    exact ⟨trivial, Moves.refl f⟩
  cases state : l.state with
  | created => exact absurd state h.state_ne_created
  | resolved r =>
    have entry := entry_of_ended f finished (by rw [state]; exact State.noConfusion)
    simp only [Service.decide, Service.resolve, entry, Life.entryAs, Life.verdict, Life.decide,
      if_neg finished, state, reduceCtorEq, if_false]
    exact ⟨trivial, Moves.refl f⟩
  | expired =>
    have entry := entry_of_ended f finished (by rw [state]; exact State.noConfusion)
    simp only [Service.decide, Service.resolve, entry, Life.entryAs, Life.verdict, Life.decide,
      if_neg finished, state, reduceCtorEq, if_false]
    exact ⟨trivial, Moves.refl f⟩
  | awaitingApproval =>
    cases receiving : l.channel.receiving with
    | true =>
      simp only [Life.verdict, Life.decide, if_neg finished, state, receiving, if_true]
      exact decide_of_listening f finished state receiving d
    | false =>
      simp only [Life.verdict, Life.decide, if_neg finished, state, receiving, if_true,
        Bool.false_eq_true, if_false]
      exact decide_of_deserted f finished state receiving d

theorem decide_of_absent {s : Service} {session : String} (h : s.sessions.get? session = none)
    (r : Resolution) (outcome : Key → Outcome) :
    s.decide session r outcome = (.error (.sessionNotFound session), s) := by
  simp only [Service.decide, Service.resolve, h]

/-! ### Steps of a supervisor -/

private theorem causes_of_follows {s : Service} {i : Nat} {l : Life} (f : Follows s i l)
    (moment : Moment) {deadline : Nat} (h : l.phase = .watching deadline) :
    s.causes moment ⟨l.session, i, l.phase⟩ = l.causes moment deadline := by
  simp only [Service.causes, h, Life.causes, isReceiving_of_follows f]

private theorem stopWatching_of_follows {s : Service} {i : Nat} {l : Life} (f : Follows s i l)
    (h : l.state ≠ .created) (kept : l.phase ≠ .finished) (cause : Cause) :
    Moves s (s.stopWatching ⟨l.session, i, l.phase⟩ cause) i l (l.stop cause) := by
  have released := Moves.modifyChannel f Channel.dropSender
  have f' := released.follows f
  by_cases waiting : l.state = .awaitingApproval
  · have entry := entry_of_waiting f' kept waiting
    have put := moves_end f' kept .expired State.noConfusion
    have f'' := put.follows f'
    have expired : (s.releaseSender (some i)).expire l.session =
        (some i, (s.releaseSender (some i)).putEntry l.session (l.entryAs .expired none)) := by
      unfold Service.expire
      rw [show (s.releaseSender (some i)).sessions.get? l.session =
        some (l.entryAs .awaitingApproval (some i)) from entry]
      rfl
    cases cause with
    | deadline =>
      have told := Moves.modifyChannel f'' fun c => (c.send? (.error .timeout)).getD c
      have dropped := Moves.modifyChannel (told.follows f'') Channel.dropSender
      have all := released.trans (put.trans (told.trans dropped))
      have life : l.stop .deadline =
          { l with
            state := .expired
            channel := ((l.channel.dropSender.send? (.error .timeout)).getD
              l.channel.dropSender).dropSender } := by
        unfold Life.stop
        rw [if_pos waiting, Channel.send?_eq]
        cases receiving : l.channel.receiving <;> simp [Channel.dropSender, receiving]
      rw [life]
      simp only [Service.stopWatching, expired]
      exact all
    | abandoned =>
      have dropped := Moves.modifyChannel f'' Channel.dropSender
      have all := released.trans (put.trans dropped)
      simp only [Service.stopWatching, expired, Life.stop, if_pos waiting, reduceCtorEq, false_and,
        if_false]
      exact all
  · have entry := entry_of_ended f' kept waiting
    have expired : (s.releaseSender (some i)).expire l.session =
        (none, s.releaseSender (some i)) := by
      unfold Service.expire
      rw [show (s.releaseSender (some i)).sessions.get? l.session =
        some (l.entryAs l.state none) from entry]
      cases state : l.state with
      | created => exact absurd state h
      | awaitingApproval => exact absurd state waiting
      | resolved r => rfl
      | expired => rfl
    simp only [Service.stopWatching, expired, Life.stop, if_neg waiting]
    exact released

private theorem remove_of_follows {s : Service} {i : Nat} {l : Life} (f : Follows s i l)
    (kept : l.phase ≠ .finished) (ended : l.state ≠ .awaitingApproval) :
    Moves s ((s.remove l.session).setPhase i .finished) i l { l with phase := .finished } := by
  have removed : s.remove l.session = { s with sessions := s.sessions.erase l.session } := by
    unfold Service.remove
    rw [entry_of_ended f kept ended]
    rfl
  rw [removed]
  exact
    { session := rfl
      config := rfl
      authorities := rfl
      channels := (set_of_getElem? f.channel).symm
      supervisors := modify_of_getElem? _ f.supervisor
      entries := fun name => by
        simp only [Service.setPhase, Table.get?_erase, Life.kept?, if_true] }

private theorem supervise_of_follows {s : Service} {i : Nat} {l : Life} (f : Follows s i l)
    (h : l.WellFormed) (moment : Moment) (prefer : Cause) :
    Moves s ((s.superviseStep moment prefer i).getD s) i l
      (l.supervise s.config.sessionTtl.toNat moment prefer) := by
  unfold Service.superviseStep Life.supervise
  rw [f.supervisor]
  cases phase : l.phase with
  | starting =>
    simp only [Option.getD_some]
    exact moves_setPhase f _ (by simp only [Life.kept?, phase, reduceCtorEq, if_false]; rfl)
  | watching deadline =>
    have kept : l.phase ≠ .finished := by rw [phase]; exact Phase.noConfusion
    have same := causes_of_follows f moment phase
    rw [phase] at same
    simp only [same]
    cases l.causes moment deadline with
    | nil => exact Moves.refl f
    | cons cause more =>
      simp only [Option.getD_some]
      have stopped := stopWatching_of_follows f h.state_ne_created kept
        (if prefer ∈ more then prefer else cause)
      rw [phase] at stopped
      have kept' : ∀ cause, (l.stop cause).phase = .watching deadline := by
        intro cause
        unfold Life.stop
        split <;> exact phase
      refine stopped.trans (moves_setPhase (stopped.follows f) _ ?_)
      simp only [Life.kept?, kept', reduceCtorEq, if_false]
      rfl
  | lingering deadline =>
    have kept : l.phase ≠ .finished := by rw [phase]; exact Phase.noConfusion
    have ended : l.state ≠ .awaitingApproval := by
      intro waiting
      rcases h.watched waiting with starting | ⟨d, watching⟩
      · rw [phase] at starting
        exact Phase.noConfusion starting
      · rw [phase] at watching
        exact Phase.noConfusion watching
    by_cases due : deadline ≤ moment.woken
    · simp only [if_pos due, Option.getD_some]
      exact remove_of_follows f kept ended
    · simp only [if_neg due, Option.getD_none]
      exact Moves.refl f
  | finished => exact Moves.refl f

theorem Life.WellFormed.feel {l : Life} (h : l.WellFormed) (ttl : Nat) (x : Stimulus) :
    (l.feel ttl x).WellFormed := by
  have change := l.feel_change ttl x
  generalize l.feel ttl x = l' at change
  cases change with
  | nothing => exact h
  | decided => exact ⟨State.noConfusion, State.noConfusion⟩
  | missed => exact ⟨State.noConfusion, State.noConfusion⟩
  | received => exact ⟨h.state_ne_created, h.watched⟩
  | departed => exact ⟨h.state_ne_created, h.watched⟩
  | started => exact ⟨h.state_ne_created, fun _ => .inr ⟨_, rfl⟩⟩
  | timedOut => exact ⟨State.noConfusion, State.noConfusion⟩
  | abandoned => exact ⟨State.noConfusion, State.noConfusion⟩
  | released _ _ _ ended => exact ⟨h.state_ne_created, fun waiting => absurd waiting ended⟩
  | removed _ _ lingering =>
    refine ⟨h.state_ne_created, fun waiting => ?_⟩
    rcases h.watched waiting with starting | ⟨d, watching⟩
    · rw [lingering] at starting
      exact Phase.noConfusion starting
    · rw [lingering] at watching
      exact Phase.noConfusion watching

/-! ### Steps of a service -/

namespace Faithful

variable {s s' : Service} {ls : List Life} {i : Nat} {l l' : Life}

theorem follows (h : Faithful s ls) (at_i : ls[i]? = some l) : Follows s i l where
  supervisor := by rw [h.supervisors, List.getElem?_mapIdx, at_i]; rfl
  channel := by rw [h.channels, List.getElem?_map, at_i]; rfl
  entry := h.entries i l at_i

theorem eq_of_session (h : Faithful s ls) {j : Nat} {k : Life} (at_i : ls[i]? = some l)
    (at_j : ls[j]? = some k) (same : l.session = k.session) : i = j := by
  obtain ⟨hi, rfl⟩ := List.getElem?_eq_some_iff.mp at_i
  obtain ⟨hj, rfl⟩ := List.getElem?_eq_some_iff.mp at_j
  have inside : i < (ls.map Life.session).length := by simpa using hi
  have inside' : j < (ls.map Life.session).length := by simpa using hj
  have named : (ls.map Life.session)[i] = (ls.map Life.session)[j] := by simpa using same
  exact (List.Nodup.getElem_inj_iff h.distinct).mp named

theorem absent (h : Faithful s ls) {session : String} (new : session ∉ ls.map Life.session) :
    s.sessions.get? session = none := by
  cases entry : s.sessions.get? session with
  | none => rfl
  | some e =>
    obtain ⟨l, member, rfl⟩ := h.known session e entry
    exact absurd (List.mem_map_of_mem member) new

private theorem move (h : Faithful s ls) (at_i : ls[i]? = some l) (m : Moves s s' i l l')
    (wf : l'.WellFormed) : Faithful s' (ls.set i l') where
  channels := by rw [m.channels, h.channels, List.map_set]
  supervisors := by rw [m.supervisors, h.supervisors, List.mapIdx_set, m.session]
  entries := by
    intro j k at_j
    obtain ⟨hi, -⟩ := List.getElem?_eq_some_iff.mp at_i
    by_cases hij : i = j
    · subst hij
      rw [List.getElem?_set_self hi] at at_j
      obtain rfl := Option.some.inj at_j
      rw [m.entries, if_pos m.session.symm]
    · rw [List.getElem?_set_ne hij] at at_j
      rw [m.entries, if_neg fun same => hij (h.eq_of_session at_i at_j same), h.entries j k at_j]
  known := by
    intro name e entry
    obtain ⟨hi, hl⟩ := List.getElem?_eq_some_iff.mp at_i
    rw [m.entries] at entry
    by_cases same : l.session = name
    · exact ⟨l', List.mem_set hi l', m.session.trans same⟩
    · rw [if_neg same] at entry
      obtain ⟨k, member, named⟩ := h.known name e entry
      obtain ⟨j, hj, rfl⟩ := List.mem_iff_getElem.mp member
      have hij : i ≠ j := by
        rintro rfl
        exact same (hl ▸ named)
      refine ⟨ls[j], ?_, named⟩
      rw [List.mem_iff_getElem]
      exact ⟨j, by simpa using hj, List.getElem_set_ne hij _⟩
  distinct := by
    have names : (ls.set i l').map Life.session = ls.map Life.session := by
      rw [List.map_set, m.session]
      exact set_of_getElem? (by rw [List.getElem?_map, at_i]; rfl)
    rw [names]
    exact h.distinct
  wellFormed := by
    intro k member
    rcases List.mem_or_eq_of_mem_set member with old | rfl
    · exact h.wellFormed k old
    · exact wf

private theorem congr (h : Faithful s ls) (channels : s'.channels = s.channels)
    (supervisors : s'.supervisors = s.supervisors) (sessions : s'.sessions = s.sessions) :
    Faithful s' ls where
  channels := channels.trans h.channels
  supervisors := supervisors.trans h.supervisors
  entries := sessions ▸ h.entries
  known := sessions ▸ h.known
  distinct := h.distinct
  wellFormed := h.wellFormed

private theorem accept (h : Faithful s ls) (now : Nat) (entropy : Entropy) (r : PairRequest)
    (new : Service.nextName entropy ∉ ls.map Life.session) :
    Faithful (s.accept now entropy r).service
      (ls ++ [Life.opening s.config (Service.nextName entropy) r now]) := by
  have absent := h.absent new
  have removed : s.remove (Service.nextName entropy) =
      { s with sessions := s.sessions.erase (Service.nextName entropy) } := by
    unfold Service.remove
    rw [absent]
  have count : s.channels.length = ls.length := by rw [h.channels, List.length_map]
  simp only [Service.accept, removed]
  refine ⟨?_, ?_, ?_, ?_, ?_, ?_⟩
  · simp only [h.channels, List.map_append, List.map_cons, List.map_nil]
  · simp only [h.supervisors, count, List.mapIdx_append, List.mapIdx_cons, List.mapIdx_nil,
      Nat.zero_add]
    rfl
  · intro i l at_i
    simp only [Table.get?_put, Table.get?_erase]
    by_cases old : i < ls.length
    · rw [List.getElem?_append_left old] at at_i
      have other : Service.nextName entropy ≠ l.session := fun same =>
        new (same ▸ List.mem_map_of_mem (List.mem_of_getElem? at_i))
      rw [if_neg other, if_neg other, h.entries i l at_i]
    · rw [List.getElem?_append_right (Nat.not_lt.mp old)] at at_i
      obtain ⟨hi, hl⟩ := List.getElem?_eq_some_iff.mp at_i
      have last : i = ls.length := by
        simp only [List.length_cons, List.length_nil] at hi
        omega
      subst last
      simp only [Nat.sub_self, List.getElem_cons_zero] at hl
      subst hl
      rw [Life.session_opening, if_pos rfl, count]
      rfl
  · intro name e entry
    simp only [Table.get?_put, Table.get?_erase] at entry
    by_cases same : Service.nextName entropy = name
    · exact ⟨_, List.mem_append_right _ List.mem_cons_self, same⟩
    · rw [if_neg same, if_neg same] at entry
      obtain ⟨l, member, named⟩ := h.known name e entry
      exact ⟨l, List.mem_append_left _ member, named⟩
  · rw [List.map_append, List.nodup_append]
    refine ⟨h.distinct, List.nodup_singleton _, ?_⟩
    intro name old name' last same
    obtain rfl := List.mem_singleton.mp last
    rw [Life.session_opening] at same
    exact new (same ▸ old)
  · intro l member
    rcases List.mem_append.mp member with old | last
    · exact h.wellFormed l old
    · obtain rfl := List.mem_singleton.mp last
      exact ⟨State.noConfusion, fun _ => .inl rfl⟩

end Faithful

/-! ### Actions -/

/-- A decision by someone who may make it is made on the session that it names. -/
theorem Happening.perform_of_decision {w : World} {h : Happening} {d : Decision}
    (asked : h.decision? w = some d) :
    h.perform w = (.decided (w.system.decide d.session d.resolution d.outcome).1,
      w.withSystem (w.system.decide d.session d.resolution d.outcome).2) := by
  cases h with
  | approve r =>
    simp only [Happening.decision?] at asked
    simp only [Happening.perform, Transport.Direct.approve, Service.approve]
    cases check : w.system.checkApproval r with
    | error cause => simp only [check, reduceCtorEq] at asked
    | ok granted =>
      simp only [check, Option.some.injEq] at asked
      subst asked
      rfl
  | reject r =>
    simp only [Happening.decision?] at asked
    simp only [Happening.perform, Transport.Direct.reject, Service.reject]
    cases check : w.system.checkRejection r with
    | error cause => simp only [check, reduceCtorEq] at asked
    | ok body =>
      simp only [check, Option.some.injEq] at asked
      subst asked
      rfl
  | _ => cases asked

/-- What does not decide a session leaves all sessions alone, unless it is a supervisor's step. -/
theorem Happening.perform_of_no_decision {w : World} {h : Happening}
    (none : h.decision? w = none) (calm : ∀ woken prefer i, h ≠ .supervise woken prefer i) :
    (h.perform w).2.system.channels = w.system.channels ∧
      (h.perform w).2.system.supervisors = w.system.supervisors ∧
      (h.perform w).2.system.sessions = w.system.sessions := by
  cases h with
  | approve r =>
    simp only [Happening.decision?] at none
    simp only [Happening.perform, Transport.Direct.approve, Service.approve]
    cases check : w.system.checkApproval r with
    | error cause => exact ⟨rfl, rfl, rfl⟩
    | ok granted => simp only [check, reduceCtorEq] at none
  | reject r =>
    simp only [Happening.decision?] at none
    simp only [Happening.perform, Transport.Direct.reject, Service.reject]
    cases check : w.system.checkRejection r with
    | error cause => exact ⟨rfl, rfl, rfl⟩
    | ok body => simp only [check, reduceCtorEq] at none
  | supervise woken prefer i => exact absurd rfl (calm woken prefer i)
  | _ => exact ⟨rfl, rfl, rfl⟩

private theorem evolve_of_calm {w : World} {a : Action} (ls : List Life)
    (old : a.newcomer? w = none)
    (calm : ∀ i l, ls[i]? = some l → a.stimulus? w i l.session = none) : a.evolve w ls = ls := by
  unfold Action.evolve
  rw [old]
  apply List.ext_getElem?
  intro i
  simp only [Option.toList_none, List.append_nil, List.getElem?_mapIdx]
  cases at_i : ls[i]? with
  | none => rfl
  | some l => simp only [Option.map_some, Life.after, calm i l at_i]

private theorem evolve_of_one {w : World} {a : Action} {ls : List Life} {i : Nat} {l : Life}
    (old : a.newcomer? w = none) (at_i : ls[i]? = some l)
    (others : ∀ j k, ls[j]? = some k → j ≠ i → a.stimulus? w j k.session = none) :
    a.evolve w ls = ls.set i (l.after w a i) := by
  unfold Action.evolve
  rw [old]
  apply List.ext_getElem?
  intro j
  simp only [Option.toList_none, List.append_nil, List.getElem?_mapIdx]
  by_cases hij : i = j
  · subst hij
    obtain ⟨hi, -⟩ := List.getElem?_eq_some_iff.mp at_i
    rw [List.getElem?_set_self hi, at_i]
    rfl
  · rw [List.getElem?_set_ne hij]
    cases at_j : ls[j]? with
    | none => rfl
    | some k => simp only [Option.map_some, Life.after, others j k at_j (Ne.symm hij)]

/-- What is no supervisor's step reaches the sessions as a decision only. -/
theorem Action.stimulus?_of_calm {w : World} {h : Happening}
    (calm : ∀ woken prefer i, h ≠ .supervise woken prefer i) (i : Nat) (session : String) :
    (Action.service h).stimulus? w i session =
      (h.decision? w).bind fun d =>
        if d.session = session then some (Stimulus.decision d) else none := by
  cases h with
  | supervise woken prefer j => exact absurd rfl (calm woken prefer j)
  | _ => rfl

private theorem Faithful.perform_calm {w : World} {ls : List Life} (f : Faithful w.system ls)
    {h : Happening} (calm : ∀ woken prefer i, h ≠ .supervise woken prefer i) :
    Faithful (h.perform w).2.system ((Action.service h).evolve w ls) := by
  have stimulus := Action.stimulus?_of_calm (w := w) calm
  cases asked : h.decision? w with
  | none =>
    obtain ⟨channels, supervisors, sessions⟩ := Happening.perform_of_no_decision asked calm
    rw [evolve_of_calm ls rfl fun i l _ => by rw [stimulus, asked]; rfl]
    exact f.congr channels supervisors sessions
  | some d =>
    rw [Happening.perform_of_decision asked]
    by_cases known : d.session ∈ ls.map Life.session
    · obtain ⟨l, member, named⟩ := List.mem_map.mp known
      obtain ⟨i, at_i⟩ := List.mem_iff_getElem?.mp member
      have evolved : (Action.service h).evolve w ls = ls.set i (l.decide d) := by
        rw [evolve_of_one rfl at_i]
        · simp only [Life.after, stimulus, asked, Option.bind_some, if_pos named.symm, Life.feel]
        · intro j k at_j hij
          rw [stimulus, asked, Option.bind_some, if_neg]
          intro same
          exact hij (f.eq_of_session at_j at_i (same.symm.trans named.symm))
      rw [evolved, ← named]
      have wf := f.wellFormed l member
      exact f.move at_i (decide_of_follows (f.follows at_i) wf d).2 (wf.feel 0 (.decision d))
    · rw [evolve_of_calm ls rfl, decide_of_absent (f.absent known)]
      · exact f.congr rfl rfl rfl
      · intro i l at_i
        rw [stimulus, asked, Option.bind_some, if_neg]
        intro same
        exact known (same ▸ List.mem_map_of_mem (List.mem_of_getElem? at_i))

private theorem Faithful.perform_numbered {w : World} {ls : List Life} (f : Faithful w.system ls)
    {a : Action} {x : Stimulus} {i : Nat} (old : a.newcomer? w = none)
    (stimulus : ∀ j session, a.stimulus? w j session = if i = j then some x else none)
    (absent : ls[i]? = none → Faithful (a.perform w).2.system ls)
    (moves : ∀ l, ls[i]? = some l → Moves w.system (a.perform w).2.system i l
      (l.feel w.system.config.sessionTtl.toNat x)) :
    Faithful (a.perform w).2.system (a.evolve w ls) := by
  cases at_i : ls[i]? with
  | none =>
    rw [evolve_of_calm ls old]
    · exact absent at_i
    · intro j l at_j
      rw [stimulus, if_neg]
      rintro rfl
      rw [at_i] at at_j
      cases at_j
  | some l =>
    rw [evolve_of_one old at_i fun j k _ hij => by rw [stimulus, if_neg (Ne.symm hij)]]
    simp only [Life.after, stimulus, if_pos]
    exact f.move at_i (moves l at_i) ((f.wellFormed l (List.mem_of_getElem? at_i)).feel _ x)

private theorem Faithful.perform_supervise {w : World} {ls : List Life} (f : Faithful w.system ls)
    (woken : Nat) (prefer : Cause) (i : Nat) :
    Faithful ((Action.service (.supervise woken prefer i)).perform w).2.system
      ((Action.service (.supervise woken prefer i)).evolve w ls) := by
  refine f.perform_numbered rfl (fun j session => rfl) ?_ ?_
  · intro absent
    have step : w.system.superviseStep ⟨w.now, min woken w.now⟩ prefer i = none := by
      unfold Service.superviseStep
      rw [f.supervisors, List.getElem?_mapIdx, absent]
      rfl
    simp only [Action.perform, Happening.perform, step]
    exact f
  · intro l at_i
    exact supervise_of_follows (f.follows at_i) (f.wellFormed l (List.mem_of_getElem? at_i)) _ prefer

private theorem evolve_openSession {w : World} {r : PairRequest}
    (check : w.system.checkOpening r = .ok ()) (ls : List Life) :
    (Action.openSession r).evolve w ls =
      ls ++ [Life.opening w.system.config (Service.nextName w.entropy) r w.now] := by
  have newcomer : (Action.openSession r).newcomer? w =
      some (Life.opening w.system.config (Service.nextName w.entropy) r w.now) := by
    simp only [Action.newcomer?, check]
  unfold Action.evolve
  rw [newcomer, Option.toList_some]
  congr 1
  apply List.ext_getElem?
  intro i
  rw [List.getElem?_mapIdx]
  cases ls[i]? <;> rfl

private theorem Faithful.perform_openSession {w : World} {ls : List Life} (f : Faithful w.system ls)
    (r : PairRequest)
    (new : ∀ l, (Action.openSession r).newcomer? w = some l → l.session ∉ ls.map Life.session) :
    Faithful ((Action.openSession r).perform w).2.system ((Action.openSession r).evolve w ls) := by
  simp only [Action.perform, Transport.Direct.pairDevice, Service.openSession_eq]
  cases check : w.system.checkOpening r with
  | error cause =>
    rw [evolve_of_calm ls (by simp only [Action.newcomer?, check]) fun _ _ _ => rfl]
    exact f
  | ok _ =>
    have fresh := new (Life.opening w.system.config (Service.nextName w.entropy) r w.now)
      (by simp only [Action.newcomer?, check])
    rw [Life.session_opening] at fresh
    rw [evolve_openSession check]
    exact f.accept w.now w.entropy r fresh

private theorem Faithful.perform_receive {w : World} {ls : List Life} (f : Faithful w.system ls)
    (i : Nat) :
    Faithful ((Action.receive i).perform w).2.system ((Action.receive i).evolve w ls) := by
  refine f.perform_numbered rfl (fun j session => rfl) ?_ ?_
  · intro absent
    have none : w.system.channels[i]? = none := by rw [f.channels, List.getElem?_map, absent]; rfl
    simp only [Action.perform, Environment.receive, Tasks.channel?, none]
    exact f
  · intro l at_i
    have channel := (f.follows at_i).channel
    simp only [Action.perform, Environment.receive, Tasks.channel?, channel]
    exact Moves.modifyChannel (f.follows at_i) fun c => c.receive.2

private theorem Faithful.perform_dropReceiver {w : World} {ls : List Life}
    (f : Faithful w.system ls) (i : Nat) :
    Faithful ((Action.dropReceiver i).perform w).2.system ((Action.dropReceiver i).evolve w ls) := by
  refine f.perform_numbered rfl (fun j session => rfl) ?_ ?_
  · intro absent
    have unchanged : w.system.channels.modify i Channel.dropReceiver = w.system.channels := by
      rw [f.channels]
      exact List.modify_eq_self (by simpa using List.getElem?_eq_none_iff.mp absent)
    exact f.congr unchanged rfl rfl
  · intro l at_i
    exact Moves.modifyChannel (f.follows at_i) Channel.dropReceiver

/-- Every action takes a service that is faithful to its sessions to one that is faithful to what
became of them, as long as a new session gets a new name. -/
theorem Faithful.perform {w : World} {ls : List Life} (f : Faithful w.system ls) (a : Action)
    (new : ∀ l, a.newcomer? w = some l → l.session ∉ ls.map Life.session) :
    Faithful (a.perform w).2.system (a.evolve w ls) := by
  cases a with
  | service h =>
    by_cases calm : ∀ woken prefer i, h ≠ .supervise woken prefer i
    · exact f.perform_calm calm
    · simp only [not_forall, not_not] at calm
      obtain ⟨woken, prefer, i, rfl⟩ := calm
      exact f.perform_supervise woken prefer i
  | openSession r => exact f.perform_openSession r new
  | receive i => exact f.perform_receive i
  | dropReceiver i => exact f.perform_dropReceiver i
  | drawKey =>
    rw [evolve_of_calm ls rfl fun _ _ _ => rfl]
    exact f.congr rfl rfl rfl

end DevicePairing.Session
