import DevicePairing.Proofs.Session.Effects

set_option autoImplicit false
set_option relaxedAutoImplicit false

namespace DevicePairing

namespace Table

variable {κ α : Type} [DecidableEq κ]

private theorem mem_of_get? {t : Table κ α} {key : κ} {a : α} (h : t.get? key = some a) :
    (key, a) ∈ t := by
  induction t with
  | nil => cases h
  | cons row t ih =>
    obtain ⟨k, b⟩ := row
    by_cases here : k = key
    · subst here
      rw [get?, if_pos rfl] at h
      obtain rfl := Option.some.inj h
      exact List.mem_cons_self
    · rw [get?, if_neg here] at h
      exact List.mem_cons_of_mem _ (ih h)

private theorem countP_put {t : Table κ α} {key : κ} {a : α} (h : t.get? key = some a) (b : α)
    (p : κ × α → Bool) :
    (t.put key b).countP p + (if p (key, a) then 1 else 0) =
      t.countP p + (if p (key, b) then 1 else 0) := by
  induction t with
  | nil => cases h
  | cons row t ih =>
    obtain ⟨k, c⟩ := row
    by_cases here : k = key
    · subst here
      rw [get?, if_pos rfl] at h
      obtain rfl := Option.some.inj h
      rw [put, if_pos rfl, List.countP_cons, List.countP_cons]
      omega
    · rw [get?, if_neg here] at h
      have rest := ih h
      rw [put, if_neg here, List.countP_cons, List.countP_cons]
      omega

private theorem countP_put_of_new {t : Table κ α} {key : κ} (h : t.get? key = none) (b : α)
    (p : κ × α → Bool) : (t.put key b).countP p = t.countP p + (if p (key, b) then 1 else 0) := by
  induction t with
  | nil => rw [put, List.countP_cons]
  | cons row t ih =>
    obtain ⟨k, c⟩ := row
    by_cases here : k = key
    · rw [get?, if_pos here] at h
      cases h
    · rw [get?, if_neg here] at h
      rw [put, if_neg here, List.countP_cons, List.countP_cons, ih h]
      omega

private theorem countP_erase {t : Table κ α} {key : κ} {a : α} (h : t.get? key = some a)
    (p : κ × α → Bool) :
    (t.erase key).countP p + (if p (key, a) then 1 else 0) ≤ t.countP p := by
  induction t with
  | nil => cases h
  | cons row t ih =>
    obtain ⟨k, c⟩ := row
    by_cases here : k = key
    · subst here
      rw [get?, if_pos rfl] at h
      obtain rfl := Option.some.inj h
      have fewer : (erase t k).countP p ≤ t.countP p := List.Sublist.countP_le List.filter_sublist
      have dropped : erase ((k, c) :: t) k = erase t k := by simp [erase]
      rw [dropped, List.countP_cons]
      omega
    · rw [get?, if_neg here] at h
      have rest := ih h
      have kept : erase ((k, c) :: t) key = (k, c) :: erase t key := by simp [erase, here]
      rw [kept, List.countP_cons, List.countP_cons]
      omega

end Table

namespace Session

open DevicePairing
open DevicePairing.Clock

def Supervisor.holds (i : Nat) (v : Supervisor) : Bool :=
  match v.phase with
  | .starting => v.channel == i
  | .watching _ => v.channel == i
  | _ => false

namespace Service

/-- The number of senders that the channel `i` counts. -/
def sendersAt (s : Service) (i : Nat) : Nat :=
  match s.channels[i]? with
  | some c => c.senders
  | none => 0

/-- The number of sessions and supervisors that hold a sender of the channel `i`. -/
def holders (s : Service) (i : Nat) : Nat :=
  s.sessions.countP (fun row => row.2.sender == some i) + s.supervisors.countP (Supervisor.holds i)

/-- Every channel counts the senders that are held, those in `hand` included. -/
def Owned (s : Service) (hand : List Nat) : Prop :=
  ∀ i, s.holders i + hand.count i ≤ s.sendersAt i

theorem supervisors_releaseSender (s : Service) (sender : Option Nat) :
    (s.releaseSender sender).supervisors = s.supervisors := by
  cases sender <;> rfl

theorem sessions_releaseSender (s : Service) (sender : Option Nat) :
    (s.releaseSender sender).sessions = s.sessions := by
  cases sender <;> rfl

theorem supervisors_remove (s : Service) (session : String) :
    (s.remove session).supervisors = s.supervisors := by
  unfold remove
  cases s.sessions.get? session with
  | none => rfl
  | some e => exact supervisors_releaseSender _ e.sender

theorem sessions_remove (s : Service) (session : String) :
    (s.remove session).sessions = s.sessions.erase session := by
  unfold remove
  cases s.sessions.get? session with
  | none => rfl
  | some e => exact sessions_releaseSender _ e.sender

private theorem sendersAt_of_channel {s : Service} {i : Nat} {c : Channel}
    (at_i : s.channels[i]? = some c) : s.sendersAt i = c.senders := by
  rw [sendersAt, at_i]

private theorem sendersAt_modifyChannel (s : Service) (j : Nat) {f : Channel → Channel} {lost : Nat}
    (loses : ∀ c, (f c).senders = c.senders - lost) (i : Nat) :
    (s.modifyChannel j f).sendersAt i = s.sendersAt i - if j = i then lost else 0 := by
  by_cases here : j = i
  · subst here
    rw [if_pos rfl, sendersAt, sendersAt, modifyChannel, List.getElem?_modify_eq]
    cases s.channels[j]? with
    | none => exact (Nat.zero_sub lost).symm
    | some c => exact loses c
  · rw [if_neg here, Nat.sub_zero, sendersAt, sendersAt, getElem?_modifyChannel_ne s here]

namespace Owned

variable {s : Service} {hand : List Nat} {i : Nat}

private theorem congr {s' : Service} (h : s.Owned hand) (channels : s'.channels = s.channels)
    (supervisors : s'.supervisors = s.supervisors) (sessions : s'.sessions = s.sessions) :
    s'.Owned hand := by
  intro j
  have owned := h j
  rwa [holders, sendersAt, sessions, supervisors, channels]

private theorem modifyChannel (h : s.Owned hand) (i : Nat) {f : Channel → Channel}
    (keeps : ∀ c, (f c).senders = c.senders) : (s.modifyChannel i f).Owned hand := by
  intro j
  rw [@sendersAt_modifyChannel s i f 0 keeps j, ite_self, Nat.sub_zero]
  exact h j

private theorem release (h : s.Owned (i :: hand)) : (s.releaseSender (some i)).Owned hand := by
  intro j
  have owned := h j
  have same : (s.releaseSender (some i)).holders j = s.holders j := rfl
  rw [same, releaseSender, sendersAt_modifyChannel s i (fun _ => rfl) j]
  rw [List.count_cons] at owned
  by_cases here : i = j
  · subst here
    rw [if_pos rfl]
    rw [if_pos BEq.rfl] at owned
    omega
  · rw [if_neg here]
    rw [if_neg (by simpa using here)] at owned
    omega

private theorem releaseSender {sender : Option Nat} (h : s.Owned (sender.toList ++ hand)) :
    (s.releaseSender sender).Owned hand := by
  cases sender with
  | none => exact h
  | some i => exact h.release

private theorem tell (h : s.Owned (i :: hand)) (x : StreamItem) : (s.tell i x).Owned hand :=
  Owned.release (h.modifyChannel i (f := fun c => c.push x) fun _ => rfl)

private theorem sendTimeout (h : s.Owned hand) (i : Nat) : (s.sendTimeout i).Owned hand := by
  refine h.modifyChannel i fun c => ?_
  rw [Channel.send?_eq]
  split <;> rfl

private theorem ending (h : s.Owned hand) {session : String} {e : Entry}
    (entry : s.sessions.get? session = some e) (state : State) :
    (s.ending session e state).Owned (e.sender.toList ++ hand) := by
  intro j
  have owned := h j
  have counted := Table.countP_put entry { e with state := state, sender := none }
    fun row => row.2.sender == some j
  have channels : (s.ending session e state).sendersAt j = s.sendersAt j := rfl
  have sessions : (s.ending session e state).sessions =
    s.sessions.put session { e with state := state, sender := none } := rfl
  have supervisors : (s.ending session e state).supervisors = s.supervisors := rfl
  rw [holders, channels, sessions, supervisors, List.count_append]
  rw [holders] at owned
  have none_left : ((none : Option Nat) == some j) = false := rfl
  simp only [none_left, Bool.false_eq_true, if_false] at counted
  cases sender : e.sender with
  | none =>
    simp only [sender, none_left, Bool.false_eq_true, if_false] at counted
    rw [Option.toList_none, List.count_nil]
    omega
  | some i =>
    simp only [sender] at counted
    rw [Option.toList_some, List.count_singleton]
    by_cases here : i = j
    · subst here
      simp only [BEq.rfl, if_true] at counted ⊢
      omega
    · have apart : ((some i : Option Nat) == some j) = false := by simpa using here
      have apart' : (i == j) = false := by simpa using here
      simp only [apart, Bool.false_eq_true, if_false] at counted
      simp only [apart', Bool.false_eq_true, if_false]
      omega

private theorem remove (h : s.Owned hand) (session : String) : (s.remove session).Owned hand := by
  unfold Service.remove
  cases entry : s.sessions.get? session with
  | none =>
    intro j
    have owned := h j
    have fewer : (s.sessions.erase session).countP (fun row => row.2.sender == some j) ≤
        s.sessions.countP (fun row => row.2.sender == some j) :=
      List.Sublist.countP_le List.filter_sublist
    simp only [holders, sendersAt] at owned ⊢
    omega
  | some e =>
    refine Owned.releaseSender fun j => ?_
    have owned := h j
    have counted := Table.countP_erase entry fun row => row.2.sender == some j
    simp only [holders, sendersAt, List.count_append] at owned counted ⊢
    have held : e.sender.toList.count j = if e.sender == some j then 1 else 0 := by
      cases e.sender with
      | none => rfl
      | some i => rw [Option.toList_some, List.count_singleton]; rfl
    omega

private theorem decide (h : s.Owned hand) (session : String) (r : Resolution)
    (outcome : Key → Outcome) : (s.decide session r outcome).2.Owned hand := by
  rw [decide_eq]
  cases entry : s.sessions.get? session with
  | none => exact h
  | some e =>
    simp only
    split
    · exact h
    · exact h
    · rename_i i _ listener
      have ended := h.ending entry (.resolved r)
      rw [(listener?_eq_some listener).1] at ended
      exact ended.tell _
    · exact h
    · exact (h.ending entry .expired).releaseSender

private theorem stopWatching {v : Supervisor} (h : s.Owned (v.channel :: hand)) (cause : Cause) :
    (s.stopWatching v cause).Owned hand := by
  rw [stopWatching_eq]
  have released : (s.releaseSender (some v.channel)).Owned hand := h.release
  cases entry : s.sessions.get? v.session with
  | none => exact released
  | some e =>
    simp only
    split
    · have ended := released.ending entry .expired
      cases sender : e.sender with
      | none =>
        rw [sender] at ended
        exact ended
      | some i =>
        rw [sender] at ended
        simp only
        split
        · exact (ended.sendTimeout i).release
        · exact ended.release
    · exact released

end Owned

private theorem setPhase_stopWatching (s : Service) (v : Supervisor) (cause : Cause) (i : Nat)
    (phase : Phase) :
    (s.stopWatching v cause).setPhase i phase = (s.setPhase i phase).stopWatching v cause := by
  rw [stopWatching_eq, stopWatching_eq]
  have sessions : (s.setPhase i phase).sessions = s.sessions := rfl
  rw [sessions]
  cases s.sessions.get? v.session with
  | none => rfl
  | some e =>
    obtain ⟨state, request, payload, sender, openedAt⟩ := e
    cases state <;> cases sender <;> cases cause <;> rfl

private theorem countP_modify {vs : List Supervisor} {i : Nat} {v : Supervisor}
    (at_i : vs[i]? = some v) (f : Supervisor → Supervisor) (p : Supervisor → Bool) :
    (vs.modify i f).countP p + (if p v then 1 else 0) =
      vs.countP p + (if p (f v) then 1 else 0) := by
  induction vs generalizing i with
  | nil => cases at_i
  | cons u vs ih =>
    cases i with
    | zero =>
      obtain rfl := Option.some.inj at_i
      rw [List.modify_zero_cons, List.countP_cons, List.countP_cons]
      omega
    | succ i =>
      have rest := ih (i := i) at_i
      rw [List.modify_succ_cons, List.countP_cons, List.countP_cons]
      omega

namespace Owned

variable {s : Service} {i : Nat} {v : Supervisor}

private theorem setPhase {hand : List Nat} (h : s.Owned []) (at_i : s.supervisors[i]? = some v)
    {phase : Phase}
    (left : ∀ j, (if Supervisor.holds j { v with phase := phase } then 1 else 0) + hand.count j ≤
      if v.holds j then 1 else 0) : (s.setPhase i phase).Owned hand := by
  intro j
  have owned := h j
  have some_left := left j
  have counted := countP_modify at_i (fun v => { v with phase := phase }) (Supervisor.holds j)
  have sessions : (s.setPhase i phase).sessions = s.sessions := rfl
  have supervisors : (s.setPhase i phase).supervisors =
    s.supervisors.modify i fun v => { v with phase := phase } := rfl
  have senders : (s.setPhase i phase).sendersAt j = s.sendersAt j := rfl
  rw [holders, sessions, supervisors, senders]
  rw [holders, List.count_nil] at owned
  omega

private theorem superviseStep (h : s.Owned []) (moment : Moment) (prefer : Cause) (i : Nat) :
    ((s.superviseStep moment prefer i).getD s).Owned [] := by
  unfold Service.superviseStep
  split
  · exact h
  · rename_i v at_i
    split
    · rename_i starting
      refine h.setPhase at_i fun j => ?_
      simp only [Supervisor.holds, starting, List.count_nil, Nat.add_zero]
      exact Nat.le_refl _
    · rename_i deadline watching
      split
      · exact h
      · simp only [Option.getD_some, setPhase_stopWatching]
        refine Owned.stopWatching (h.setPhase at_i fun j => ?_) _
        simp only [Supervisor.holds, watching, List.count_singleton, Bool.false_eq_true, if_false,
          Nat.zero_add, Nat.le_refl]
    · rename_i deadline lingering
      split
      · refine (h.remove v.session).setPhase (v := v) ?_ fun j => ?_
        · rw [supervisors_remove]
          exact at_i
        · simp only [Supervisor.holds, Bool.false_eq_true, if_false, List.count_nil, Nat.zero_add,
            Nat.zero_le]
      · exact h
    · exact h

private theorem enrol (h : s.Owned []) {session : String} (new : s.sessions.get? session = none)
    {e : Entry} (sender : e.sender = some s.channels.length) {c : Channel} (two : c.senders = 2) :
    Owned
      { s with
        sessions := s.sessions.put session e
        channels := s.channels ++ [c]
        supervisors := s.supervisors ++ [⟨session, s.channels.length, .starting⟩] } [] := by
  intro j
  have old := h j
  have one : Supervisor.holds j ⟨session, s.channels.length, .starting⟩ = (s.channels.length == j) :=
    rfl
  have same : (e.sender == some j) = (s.channels.length == j) := by
    rw [sender]
    rfl
  simp only [holders, Table.countP_put_of_new new, List.countP_append, List.countP_singleton, one,
    same, List.count_nil, Nat.add_zero] at old ⊢
  by_cases here : s.channels.length = j
  · subst here
    have nobody : s.sendersAt s.channels.length = 0 := by
      rw [sendersAt, List.getElem?_eq_none (Nat.le_refl _)]
    have counted : ∀ t : Service, t.channels = s.channels ++ [c] → t.sendersAt s.channels.length = 2 := by
      intro t channels
      rw [← two]
      apply sendersAt_of_channel
      rw [channels, List.getElem?_append_right (Nat.le_refl _), Nat.sub_self, List.getElem?_cons_zero]
    rw [counted _ rfl, if_pos BEq.rfl]
    omega
  · have apart : (s.channels.length == j) = false := by simpa using here
    simp only [apart, Bool.false_eq_true, if_false, Nat.add_zero]
    refine Nat.le_trans old ?_
    unfold sendersAt
    rcases Nat.lt_or_ge j s.channels.length with inside | outside
    · have same : (s.channels ++ [c])[j]? = s.channels[j]? := List.getElem?_append_left inside
      simp only [same, Nat.le_refl]
    · have none : s.channels[j]? = none := List.getElem?_eq_none outside
      simp only [none, Nat.zero_le]

private theorem accept (h : s.Owned []) (now : Nat) (entropy : Entropy) (r : PairRequest) :
    (s.accept now entropy r).service.Owned [] := by
  refine (h.remove (nextName entropy)).enrol ?_ rfl rfl
  rw [sessions_remove, Table.get?_erase, if_pos rfl]

end Owned

end Service

theorem Action.owned {w : World} (h : w.system.Owned []) (a : Action) :
    (a.perform w).2.system.Owned [] := by
  have effect := a.effect w
  generalize (a.perform w).2.system = s' at effect
  cases effect with
  | calm channels supervisors sessions => exact h.congr channels supervisors sessions
  | decided _ d _ => exact h.decide d.session d.resolution d.outcome
  | supervised moment _ prefer i => exact h.superviseStep moment prefer i
  | opened r => exact h.accept w.now w.entropy r
  | received i =>
    refine h.modifyChannel i fun c => ?_
    unfold Channel.receive
    split <;> rfl
  | departed i => exact h.modifyChannel i fun _ => rfl

/-- In every run the channels count the senders that sessions and supervisors hold. -/
theorem owned_run (b : Beginning) (as : List Action) : (run b.world as).system.Owned [] := by
  induction as using List.reverseRecOn with
  | nil => exact fun i => Nat.le_refl 0
  | append_singleton as a ih =>
    rw [run_snoc]
    exact a.owned ih

namespace Service.Owned

variable {s : Service} (h : s.Owned []) {i : Nat}
include h

private theorem sendersAt_pos (held : s.Holds i) : 0 < s.sendersAt i := by
  obtain ⟨session, e, entry, sender⟩ := held
  have counted : 0 < s.sessions.countP fun row => row.2.sender == some i := by
    rw [List.countP_pos_iff]
    exact ⟨(session, e), Table.mem_of_get? entry, by simp [sender]⟩
  have owned := h i
  rw [Service.holders] at owned
  omega

theorem senders_pos {c : Channel} (at_i : s.channels[i]? = some c) (held : s.Holds i) :
    0 < c.senders := by
  rw [← sendersAt_of_channel at_i]
  exact h.sendersAt_pos held

theorem channel (held : s.Holds i) : ∃ c, s.channels[i]? = some c := by
  have positive := h.sendersAt_pos held
  unfold sendersAt at positive
  split at positive
  · exact ⟨_, by assumption⟩
  · cases positive

end Service.Owned

end Session

end DevicePairing
