import DevicePairing.Proofs.Session.Effects

set_option autoImplicit false
set_option relaxedAutoImplicit false

namespace DevicePairing.Session

open DevicePairing
open DevicePairing.Clock

namespace Service

/-- The service where the receiver of the channel `i` has taken `n` items. -/
def viewed (s : Service) (i n : Nat) : Service :=
  s.modifyChannel i fun c => { c with taken := n }

private theorem modifyChannel_comm (s : Service) {i j : Nat} {f g : Channel → Channel}
    (commute : i = j → ∀ c, f (g c) = g (f c)) :
    (s.modifyChannel i f).modifyChannel j g = (s.modifyChannel j g).modifyChannel i f := by
  unfold modifyChannel
  congr 1
  by_cases here : i = j
  · subst here
    rw [List.modify_modify_eq, List.modify_modify_eq]
    congr 1
    funext c
    exact (commute rfl c).symm
  · exact List.modify_modify_ne f g s.channels here

private theorem modify_append {α : Type} {xs : List α} {i : Nat} (inside : i < xs.length)
    (f : α → α) (ys : List α) : (xs ++ ys).modify i f = xs.modify i f ++ ys := by
  induction xs generalizing i with
  | nil => cases inside
  | cons x xs ih =>
    cases i with
    | zero => rfl
    | succ i =>
      rw [List.cons_append, List.modify_succ_cons, List.modify_succ_cons,
        ih (Nat.lt_of_succ_lt_succ inside), List.cons_append]

section

variable (s : Service) (i n : Nat)

theorem viewed_viewed (m : Nat) : (s.viewed i m).viewed i n = s.viewed i n := by
  unfold viewed modifyChannel
  congr 1
  rw [List.modify_modify_eq]
  rfl

theorem channels_viewed (j : Nat) :
    (s.viewed i n).channels[j]? =
      (s.channels[j]?).map fun c => if i = j then { c with taken := n } else c := by
  rw [viewed, modifyChannel, List.getElem?_modify]
  cases s.channels[j]? with
  | none => rfl
  | some c => by_cases here : i = j <;> simp [here]

private theorem isReceiving_viewed (j : Nat) : (s.viewed i n).isReceiving j = s.isReceiving j := by
  unfold isReceiving
  rw [channels_viewed]
  cases s.channels[j]? with
  | none => rfl
  | some c => by_cases here : i = j <;> simp [here]

private theorem listener?_viewed (e : Entry) : (s.viewed i n).listener? e = s.listener? e := by
  unfold listener?
  congr 1
  funext j
  exact isReceiving_viewed s i n j

private theorem modifyChannel_viewed (j : Nat) {f : Channel → Channel}
    (keeps : ∀ c, f { c with taken := n } = { f c with taken := n }) :
    (s.viewed i n).modifyChannel j f = (s.modifyChannel j f).viewed i n :=
  modifyChannel_comm s fun _ c => (keeps c).symm

private theorem releaseSender_viewed (sender : Option Nat) :
    (s.viewed i n).releaseSender sender = (s.releaseSender sender).viewed i n := by
  cases sender with
  | none => rfl
  | some j => exact modifyChannel_viewed s i n j fun _ => rfl

private theorem ending_viewed (session : String) (e : Entry) (state : State) :
    (s.viewed i n).ending session e state = (s.ending session e state).viewed i n := rfl

private theorem tell_viewed (j : Nat) (x : StreamItem) :
    (s.viewed i n).tell j x = (s.tell j x).viewed i n := by
  rw [tell, modifyChannel_viewed s i n j (f := fun c => c.push x) fun _ => rfl, releaseSender_viewed,
    ← tell]

private theorem sendTimeout_viewed (j : Nat) :
    (s.viewed i n).sendTimeout j = (s.sendTimeout j).viewed i n := by
  refine modifyChannel_viewed s i n j fun c => ?_
  obtain ⟨capacity, sent, taken, senders, receiving⟩ := c
  cases receiving <;> rfl

private theorem remove_viewed (session : String) :
    (s.viewed i n).remove session = (s.remove session).viewed i n := by
  unfold remove
  have sessions : (s.viewed i n).sessions = s.sessions := rfl
  rw [sessions]
  cases s.sessions.get? session with
  | none => rfl
  | some e =>
    exact releaseSender_viewed { s with sessions := s.sessions.erase session } i n e.sender

private theorem decide_viewed (session : String) (r : Resolution) (outcome : Key → Outcome) :
    (s.viewed i n).decide session r outcome =
      ((s.decide session r outcome).1, (s.decide session r outcome).2.viewed i n) := by
  rw [decide_eq, decide_eq]
  have sessions : (s.viewed i n).sessions = s.sessions := rfl
  rw [sessions]
  cases s.sessions.get? session with
  | none => rfl
  | some e =>
    obtain ⟨state, request, payload, sender, openedAt⟩ := e
    simp only [listener?_viewed, ending_viewed, tell_viewed, releaseSender_viewed]
    cases s.listener? ⟨state, request, payload, sender, openedAt⟩ <;> cases state <;> rfl

private theorem stopWatching_viewed (v : Supervisor) (cause : Cause) :
    (s.viewed i n).stopWatching v cause = (s.stopWatching v cause).viewed i n := by
  rw [stopWatching_eq, stopWatching_eq]
  have sessions : (s.viewed i n).sessions = s.sessions := rfl
  rw [sessions]
  simp only [releaseSender_viewed, ending_viewed, sendTimeout_viewed]
  cases s.sessions.get? v.session with
  | none => rfl
  | some e =>
    simp only
    split
    · cases e.sender with
      | none => rfl
      | some j =>
        simp only
        split
        · exact releaseSender_viewed _ i n (some j)
        · exact releaseSender_viewed _ i n (some j)
    · rfl

private theorem superviseStep_viewed (moment : Moment) (prefer : Cause) (j : Nat) :
    ((s.viewed i n).superviseStep moment prefer j).getD (s.viewed i n) =
      ((s.superviseStep moment prefer j).getD s).viewed i n := by
  have causes : ∀ v, (s.viewed i n).causes moment v = s.causes moment v := by
    intro v
    simp only [Service.causes, isReceiving_viewed]
  have supervisors : (s.viewed i n).supervisors = s.supervisors := rfl
  unfold Service.superviseStep
  rw [supervisors]
  cases s.supervisors[j]? with
  | none => rfl
  | some v =>
    simp only [causes, stopWatching_viewed, remove_viewed]
    split
    · rfl
    · split <;> rfl
    · split <;> rfl
    · rfl

theorem length_channels_remove (session : String) :
    (s.remove session).channels.length = s.channels.length := by
  unfold remove
  cases s.sessions.get? session with
  | none => rfl
  | some e =>
    simp only
    cases e.sender with
    | none => rfl
    | some j => exact List.length_modify _ s.channels j

private theorem accept_viewed (inside : i < s.channels.length) (now : Nat) (entropy : Entropy)
    (r : PairRequest) :
    (s.viewed i n).accept now entropy r =
      { s.accept now entropy r with service := (s.accept now entropy r).service.viewed i n } := by
  have left := remove_viewed s i n (nextName entropy)
  have length : ∀ t : Service, (t.viewed i n).channels.length = t.channels.length := fun t =>
    List.length_modify _ t.channels i
  have same := length_channels_remove s (nextName entropy)
  have config : (s.viewed i n).config = s.config := rfl
  have appended : ∀ c : Channel, ((s.remove (nextName entropy)).viewed i n).channels ++ [c] =
      ((s.remove (nextName entropy)).channels ++ [c]).modify i fun c => { c with taken := n } :=
    fun c => (modify_append (same ▸ inside) _ [c]).symm
  simp only [accept, left, config, length, appended]
  rfl

end

end Service

/-- The world where the receiver of the channel `i` has taken `n` items. -/
def viewed (w : World) (i n : Nat) : World := w.withSystem (w.system.viewed i n)

/-- An action that is none of a receiver has the same answer and the same effect, however far the
receiver has come. -/
theorem Action.perform_viewed {w : World} {i : Nat} (inside : i < w.system.channels.length)
    {a : Action} (other : a.isAt i = false) (n : Nat) :
    a.perform (viewed w i n) = ((a.perform w).1, viewed (a.perform w).2 i n) := by
  cases a with
  | service h =>
    cases h with
    | approve r =>
      have check : (w.system.viewed i n).checkApproval r = w.system.checkApproval r := rfl
      simp only [perform, Happening.perform, Transport.Direct.approve, Service.approve, viewed,
        Environment.withSystem, check, Environment.issuedAt]
      cases w.system.checkApproval r with
      | error cause => rfl
      | ok granted => simp only [Service.decide_viewed]
    | reject r =>
      have check : (w.system.viewed i n).checkRejection r = w.system.checkRejection r := rfl
      simp only [perform, Happening.perform, Transport.Direct.reject, Service.reject, viewed,
        Environment.withSystem, check]
      cases w.system.checkRejection r with
      | error cause => rfl
      | ok body => simp only [Service.decide_viewed]
    | supervise woken prefer j =>
      simp only [perform, Happening.perform, viewed, Environment.withSystem,
        Service.superviseStep_viewed]
    | _ => rfl
  | openSession r =>
    have check : (w.system.viewed i n).checkOpening r = w.system.checkOpening r := rfl
    simp only [perform, Transport.Direct.pairDevice, Service.openSession_eq, viewed,
      Environment.withSystem, check, Service.accept_viewed w.system i n inside]
    cases w.system.checkOpening r with
    | error cause => rfl
    | ok _ => rfl
  | receive j =>
    have elsewhere : i ≠ j := by simpa [isAt] using other
    have same : (w.system.viewed i n).channels[j]? = w.system.channels[j]? :=
      Service.getElem?_modifyChannel_ne w.system elsewhere _
    have moved := Service.modifyChannel_comm w.system (f := fun c => { c with taken := n })
      (g := fun c => c.receive.2) fun here => absurd here elsewhere
    simp only [perform, Environment.receive, Tasks.channel?, Tasks.modifyChannel, viewed,
      Environment.withSystem, same]
    cases w.system.channels[j]? with
    | none => rfl
    | some c =>
      simp only [Service.viewed, moved]
  | dropReceiver j =>
    have elsewhere : i ≠ j := by simpa [isAt] using other
    have moved := Service.modifyChannel_comm w.system (f := fun c => { c with taken := n })
      (g := Channel.dropReceiver) fun here => absurd here elsewhere
    simp only [perform, Environment.dropReceiver, Tasks.modifyChannel, viewed,
      Environment.withSystem, Service.viewed, moved]
  | drawKey => rfl

end DevicePairing.Session
