import DevicePairing.Proofs.Session.Life
import Mathlib.Data.List.Induction

set_option autoImplicit false
set_option relaxedAutoImplicit false

namespace DevicePairing.Session

open DevicePairing
open DevicePairing.Clock

namespace Service

def setup (s : Service) : ServiceConfig × Table Bytes NodeAuthority := (s.config, s.authorities)

@[simp] theorem setup_releaseSender (s : Service) (sender : Option Nat) :
    (s.releaseSender sender).setup = s.setup := by
  cases sender <;> rfl

@[simp] theorem setup_remove (s : Service) (session : String) :
    (s.remove session).setup = s.setup := by
  unfold remove
  cases s.sessions.get? session with
  | none => rfl
  | some e => exact setup_releaseSender _ e.sender

private theorem setup_resolve (s : Service) (session : String) (r : Resolution) :
    (s.resolve session r).2.setup = s.setup := by
  unfold resolve
  cases s.sessions.get? session with
  | none => rfl
  | some e =>
    simp only
    split
    · rfl
    · rfl
    · split
      · split <;> rfl
      · unfold expireEntry
        cases e.state.transition .expired with
        | error cause => rfl
        | ok state => exact setup_releaseSender _ e.sender

private theorem setup_deliver (s : Service) (sender : Option Nat) (response : PairResponse) :
    (s.deliver sender response).2.setup = s.setup := by
  unfold deliver
  split
  · rfl
  · split
    · exact setup_releaseSender _ _
    · exact setup_releaseSender _ _

private theorem setup_decide (s : Service) (session : String) (r : Resolution)
    (outcome : Key → Outcome) : (s.decide session r outcome).2.setup = s.setup := by
  have resolved := setup_resolve s session r
  unfold decide
  generalize s.resolve session r = resolution at resolved
  obtain ⟨result, t⟩ := resolution
  cases result with
  | error cause => exact resolved
  | ok granted => exact (setup_deliver t granted.2 _).trans resolved

private theorem setup_stopWatching (s : Service) (v : Supervisor) (cause : Cause) :
    (s.stopWatching v cause).setup = s.setup := by
  have expired : ∀ t : Service, ((t.expire v.session).2).setup = t.setup := by
    intro t
    unfold expire
    split
    · rfl
    · split <;> rfl
  have all := (expired (s.releaseSender (some v.channel))).trans
    (setup_releaseSender s (some v.channel))
  rcases expiry : (s.releaseSender (some v.channel)).expire v.session with ⟨sender, t⟩
  rw [expiry] at all
  unfold stopWatching
  simp only [expiry]
  cases sender with
  | none => exact all
  | some i => cases cause <;> exact (setup_releaseSender _ _).trans all

private theorem setup_superviseStep (s : Service) (moment : Moment) (prefer : Cause) (i : Nat) :
    ((s.superviseStep moment prefer i).getD s).setup = s.setup := by
  unfold superviseStep
  split
  · rfl
  · split
    · rfl
    · split
      · rfl
      · exact setup_stopWatching _ _ _
    · split
      · exact setup_remove s _
      · rfl
    · rfl

@[simp] theorem setup_accept (s : Service) (now : Nat) (entropy : Entropy) (r : PairRequest) :
    (s.accept now entropy r).service.setup = s.setup := setup_remove s (nextName entropy)

end Service

theorem Action.setup_perform {w : World} {a : Action}
    (other : ∀ authority, a ≠ .service (.register authority)) :
    (a.perform w).2.system.setup = w.system.setup := by
  cases a with
  | service h =>
    cases h with
    | register authority => exact absurd rfl (other authority)
    | approve r =>
      simp only [Action.perform, Happening.perform, Transport.Direct.approve, Service.approve]
      cases w.system.checkApproval r with
      | error cause => rfl
      | ok granted => exact Service.setup_decide _ _ _ _
    | reject r =>
      simp only [Action.perform, Happening.perform, Transport.Direct.reject, Service.reject]
      cases w.system.checkRejection r with
      | error cause => rfl
      | ok body => exact Service.setup_decide _ _ _ _
    | supervise woken prefer i => exact Service.setup_superviseStep _ _ prefer i
    | _ => rfl
  | openSession r =>
    simp only [Action.perform, Transport.Direct.pairDevice, Service.openSession_eq]
    cases w.system.checkOpening r with
    | error cause => rfl
    | ok _ => exact Service.setup_accept _ _ _ r
  | receive i =>
    simp only [Action.perform, Environment.receive]
    cases Tasks.channel? w.system i <;> rfl
  | _ => rfl

theorem config_run (w : World) (as : List Action) :
    (run w as).system.config = w.system.config := by
  induction as generalizing w with
  | nil => rfl
  | cons a as ih =>
    rw [run, ih]
    by_cases other : ∀ authority, a ≠ .service (.register authority)
    · exact congrArg Prod.fst (Action.setup_perform other)
    · simp only [not_forall, not_not] at other
      obtain ⟨authority, rfl⟩ := other
      rfl

def registered (as : List Action) (node : Bytes) : Option NodeAuthority :=
  as.foldl
    (fun last a =>
      match a with
      | .service (.register authority) => if authority.node = node then some authority else last
      | _ => last)
    none

theorem node_of_registered {as : List Action} {node : Bytes} {authority : NodeAuthority}
    (h : registered as node = some authority) : authority.node = node := by
  induction as using List.reverseRecOn with
  | nil => cases h
  | append_singleton as a ih =>
    rw [registered, List.foldl_append, List.foldl_cons, List.foldl_nil, ← registered] at h
    split at h
    · split at h
      · rename_i same
        cases h
        exact same
      · exact ih h
    · exact ih h

theorem authority_run (b : Beginning) (as : List Action) (node : Bytes) :
    (run b.world as).system.authorities.get? node = registered as node := by
  induction as using List.reverseRecOn with
  | nil => rfl
  | append_singleton as a ih =>
    rw [run_snoc, registered, List.foldl_append, List.foldl_cons, List.foldl_nil, ← registered]
    by_cases other : ∀ authority, a ≠ .service (.register authority)
    · have kept := congrArg Prod.snd (Action.setup_perform (w := run b.world as) other)
      simp only [Service.setup] at kept
      rw [kept, ih]
      split
      · rename_i authority
        exact absurd rfl (other authority)
      · rfl
    · simp only [not_forall, not_not] at other
      obtain ⟨authority, rfl⟩ := other
      simp only [Action.perform, Happening.perform, Environment.withSystem, Service.register,
        Table.get?_put, ih]

end DevicePairing.Session
