import DevicePairing.Proofs.Session.Effects
import DevicePairing.Proofs.Session.Isolation

set_option autoImplicit false
set_option relaxedAutoImplicit false

/-!
What signed requests find out. Two services that know the same authorities give the same error to a
request that fails a check, whatever sessions they keep. A request that passes the checks finds out
about the session that it names and about no other one.
-/

namespace DevicePairing.Session

open DevicePairing
open DevicePairing.Clock
open DevicePairing.Results

namespace Service

/-- What can be seen of a session from outside: its state, what opened it, its payload, and whether
its new device is there. -/
def sight? (s : Service) (session : String) : Option (State × PairRequest × String × Bool) :=
  (s.sessions.get? session).map fun e => (e.state, e.request, e.exchangePayload, s.canSend e)

section

variable {s s' : Service} {session : String} (seen : s'.sight? session = s.sight? session)
include seen

private theorem sight_cases :
    (s.sessions.get? session = none ∧ s'.sessions.get? session = none) ∨
      ∃ e e', s.sessions.get? session = some e ∧ s'.sessions.get? session = some e' ∧
        e'.state = e.state ∧ e'.request = e.request ∧ e'.exchangePayload = e.exchangePayload ∧
        s'.canSend e' = s.canSend e := by
  unfold sight? at seen
  cases entry : s.sessions.get? session with
  | none =>
    rw [entry, Option.map_none, Option.map_eq_none_iff] at seen
    exact .inl ⟨rfl, seen⟩
  | some e =>
    rw [entry, Option.map_some, Option.map_eq_some_iff] at seen
    obtain ⟨e', entry', same⟩ := seen
    simp only [Prod.mk.injEq] at same
    exact .inr ⟨e, e', rfl, entry', same⟩

private theorem pairingData_of_sight {r : SignedRequest} {a : NodeAuthority}
    (opened : s.openAuthorized LookupBody.codec .getPairingData r = .ok (⟨session⟩, a))
    (opened' : s'.openAuthorized LookupBody.codec .getPairingData r = .ok (⟨session⟩, a)) :
    s'.pairingData r = s.pairingData r := by
  simp only [pairingData, opened, opened', ok_bind]
  rcases sight_cases seen with ⟨none, none'⟩ | ⟨e, e', entry, entry', state, request, payload, -⟩
  · rw [none, none']
  · simp only [entry, entry', describe, state, request, payload]

private theorem answer_decide_of_sight (r : Resolution) (outcome outcome' : Key → Outcome) :
    (s'.decide session r outcome').1 = (s.decide session r outcome).1 := by
  rw [decide_eq, decide_eq]
  rcases sight_cases seen with ⟨none, none'⟩ | ⟨e, e', entry, entry', state, -, -, hears⟩
  · rw [none, none']
  · rw [canSend_eq, canSend_eq] at hears
    rw [entry, entry']
    simp only [state]
    cases listener : s.listener? e <;> cases listener' : s'.listener? e' <;>
      simp only [listener, listener', Option.isSome_none, Option.isSome_some, reduceCtorEq] at hears <;>
      cases e.state <;> rfl

end

end Service

/-- What two worlds tell in answer to one request. -/
structure Discreet (w w' : World) (r : SignedRequest) (operation : Operation) : Prop where
  /-- Those who lack the right are given the same error, and nothing is done. -/
  refused : ¬ Entitled w.system.authorities.get? r operation → ∃ cause, Denies r operation cause ∧
    (Happening.ofRequest r operation).perform w = (.refusal cause operation, w) ∧
      (Happening.ofRequest r operation).perform w' = (.refusal cause operation, w')
  /-- All others are told about the session that they name, as far as it can be seen. -/
  served : Entitled w.system.authorities.get? r operation →
    ∃ session, (Happening.ofRequest r operation).named? = some session ∧
      (w'.system.sight? session = w.system.sight? session →
        ((Happening.ofRequest r operation).perform w').1 =
          ((Happening.ofRequest r operation).perform w).1)

section

variable {w w' : World} (same : w'.system.authorities.get? = w.system.authorities.get?)
  {r : SignedRequest}
include same

private theorem opened_of_entitled {operation : Operation} {α : Type} {k : Cbor.Codec α} {body : α}
    (entitled : Entitled w.system.authorities.get? r operation)
    (readable : k.decode r.body = .ok body) :
    ∃ a, w.system.openAuthorized k operation r = .ok (body, a) ∧
      w'.system.openAuthorized k operation r = .ok (body, a) := by
  obtain ⟨a, known⟩ := entitled.certified
  have opened := (Service.openAuthorized_eq_ok body a).mpr ⟨⟨entitled.signed, readable⟩, known⟩
  exact ⟨a, opened, (Service.openAuthorized_congr same r k operation).trans opened⟩

private theorem served_lookUp (entitled : Entitled w.system.authorities.get? r .getPairingData) :
    ∃ session, (Happening.lookUp r).named? = some session ∧
      (w'.system.sight? session = w.system.sight? session →
        ((Happening.lookUp r).perform w').1 = ((Happening.lookUp r).perform w).1) := by
  obtain ⟨body, readable⟩ := entitled.readable
  obtain ⟨a, opened, opened'⟩ := opened_of_entitled same entitled readable
  refine ⟨body.session, by rw [Happening.named?, readable]; rfl, fun seen => ?_⟩
  exact congrArg Answer.data (Service.pairingData_of_sight seen opened opened')

private theorem served_approve (entitled : Entitled w.system.authorities.get? r .approvePairing) :
    ∃ session, (Happening.approve r).named? = some session ∧
      (w'.system.sight? session = w.system.sight? session →
        ((Happening.approve r).perform w').1 = ((Happening.approve r).perform w).1) := by
  obtain ⟨body, readable⟩ := entitled.readable
  obtain ⟨a, opened, -⟩ := opened_of_entitled same entitled readable
  have granted := (Service.checkApproval_eq_ok body a).mpr
    ⟨opened, entitled.granting rfl body readable⟩
  have granted' := (Service.checkApproval_congr same r).trans granted
  refine ⟨body.session, by rw [Happening.named?, readable]; rfl, fun seen => ?_⟩
  simp only [Happening.perform, Transport.Direct.approve, Service.approve, granted, granted']
  exact congrArg Answer.decided (Service.answer_decide_of_sight seen .approved _ _)

private theorem served_reject (entitled : Entitled w.system.authorities.get? r .rejectPairing) :
    ∃ session, (Happening.reject r).named? = some session ∧
      (w'.system.sight? session = w.system.sight? session →
        ((Happening.reject r).perform w').1 = ((Happening.reject r).perform w).1) := by
  obtain ⟨body, readable⟩ := entitled.readable
  obtain ⟨a, opened, -⟩ := opened_of_entitled same entitled readable
  have granted := (Service.checkRejection_eq_ok body).mpr ⟨a, opened⟩
  have granted' := (Service.checkRejection_congr same r).trans granted
  refine ⟨body.session, by rw [Happening.named?, readable]; rfl, fun seen => ?_⟩
  simp only [Happening.perform, Transport.Direct.reject, Service.reject, granted, granted']
  exact congrArg Answer.decided (Service.answer_decide_of_sight seen .rejected _ _)

end

/-- Without rights nothing can be found out about the sessions of a service, and with them nothing
but what is seen of the session that is asked for. -/
theorem sessions_cannot_be_probed {w w' : World}
    (same : w'.system.authorities.get? = w.system.authorities.get?) (r : SignedRequest)
    (operation : Operation) : Discreet w w' r operation := by
  refine ⟨fun lacking => ?_, fun entitled => ?_⟩
  · rw [← Service.check_eq_ok] at lacking
    cases check : w.system.check r operation with
    | ok _ => exact absurd check lacking
    | error cause =>
      have check' := (Service.check_congr same r operation).trans check
      exact ⟨cause, Service.denies_of_check check, Happening.perform_of_check_error check,
        Happening.perform_of_check_error check'⟩
  · cases operation with
    | getPairingData => exact served_lookUp same entitled
    | approvePairing => exact served_approve same entitled
    | rejectPairing => exact served_reject same entitled

namespace Sample

def occupied : List Action := [.service (.register authority), .openSession request]

/-- The authority is known, and no session was ever opened. -/
def vacant : List Action := [.service (.register authority)]

private theorem occupied_vacant :
    (run beginning.world vacant).system.authorities.get? =
      (run beginning.world occupied).system.authorities.get? :=
  funext fun node => (authority_run beginning vacant node).trans
    (authority_run beginning occupied node).symm

private theorem approval_lacks_rejection (authority? : Bytes → Option NodeAuthority) :
    ¬ Entitled authority? approval .rejectPairing :=
  fun entitled => Operation.noConfusion (approval_signed.operation_eq.symm.trans
    entitled.signed.operation_eq)

private theorem approval_entitled :
    Entitled (run beginning.world occupied).system.authorities.get? approval .approvePairing := by
  refine (Service.check_eq_ok _ approval .approvePairing).mp ?_
  have known : (run beginning.world occupied).system.authorities.get? [7] = some authority :=
    (authority_run beginning occupied [7]).trans rfl
  simp only [Service.check, approval_granted known]
  rfl

end Sample

/-- A service with a session and one without any, asked to approve a third session and asked to
reject it with the same signature. -/
theorem sessions_cannot_be_probed_of_occupied :
    (∃ cause, (Happening.ofRequest Sample.approval .rejectPairing).perform
        (run Sample.beginning.world Sample.occupied) =
          (.refusal cause .rejectPairing, run Sample.beginning.world Sample.occupied) ∧
      ((Happening.ofRequest Sample.approval .rejectPairing).perform
        (run Sample.beginning.world Sample.vacant)).1 = .refusal cause .rejectPairing) ∧
    ((Happening.ofRequest Sample.approval .approvePairing).perform
        (run Sample.beginning.world Sample.vacant)).1 =
      ((Happening.ofRequest Sample.approval .approvePairing).perform
        (run Sample.beginning.world Sample.occupied)).1 := by
  constructor
  · obtain ⟨cause, -, refused, refused'⟩ :=
      (sessions_cannot_be_probed Sample.occupied_vacant Sample.approval .rejectPairing).refused
        (Sample.approval_lacks_rejection _)
    exact ⟨cause, refused, congrArg Prod.fst refused'⟩
  · obtain ⟨session, named, served⟩ :=
      (sessions_cannot_be_probed Sample.occupied_vacant Sample.approval .approvePairing).served
        Sample.approval_entitled
    have named' : (Happening.ofRequest Sample.approval .approvePairing).named? =
        some Sample.laterSession := by
      decide +kernel
    obtain rfl := Option.some.inj (named.symm.trans named')
    exact served (by decide +kernel)

end DevicePairing.Session
