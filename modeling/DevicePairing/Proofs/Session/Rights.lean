import DevicePairing.Proofs.Results
import DevicePairing.Proofs.Session.Setup

set_option autoImplicit false
set_option relaxedAutoImplicit false

/-!
Who may see and decide sessions. A request counts when it was signed for the operation it is used
for, with a key that the authority which is registered for its node at that time has certified.
Every other request is turned away before anything is read from the registry or written to it.
-/

namespace DevicePairing

open DevicePairing.Ed25519 (Signature)
open DevicePairing.Results

/-- The octets are a good signature of a message under a key. -/
def Verifies (key : Key) (message signature : Bytes) : Prop :=
  ∃ s, Signature.ofBytes? signature = some s ∧ Ed25519.verify key message s = true

theorem Verifies.isPublicKey {key : Key} {message signature : Bytes}
    (h : Verifies key message signature) : Ed25519.isPublicKey key = true := by
  obtain ⟨s, -, good⟩ := h
  unfold Ed25519.verify at good
  obtain ⟨a, point, -⟩ := (Option.any_eq_true _ _).mp good
  rw [Ed25519.isPublicKey, point]
  rfl

def Certificate.SignedBy (c : Certificate) (authorityKey : Key) : Prop :=
  Verifies authorityKey c.signingMessage c.signature

theorem Certificate.verify_eq_ok (c : Certificate) (authorityKey : Key) (u : Unit) :
    c.verify authorityKey = .ok u ↔ c.SignedBy authorityKey := by
  constructor
  · intro verified
    unfold verify at verified
    split at verified
    · simp only [reduceCtorEq] at verified
    · cases split : Signature.ofBytes? c.signature with
      | none => simp only [split, reduceCtorEq] at verified
      | some s =>
        simp only [split] at verified
        split at verified
        · exact ⟨s, split, by assumption⟩
        · simp only [reduceCtorEq] at verified
  · intro signed
    have point := signed.isPublicKey
    obtain ⟨s, split, good⟩ := signed
    simp only [verify, point, Bool.not_true, Bool.false_eq_true, if_false, split, good, if_true]

namespace SignedRequest

/-- The request was signed for an operation with the certified key. -/
structure SignedFor (r : SignedRequest) (operation : Operation) : Prop where
  operation_eq : r.operation = operation
  verifies : Verifies r.certificate.deviceKey (signingMessage operation r.body) r.signature

theorem verifiedDeviceKey_eq_ok (c : Certificate) (key : Key) :
    c.verifiedDeviceKey = .ok key ↔ Ed25519.isPublicKey c.deviceKey = true ∧ c.deviceKey = key := by
  unfold Certificate.verifiedDeviceKey
  cases Ed25519.isPublicKey c.deviceKey <;> simp

theorem checkSignature_eq_ok (r : SignedRequest) (operation : Operation) (u : Unit) :
    r.checkSignature operation = .ok u ↔ r.SignedFor operation := by
  unfold checkSignature
  by_cases named : r.operation = operation
  · subst named
    rw [if_neg (not_not.mpr rfl)]
    simp only [bind_eq_ok, verifiedDeviceKey_eq_ok]
    constructor
    · rintro ⟨key, ⟨-, rfl⟩, checked⟩
      refine ⟨rfl, ?_⟩
      cases split : Signature.ofBytes? r.signature with
      | none => simp only [split, reduceCtorEq] at checked
      | some s =>
        simp only [split] at checked
        split at checked
        · exact ⟨s, split, by assumption⟩
        · simp only [reduceCtorEq] at checked
    · rintro ⟨-, signed⟩
      refine ⟨_, ⟨signed.isPublicKey, rfl⟩, ?_⟩
      obtain ⟨s, split, good⟩ := signed
      simp only [split, good, if_true]
  · rw [if_pos named]
    simp only [error_bind, reduceCtorEq, false_iff]
    intro signed
    exact named signed.operation_eq

/-- Why a request is not opened: the caller lacks the right, or a signed body cannot be read. -/
inductive Unopened {α : Type} (k : Cbor.Codec α) (operation : Operation) (r : SignedRequest) :
    PairingError → Prop where
  | unauthorized (detail : String) : Unopened k operation r (.unauthorized detail)
  | codec (detail : String) (signed : r.SignedFor operation)
      (unreadable : ∀ body, k.decode r.body ≠ .ok body) : Unopened k operation r (.codec detail)

variable {α : Type} {k : Cbor.Codec α} {operation : Operation} {r : SignedRequest}

theorem openBody_eq_ok (body : α) :
    r.openBody k operation = .ok body ↔ r.SignedFor operation ∧ k.decode r.body = .ok body := by
  unfold openBody
  simp only [bind_eq_ok, mapError_eq_ok, checkSignature_eq_ok]
  exact ⟨fun ⟨_, signed, decoded⟩ => ⟨signed, decoded⟩,
    fun ⟨signed, decoded⟩ => ⟨(), signed, decoded⟩⟩

private theorem unopened_of_openBody {cause : PairingError}
    (failed : r.openBody k operation = .error cause) : Unopened k operation r cause := by
  unfold openBody at failed
  rcases bind_eq_error.mp failed with unsigned | ⟨_, signed, unreadable⟩
  · obtain ⟨refusal, -, rfl⟩ := mapError_eq_error.mp unsigned
    exact .unauthorized refusal.detail
  · obtain ⟨e, decoded, rfl⟩ := mapError_eq_error.mp unreadable
    refine .codec e.message ((checkSignature_eq_ok r operation ()).mp (mapError_eq_ok.mp signed)) ?_
    intro body readable
    rw [decoded] at readable
    cases readable

end SignedRequest

namespace Session

open DevicePairing.Clock
open DevicePairing.SignedRequest (Unopened)

namespace Service

variable {s : Service} {r : SignedRequest}

private theorem authorize_eq_ok (c : Certificate) (a : NodeAuthority) :
    s.authorize c = .ok a ↔ s.authorities.get? c.node = some a ∧ c.SignedBy a.publicKey := by
  unfold authorize
  cases s.authorities.get? c.node with
  | none => simp only [reduceCtorEq, false_and]
  | some authority =>
    simp only [bind_eq_ok, Certificate.verify_eq_ok, Option.some.injEq, Except.ok.injEq]
    constructor
    · rintro ⟨_, signed, rfl⟩
      exact ⟨rfl, signed⟩
    · rintro ⟨rfl, signed⟩
      exact ⟨(), signed, rfl⟩

section

variable {α : Type} {k : Cbor.Codec α} {operation : Operation}

theorem openAuthorized_eq_ok (body : α) (a : NodeAuthority) :
    s.openAuthorized k operation r = .ok (body, a) ↔
      (r.SignedFor operation ∧ k.decode r.body = .ok body) ∧
        s.authorities.get? r.certificate.node = some a ∧ r.certificate.SignedBy a.publicKey := by
  unfold openAuthorized
  simp only [bind_eq_ok, mapError_eq_ok, SignedRequest.openBody_eq_ok, authorize_eq_ok,
    Except.ok.injEq, Prod.mk.injEq]
  constructor
  · rintro ⟨_, opened, _, known, rfl, rfl⟩
    exact ⟨opened, known⟩
  · rintro ⟨opened, known⟩
    exact ⟨body, opened, a, known, rfl, rfl⟩

theorem unopened_of_openAuthorized {cause : PairingError}
    (failed : s.openAuthorized k operation r = .error cause) : Unopened k operation r cause := by
  unfold openAuthorized at failed
  rcases bind_eq_error.mp failed with unopened | ⟨_, -, unknown⟩
  · exact SignedRequest.unopened_of_openBody unopened
  · rcases bind_eq_error.mp unknown with refused | ⟨_, -, impossible⟩
    · obtain ⟨refusal, -, rfl⟩ := mapError_eq_error.mp refused
      exact .unauthorized refusal.detail
    · cases impossible

end

/-- What the holder of a certificate may have a device certified for: the own node, and not
without restrictions if there are some in the certificate. -/
def MayGrant (c : Certificate) (b : ApprovalBody) : Prop :=
  b.node = c.node ∧ (c.restrictions = "" ∨ b.restrictions ≠ "")

private theorem checkGrant_eq_ok (c : Certificate) (b : ApprovalBody) (u : Unit) :
    checkGrant c b = .ok u ↔ MayGrant c b := by
  unfold checkGrant MayGrant
  by_cases same : b.node = c.node
  · by_cases free : c.restrictions = "" <;> by_cases given : b.restrictions = "" <;>
      simp [same, free, given]
  · simp [same]

theorem checkApproval_eq_ok (body : ApprovalBody) (a : NodeAuthority) :
    s.checkApproval r = .ok (body, a) ↔
      s.openAuthorized ApprovalBody.codec .approvePairing r = .ok (body, a) ∧
        MayGrant r.certificate body := by
  unfold checkApproval
  simp only [bind_eq_ok, mapError_eq_ok, checkGrant_eq_ok, Except.ok.injEq]
  constructor
  · rintro ⟨⟨body', a'⟩, opened, _, granted, same⟩
    cases same
    exact ⟨opened, granted⟩
  · rintro ⟨opened, granted⟩
    exact ⟨_, opened, (), granted, rfl⟩

theorem unopened_of_checkApproval {cause : PairingError}
    (failed : s.checkApproval r = .error cause) :
    Unopened ApprovalBody.codec .approvePairing r cause := by
  unfold checkApproval at failed
  rcases bind_eq_error.mp failed with unopened | ⟨_, -, ungranted⟩
  · exact unopened_of_openAuthorized unopened
  · rcases bind_eq_error.mp ungranted with refused | ⟨_, -, impossible⟩
    · obtain ⟨refusal, -, rfl⟩ := mapError_eq_error.mp refused
      exact .unauthorized refusal.detail
    · cases impossible

theorem checkRejection_eq_ok (body : RejectionBody) :
    s.checkRejection r = .ok body ↔
      ∃ a, s.openAuthorized RejectionBody.codec .rejectPairing r = .ok (body, a) := by
  unfold checkRejection
  simp only [bind_eq_ok, Except.ok.injEq]
  constructor
  · rintro ⟨⟨_, a⟩, opened, rfl⟩
    exact ⟨a, opened⟩
  · rintro ⟨a, opened⟩
    exact ⟨_, opened, rfl⟩

theorem unopened_of_checkRejection {cause : PairingError}
    (failed : s.checkRejection r = .error cause) :
    Unopened RejectionBody.codec .rejectPairing r cause := by
  unfold checkRejection at failed
  rcases bind_eq_error.mp failed with unopened | ⟨_, -, impossible⟩
  · exact unopened_of_openAuthorized unopened
  · cases impossible

end Service

theorem Happening.decision?_of_checkApproval {w : World} {r : SignedRequest} {body : ApprovalBody}
    {a : NodeAuthority} (granted : w.system.checkApproval r = .ok (body, a)) :
    (approve r).decision? w = some ⟨body.session, .approved, fun key =>
      .approved (a.issueCredentials w.issuedAt key body.deviceName body.restrictions)⟩ := by
  rw [decision?, granted]

def Happening.ofRequest (r : SignedRequest) : Operation → Happening
  | .getPairingData => .lookUp r
  | .approvePairing => .approve r
  | .rejectPairing => .reject r

/-- The octets spell what an operation asks. -/
def Readable (b : Bytes) : Operation → Prop
  | .getPairingData => ∃ body, LookupBody.codec.decode b = .ok body
  | .approvePairing => ∃ body, ApprovalBody.codec.decode b = .ok body
  | .rejectPairing => ∃ body, RejectionBody.codec.decode b = .ok body

/-- The right to an operation, where the authorities of the nodes are given. -/
structure Entitled (authority? : Bytes → Option NodeAuthority) (r : SignedRequest)
    (operation : Operation) : Prop where
  signed : r.SignedFor operation
  certified : ∃ a, authority? r.certificate.node = some a ∧ r.certificate.SignedBy a.publicKey
  readable : Readable r.body operation
  granting : operation = .approvePairing →
    ∀ body, ApprovalBody.codec.decode r.body = .ok body → Service.MayGrant r.certificate body

def Answer.error? : Answer → Option PairingError
  | .opened (.error cause) => some cause
  | .data (.error cause) => some cause
  | .decided (.error cause) => some cause
  | _ => none

namespace Answer

@[simp] theorem error?_opened {x : Except PairingError (Opened × Nat)} {cause : PairingError} :
    (opened x).error? = some cause ↔ x = .error cause := by
  cases x <;> simp [error?]

@[simp] theorem error?_data {x : Except PairingError PairingData} {cause : PairingError} :
    (data x).error? = some cause ↔ x = .error cause := by
  cases x <;> simp [error?]

@[simp] theorem error?_decided {x : Except PairingError Unit} {cause : PairingError} :
    (decided x).error? = some cause ↔ x = .error cause := by
  cases x <;> simp [error?]

end Answer

/-- Whether an answer gives what a signed request asked for. -/
def Answer.isGranted : Answer → Bool
  | .data (.ok _) => true
  | .decided (.ok _) => true
  | _ => false

/-- The errors for those who may not ask: they lack the right, or what they signed cannot be
read. -/
def Denies (r : SignedRequest) (operation : Operation) (cause : PairingError) : Prop :=
  (∃ detail, cause = .unauthorized detail) ∨
    ∃ detail, cause = .codec detail ∧ r.SignedFor operation ∧ ¬ Readable r.body operation

/-- A request is turned away: it is denied, and it has no effect at all. -/
structure TurnedAway (w : World) (r : SignedRequest) (operation : Operation) : Prop where
  denied : ∃ cause,
    ((Happening.ofRequest r operation).perform w).1.error? = some cause ∧ Denies r operation cause
  unchanged : ((Happening.ofRequest r operation).perform w).2 = w

def Service.check (s : Service) (r : SignedRequest) : Operation → Except PairingError Unit
  | .getPairingData =>
    (s.openAuthorized LookupBody.codec .getPairingData r).map fun _ => ()
  | .approvePairing => (s.checkApproval r).map fun _ => ()
  | .rejectPairing => (s.checkRejection r).map fun _ => ()

private theorem map_eq_ok {ε α : Type} {x : Except ε α} :
    (x.map fun _ => ()) = .ok () ↔ ∃ a, x = .ok a := by
  cases x <;> simp [Except.map]

private theorem map_eq_error {ε α : Type} {x : Except ε α} {e : ε} :
    (x.map fun _ => ()) = .error e ↔ x = .error e := by
  cases x <;> simp [Except.map]

theorem Service.check_eq_ok (s : Service) (r : SignedRequest) (operation : Operation) :
    s.check r operation = .ok () ↔ Entitled s.authorities.get? r operation := by
  cases operation with
  | getPairingData =>
    simp only [check, map_eq_ok, Prod.exists, openAuthorized_eq_ok]
    constructor
    · rintro ⟨body, a, ⟨signed, readable⟩, known⟩
      exact ⟨signed, ⟨a, known⟩, ⟨body, readable⟩, Operation.noConfusion⟩
    · rintro ⟨signed, ⟨a, known⟩, ⟨body, readable⟩, -⟩
      exact ⟨body, a, ⟨signed, readable⟩, known⟩
  | approvePairing =>
    simp only [check, map_eq_ok, Prod.exists, checkApproval_eq_ok, openAuthorized_eq_ok]
    constructor
    · rintro ⟨body, a, ⟨⟨signed, readable⟩, known⟩, granted⟩
      refine ⟨signed, ⟨a, known⟩, ⟨body, readable⟩, fun _ body' readable' => ?_⟩
      rw [readable] at readable'
      exact Except.ok.inj readable' ▸ granted
    · rintro ⟨signed, ⟨a, known⟩, ⟨body, readable⟩, granting⟩
      exact ⟨body, a, ⟨⟨signed, readable⟩, known⟩, granting rfl body readable⟩
  | rejectPairing =>
    simp only [check, map_eq_ok, checkRejection_eq_ok, openAuthorized_eq_ok]
    constructor
    · rintro ⟨body, a, ⟨signed, readable⟩, known⟩
      exact ⟨signed, ⟨a, known⟩, ⟨body, readable⟩, Operation.noConfusion⟩
    · rintro ⟨signed, ⟨a, known⟩, ⟨body, readable⟩, -⟩
      exact ⟨body, a, ⟨signed, readable⟩, known⟩

private theorem denies_of_unopened {α : Type} {k : Cbor.Codec α} {r : SignedRequest}
    {operation : Operation} {cause : PairingError} (h : Unopened k operation r cause)
    (readable : Readable r.body operation → ∃ body, k.decode r.body = .ok body) :
    Denies r operation cause := by
  cases h with
  | unauthorized detail => exact .inl ⟨detail, rfl⟩
  | codec detail signed unreadable =>
    refine .inr ⟨detail, rfl, signed, fun possible => ?_⟩
    obtain ⟨body, decoded⟩ := readable possible
    exact unreadable body decoded

theorem Service.denies_of_check {s : Service} {r : SignedRequest} {operation : Operation}
    {cause : PairingError} (failed : s.check r operation = .error cause) :
    Denies r operation cause := by
  cases operation with
  | getPairingData =>
    exact denies_of_unopened (unopened_of_openAuthorized (map_eq_error.mp failed)) id
  | approvePairing =>
    exact denies_of_unopened (unopened_of_checkApproval (map_eq_error.mp failed)) id
  | rejectPairing =>
    exact denies_of_unopened (unopened_of_checkRejection (map_eq_error.mp failed)) id

def Answer.refusal (cause : PairingError) : Operation → Answer
  | .getPairingData => .data (.error cause)
  | .approvePairing => .decided (.error cause)
  | .rejectPairing => .decided (.error cause)

@[simp] theorem Answer.error?_refusal (cause : PairingError) (operation : Operation) :
    (refusal cause operation).error? = some cause := by
  cases operation <;> rfl

theorem Happening.perform_of_check_error {w : World} {r : SignedRequest} {operation : Operation}
    {cause : PairingError} (failed : w.system.check r operation = .error cause) :
    (ofRequest r operation).perform w = (.refusal cause operation, w) := by
  cases operation with
  | getPairingData =>
    have refused := map_eq_error.mp failed
    simp only [ofRequest, perform, Transport.Direct.pairingData, Service.pairingData, refused,
      error_bind]
    rfl
  | approvePairing =>
    have refused := map_eq_error.mp failed
    simp only [ofRequest, perform, Transport.Direct.approve, Service.approve, refused]
    rfl
  | rejectPairing =>
    have refused := map_eq_error.mp failed
    simp only [ofRequest, perform, Transport.Direct.reject, Service.reject, refused]
    rfl

def TellsOfSession (cause : PairingError) : Prop :=
  (∃ session, cause = .sessionNotFound session) ∨
    (∃ session, cause = .sessionAlreadyResolved session) ∨ ∃ detail, cause = .invalidState detail

private theorem tells_of_transition {current next : State} {cause : PairingError}
    (failed : current.transition next = .error cause) : TellsOfSession cause := by
  unfold State.transition at failed
  split at failed
  · cases failed
  · exact .inr (.inr ⟨_, (Except.error.inj failed).symm⟩)

private theorem tells_of_resolve {s t : Service} {session : String} {resolution : Resolution}
    {cause : PairingError} (failed : s.resolve session resolution = (.error cause, t)) :
    TellsOfSession cause := by
  have error : (s.resolve session resolution).1 = .error cause := congrArg Prod.fst failed
  unfold Service.resolve at error
  split at error
  · exact .inl ⟨_, (Except.error.inj error).symm⟩
  · rename_i e _
    split at error
    · exact .inr (.inl ⟨_, (Except.error.inj error).symm⟩)
    · exact .inl ⟨_, (Except.error.inj error).symm⟩
    · split at error
      · split at error
        · rename_i cause' transition
          exact Except.error.inj error ▸ tells_of_transition transition
        · cases error
      · split at error
        · rename_i cause' expiry
          unfold Service.expireEntry at expiry
          rcases bind_eq_error.mp expiry with transition | ⟨_, -, impossible⟩
          · exact Except.error.inj error ▸ tells_of_transition transition
          · cases impossible
        · exact .inl ⟨_, (Except.error.inj error).symm⟩

private theorem Service.tells_of_decide {s : Service} {session : String} {resolution : Resolution}
    {outcome : Key → Outcome} {cause : PairingError}
    (failed : (s.decide session resolution outcome).1 = .error cause) : TellsOfSession cause := by
  unfold decide at failed
  rcases resolved : s.resolve session resolution with ⟨result, t⟩
  rw [resolved] at failed
  cases result with
  | error cause' => exact Except.error.inj failed ▸ tells_of_resolve resolved
  | ok granted =>
    simp only [deliver] at failed
    split at failed
    · exact .inl ⟨_, (Except.error.inj failed).symm⟩
    · split at failed
      · exact .inl ⟨_, (Except.error.inj failed).symm⟩
      · cases failed

private theorem Happening.not_denied_of_check {w : World} {r : SignedRequest}
    {operation : Operation} (passed : w.system.check r operation = .ok ()) {cause : PairingError}
    (failed : ((ofRequest r operation).perform w).1.error? = some cause) :
    TellsOfSession cause := by
  cases operation with
  | getPairingData =>
    obtain ⟨⟨body, a⟩, opened⟩ := map_eq_ok.mp passed
    simp only [ofRequest, perform, Transport.Direct.pairingData, Service.pairingData, opened,
      ok_bind] at failed
    split at failed
    · split at failed
      · cases failed
      · exact .inl ⟨_, (Option.some.inj failed).symm⟩
    · exact .inl ⟨_, (Option.some.inj failed).symm⟩
  | approvePairing =>
    obtain ⟨⟨body, a⟩, granted⟩ := map_eq_ok.mp passed
    simp only [ofRequest, perform, Transport.Direct.approve, Service.approve, granted] at failed
    generalize decided : Service.decide _ _ _ _ = result at failed
    obtain ⟨answer, t⟩ := result
    cases answer with
    | error cause' =>
      exact Option.some.inj failed ▸ Service.tells_of_decide (congrArg Prod.fst decided)
    | ok _ => cases failed
  | rejectPairing =>
    obtain ⟨body, granted⟩ := map_eq_ok.mp passed
    simp only [ofRequest, perform, Transport.Direct.reject, Service.reject, granted] at failed
    generalize decided : Service.decide _ _ _ _ = result at failed
    obtain ⟨answer, t⟩ := result
    cases answer with
    | error cause' =>
      exact Option.some.inj failed ▸ Service.tells_of_decide (congrArg Prod.fst decided)
    | ok _ => cases failed

private theorem turnedAway_iff (b : Beginning) (as : List Action) (r : SignedRequest)
    (operation : Operation) :
    TurnedAway (run b.world as) r operation ↔ ¬ Entitled (registered as) r operation := by
  have authorities : (run b.world as).system.authorities.get? = registered as :=
    funext fun node => authority_run b as node
  have checked := (run b.world as).system.check_eq_ok r operation
  rw [authorities] at checked
  rw [← checked]
  constructor
  · rintro ⟨⟨cause, error, denies⟩, -⟩ passed
    rcases Happening.not_denied_of_check passed error with
      ⟨_, rfl⟩ | ⟨_, rfl⟩ | ⟨_, rfl⟩ <;>
      rcases denies with ⟨_, impossible⟩ | ⟨_, impossible, -⟩ <;> cases impossible
  · intro refused
    cases check : (run b.world as).system.check r operation with
    | ok _ => exact absurd check refused
    | error cause =>
      have refused := Happening.perform_of_check_error check
      refine ⟨⟨cause, ?_, Service.denies_of_check check⟩, congrArg Prod.snd refused⟩
      rw [refused, Answer.error?_refusal]

private theorem isGranted_of_error? {x : Answer} {cause : PairingError}
    (h : x.error? = some cause) : x.isGranted = false := by
  unfold Answer.error? at h
  split at h
  · rfl
  · rfl
  · rfl
  · cases h

private theorem registered_of_last (before later : List Action) (a : NodeAuthority)
    (last : ∀ a', .service (.register a') ∈ later → a'.node ≠ a.node) :
    registered (before ++ .service (.register a) :: later) a.node = some a := by
  induction later using List.reverseRecOn with
  | nil => simp [registered, List.foldl_append]
  | append_singleton later x ih =>
    have known := ih fun a' member => last a' (List.mem_append_left _ member)
    rw [← List.cons_append, ← List.append_assoc, registered, List.foldl_append, List.foldl_cons,
      List.foldl_nil, ← registered, known]
    split
    · rename_i a'
      exact if_neg (last a' (List.mem_append_right _ List.mem_cons_self))
    · rfl

/-- In every run, a signed request is granted or has any effect only if the one who signed it has
the right to the operation at that time. Without it the request is turned away. In particular, once
the authority of a node was replaced, all are turned away whose certificate the new one did not
sign. -/
theorem requests_need_rights (b : Beginning) (as : List Action) (r : SignedRequest)
    (operation : Operation) :
    ((((Happening.ofRequest r operation).perform (run b.world as)).1.isGranted = true ∨
        ((Happening.ofRequest r operation).perform (run b.world as)).2 ≠ run b.world as) →
      Entitled (registered as) r operation) ∧
      (¬ Entitled (registered as) r operation → TurnedAway (run b.world as) r operation) ∧
      ∀ before a later, as = before ++ .service (.register a) :: later →
        (∀ a', .service (.register a') ∈ later → a'.node ≠ a.node) →
        r.certificate.node = a.node → ¬ r.certificate.SignedBy a.publicKey →
        TurnedAway (run b.world as) r operation := by
  have away := turnedAway_iff b as r operation
  refine ⟨fun effect => ?_, away.mpr, fun before a later history last node unsigned => ?_⟩
  · by_contra lacking
    obtain ⟨⟨cause, error, -⟩, unchanged⟩ := away.mpr lacking
    rcases effect with granted | changed
    · rw [isGranted_of_error? error] at granted
      cases granted
    · exact changed unchanged
  · refine away.mpr fun entitled => ?_
    obtain ⟨a', known, signed⟩ := entitled.certified
    rw [history, node, registered_of_last before later a last] at known
    exact unsigned (Option.some.inj known ▸ signed)

namespace Sample

def kiosk : Credentials := Credentials.enroll authority 0 ⟨Key.ofNat 2⟩ "kiosk" "read"

def laterSession : String := "cabfb4a9-9e93-487d-b267-5c51463b3025"

def grant : ApprovalBody := ⟨laterSession, [7], "lamp", "read"⟩

def approval : SignedRequest :=
  SignedRequest.sealBody ApprovalBody.codec kiosk .approvePairing grant

theorem kiosk_certified : kiosk.certificate.SignedBy authority.publicKey :=
  (kiosk.certificate.verify_eq_ok authority.publicKey ()).mp (by decide +kernel)

theorem approval_signed : approval.SignedFor .approvePairing :=
  (approval.checkSignature_eq_ok .approvePairing ()).mp (by decide +kernel)

/-- The approval passes the checks wherever the authority is known. -/
theorem approval_granted {s : Service} (known : s.authorities.get? [7] = some authority) :
    s.checkApproval approval = .ok (grant, authority) := by
  have decoded : ApprovalBody.codec.decode approval.body = .ok grant := by decide +kernel
  have opened := (Service.openAuthorized_eq_ok grant authority).mpr
    ⟨⟨approval_signed, decoded⟩, known, kiosk_certified⟩
  exact (Service.checkApproval_eq_ok grant authority).mpr ⟨opened, rfl, .inr (by decide)⟩

end Sample

end Session

end DevicePairing
