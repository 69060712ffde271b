import DevicePairing.Proofs.Message
import DevicePairing.Proofs.Session.Answers
import DevicePairing.Proofs.Signing

set_option autoImplicit false
set_option relaxedAutoImplicit false

namespace DevicePairing

open DevicePairing.Ed25519 (SecretKey)

/-- A device takes what was issued when the certificate is good and for its own key. -/
theorem Credentials.ofIssued_eq_ok (secret : SecretKey) (issued : IssuedCredentials)
    (c : Credentials) :
    ofIssued secret issued = .ok c ↔ issued.certificate.SignedBy issued.authorityKey ∧
      issued.certificate.deviceKey = secret.publicKey ∧
      c = ⟨secret, issued.certificate, issued.authorityKey⟩ := by
  unfold ofIssued
  simp only [Results.bind_eq_ok, Certificate.verify_eq_ok]
  by_cases own : issued.certificate.deviceKey = secret.publicKey <;>
    simp [own, Results.error_bind, eq_comm]

/-- The credentials are for the own key of the device, and the authority certified it. -/
structure Credentials.GoodUnder (c : Credentials) (a : NodeAuthority) : Prop where
  own : c.certificate.deviceKey = c.secret.publicKey
  node : c.certificate.node = a.node
  signed : c.certificate.SignedBy a.publicKey

theorem Credentials.goodUnder_enroll (a : NodeAuthority) (issuedAt : UInt64) (secret : SecretKey)
    (deviceName restrictions : String) :
    (enroll a issuedAt secret deviceName restrictions).GoodUnder a :=
  ⟨rfl, rfl, a.signedBy_issue issuedAt secret.publicKey deviceName restrictions⟩

theorem Credentials.signedFor_sealBytes {c : Credentials}
    (own : c.certificate.deviceKey = c.secret.publicKey) (operation : Operation) (body : Bytes) :
    (SignedRequest.sealBytes c operation body).SignedFor operation := by
  have verifies : Verifies c.secret.publicKey (SignedRequest.signingMessage operation body)
      (c.sign (SignedRequest.signingMessage operation body)) := verifies_sign c.secret _
  rw [← own] at verifies
  exact ⟨rfl, verifies⟩

/-- What a device can ask of a service. -/
inductive Ask where
  /-- To see what a new device says about itself. -/
  | lookUp (body : LookupBody)
  | approve (body : ApprovalBody)
  | reject (body : RejectionBody)

namespace Ask

def operation : Ask → Operation
  | lookUp _ => .getPairingData
  | approve _ => .approvePairing
  | reject _ => .rejectPairing

def octets : Ask → Bytes
  | lookUp body => LookupBody.codec.write body
  | approve body => ApprovalBody.codec.write body
  | reject body => RejectionBody.codec.write body

def sealed (c : Credentials) (x : Ask) : SignedRequest :=
  SignedRequest.sealBytes c x.operation x.octets

def Allowed (c : Certificate) : Ask → Prop
  | approve body => Session.Service.MayGrant c body
  | _ => True

end Ask

namespace Session

open DevicePairing.Cbor (Codec maxDepth)
open DevicePairing.Clock

section

variable {c : Credentials} {a : NodeAuthority} {s : Service} (good : c.GoodUnder a)
  (known : s.authorities.get? a.node = some a)

include good known

private theorem openAuthorized_sealBytes {α : Type} {k : Codec α} {levels : Nat}
    (lawful : k.Lawful levels) (shallow : levels < maxDepth) (operation : Operation) {body : α}
    (fits : Frame.Countable (k.write body)) :
    s.openAuthorized k operation (SignedRequest.sealBytes c operation (k.write body)) =
      .ok (body, a) := by
  refine (Service.openAuthorized_eq_ok body a).mpr ⟨⟨?_, ?_⟩, ?_, good.signed⟩
  · exact Credentials.signedFor_sealBytes good.own operation (k.write body)
  · exact lawful.decode_write shallow fits
  · exact (congrArg s.authorities.get? good.node).trans known

theorem checkApproval_sealed {body : ApprovalBody} (allowed : Service.MayGrant c.certificate body)
    (fits : Frame.Countable (ApprovalBody.codec.write body)) :
    s.checkApproval ((Ask.approve body).sealed c) = .ok (body, a) :=
  (Service.checkApproval_eq_ok body a).mpr
    ⟨openAuthorized_sealBytes good known ApprovalBody.lawful_codec (by decide) .approvePairing fits,
      allowed⟩

/-- Whatever a certified device may ask for passes the checks. -/
theorem check_sealed {x : Ask} (allowed : x.Allowed c.certificate)
    (fits : Frame.Countable x.octets) : s.check (x.sealed c) x.operation = .ok () := by
  cases x with
  | lookUp body =>
    have opened := openAuthorized_sealBytes good known LookupBody.lawful_codec (by decide)
      .getPairingData fits
    exact congrArg (Except.map fun _ => ()) opened
  | approve body =>
    exact congrArg (Except.map fun _ => ()) (checkApproval_sealed good known allowed fits)
  | reject body =>
    have opened := openAuthorized_sealBytes good known RejectionBody.lawful_codec (by decide)
      .rejectPairing fits
    have checked := (Service.checkRejection_eq_ok body).mpr ⟨a, opened⟩
    exact congrArg (Except.map fun _ => ()) checked

end

private theorem overdue_of_expired {b : Beginning} {as : List Action} {i : Nat} {l : Life}
    (at_i : (lives b as)[i]? = some l) (expired : l.state = .expired) :
    l.channel.receiving = false ∨
      l.openedAt + b.config.sessionTtl.toNat ≤ (run b.world as).now := by
  -- Each stimulus keeps it. A timeout is the one that needs more: the deadline of a supervisor is not
  -- before the time of its session is over.
  refine lives_invariant
    (P := fun as _ l => l.state = .expired → l.channel.receiving = false ∨
      l.openedAt + b.config.sessionTtl.toNat ≤ (run b.world as).now) ?_ ?_ at_i expired
  · intro as a l newcomer expired
    rw [newcomer?_eq] at newcomer
    obtain ⟨opening, -, rfl⟩ := Option.map_eq_some_iff.mp newcomer
    cases expired
  · intro as a i l at_i earlier expired
    rw [now_snoc]
    refine Or.imp_right Nat.le_add_right_of_le ?_
    obtain ⟨-, timely⟩ := timely_lives at_i
    unfold Life.after at expired ⊢
    split at expired
    · exact earlier expired
    · rename_i x stimulus
      have change := l.feel_change (run b.world as).system.config.sessionTtl.toNat x
      generalize l.feel _ x = l' at change expired ⊢
      cases change with
      | nothing => exact earlier expired
      | decided => cases expired
      | missed d kept waiting gone => exact .inl gone
      | received => exact (earlier expired).imp_left ((Channel.receiving_receive _).trans ·)
      | departed => exact .inl rfl
      | started => exact earlier expired
      | timedOut m prefer watching due =>
        obtain ⟨-, woken⟩ := Action.moment_of_stimulus stimulus
        simp only [watching] at timely
        exact .inr (by simp only; omega)
      | abandoned m prefer watching waiting gone => exact .inl gone
      | released => exact earlier expired
      | removed => exact earlier expired

/-- A session whose time is not over can be decided, unless this was done or its new device is
gone. -/
theorem granted_in_time {b : Beginning} {as : List Action}
    (distinct : (openings (steps b.world as)).Nodup) {i : Nat} {l : Life}
    (at_i : (lives b as)[i]? = some l) (here : l.channel.receiving = true) {r : PairRequest}
    {j : Nat} {later : List Action} (inTime : InTime b as l.session r j later)
    (undecided : ¬ DecidedIn b as l.session) : l.request = r ∧ l.verdict = .ok () := by
  obtain ⟨openedAt, opened, early⟩ := inTime
  obtain ⟨k, at_j, origin, -⟩ := life_of_openedIn distinct opened
  simp only [Life.origin, Prod.mk.injEq] at origin
  obtain rfl := (faithful_run b as distinct).eq_of_session at_j at_i origin.1
  rw [at_i] at at_j
  obtain rfl := Option.some.inj at_j
  obtain ⟨-, request, rfl⟩ := origin
  obtain ⟨-, timely⟩ := timely_lives at_i
  refine ⟨request, Life.verdict_eq_ok.mpr ⟨fun finished => ?_, ?_, here⟩⟩
  · simp only [finished] at timely
    omega
  · cases state : l.state with
    | awaitingApproval => rfl
    | created =>
      have wf := (faithful_run b as distinct).wellFormed l (List.mem_of_getElem? at_i)
      exact absurd state wf.state_ne_created
    | resolved resolution =>
      exact absurd ((decidedIn_iff distinct at_i).mpr ⟨resolution, state⟩) undecided
    | expired =>
      rcases overdue_of_expired at_i state with gone | late
      · rw [here] at gone
        cases gone
      · omega

end Session

end DevicePairing
