import DevicePairing.Proofs.Frame
import DevicePairing.Proofs.Session.Effects
import DevicePairing.Proofs.Session.Rights

set_option autoImplicit false
set_option relaxedAutoImplicit false

/-!
Certificates that lead to other certificates. The holder of a certificate approves a session, and
its new device is given a certificate with which it can approve others. However long such a chain
is, and whichever authorities are registered meanwhile, nobody in it gets to another node or gets
rid of all restrictions.
-/

namespace DevicePairing

def Certificate.IssuedBy (c : Certificate) (a : NodeAuthority) : Prop :=
  c = a.issue c.issuedAt c.deviceKey c.deviceName c.restrictions

/-- What a holder of a certificate keeps when another certificate comes of it: the node, and
restrictions if there are some. -/
structure Certificate.Inherits (c c' : Certificate) : Prop where
  node : c'.node = c.node
  restricted : c.restrictions ≠ "" → c'.restrictions ≠ ""

instance : Trans Certificate.Inherits Certificate.Inherits Certificate.Inherits where
  trans h h' := ⟨h'.node.trans h.node, h'.restricted ∘ h.restricted⟩

namespace Session

open DevicePairing
open DevicePairing.Clock

/-- An action puts a frame on a channel which reads as an approval with the certificate. -/
def Action.Delivers (w : World) (a : Action) (c : Certificate) : Prop :=
  ∃ (i : Nat) (k k' : Channel) (more : List StreamItem) (octets : Bytes)
    (version : ProtocolVersion) (session : String) (authorityKey : Key),
    w.system.channels[i]? = some k ∧ (a.perform w).2.system.channels[i]? = some k' ∧
    k'.sent = k.sent ++ more ∧ .ok octets ∈ more ∧ Frame.Countable octets ∧
    Frame.decode version octets = .ok (.response ⟨session, .approved ⟨c, authorityKey⟩⟩)

/-- In a run, an approval signed with one certificate delivers another one. -/
def Delegates (b : Beginning) (as : List Action) (c c' : Certificate) : Prop :=
  ∃ before q later, as = before ++ .service (.approve q) :: later ∧ q.certificate = c ∧
    (Action.service (.approve q)).Delivers (run b.world before) c'

private theorem issued_of_delivers {w : World} {q : SignedRequest} {c : Certificate}
    (delivers : (Action.service (.approve q)).Delivers w c) :
    ∃ body a, w.system.checkApproval q = .ok (body, a) ∧ c.IssuedBy a ∧
      c.restrictions = body.restrictions := by
  obtain ⟨i, k, k', more, octets, version, session, authorityKey, at_i, at_i', sent, member,
    countable, decoded⟩ := delivers
  obtain ⟨k'', at_i'', evolves⟩ := Action.evolves (a := .service (.approve q)) rfl at_i
  obtain rfl := Option.some.inj (at_i'.symm.trans at_i'')
  obtain ⟨more', sent', kinds, -⟩ := evolves.sent
  obtain rfl := List.append_cancel_left (sent.symm.trans sent')
  rcases kinds _ member with timeout | ⟨h, d, e, same, asked, entry, frame⟩
  · cases timeout
  · obtain rfl : Happening.approve q = h := Action.service.inj same
    obtain rfl := Except.ok.inj frame
    rw [Frame.decode_response version countable] at decoded
    simp only [Except.ok.injEq, Frame.response.injEq, PairResponse.mk.injEq] at decoded
    cases granted : w.system.checkApproval q with
    | error cause => simp only [Happening.decision?, granted, reduceCtorEq] at asked
    | ok checked =>
      obtain ⟨body, a⟩ := checked
      rw [Happening.decision?_of_checkApproval granted] at asked
      obtain rfl := Option.some.inj asked
      have issued := (Outcome.approved.inj decoded.2)
      have certificate : _ = c := congrArg IssuedCredentials.certificate issued
      subst certificate
      exact ⟨body, a, rfl, rfl, rfl⟩

private theorem delivers_of_approval {w : World} {q : SignedRequest} {body : ApprovalBody}
    {a : NodeAuthority} (granted : w.system.checkApproval q = .ok (body, a)) {e : Entry} {i : Nat}
    {k : Channel} (entry : w.system.sessions.get? body.session = some e)
    (waiting : e.state = .awaitingApproval) (sender : e.sender = some i)
    (at_i : w.system.channels[i]? = some k) (receiving : k.receiving = true)
    (countable : Frame.Countable (Frame.encode (.response ⟨body.session, .approved
      (a.issueCredentials w.issuedAt e.request.deviceKey body.deviceName body.restrictions)⟩))) :
    (Action.service (.approve q)).Delivers w
      (a.issue w.issuedAt e.request.deviceKey body.deviceName body.restrictions) := by
  have asked := Happening.decision?_of_checkApproval granted
  have listener : w.system.listener? e = some i := by
    simp only [Service.listener?, sender, Option.filter, Service.isReceiving, at_i, receiving,
      if_true]
  refine ⟨i, k, (k.push (.ok (Frame.encode (.response ⟨body.session, .approved
      (a.issueCredentials w.issuedAt e.request.deviceKey body.deviceName
        body.restrictions)⟩)))).dropSender, _, _, .v2, body.session, a.publicKey, at_i, ?_, rfl, List.mem_singleton_self _, countable,
    Frame.decode_response .v2 countable⟩
  simp only [Action.perform, Happening.perform_of_decision asked, Service.decide_eq, entry, waiting,
    listener]
  simp [Environment.withSystem, Service.tell, Service.releaseSender, Service.modifyChannel,
    Service.ending, Service.putEntry, at_i]

/-- A chain of certificates in a run. -/
structure ChainOfTrust (b : Beginning) (as : List Action) (cs : List Certificate) : Prop where
  /-- At every time of the run, each authority is kept under its own node. -/
  kept : ∀ before later, as = before ++ later → ∀ node a,
    (run b.world before).system.authorities.get? node = some a → a.node = node
  /-- Each certificate after the first is issued by the authority of its node, which is kept under
  the node of the one before, the holder of which had been certified by the same authority. -/
  issued : cs.IsChain fun c c' => ∃ before later a, as = before ++ later ∧
    (run b.world before).system.authorities.get? c.node = some a ∧ c.SignedBy a.publicKey ∧
    c'.IssuedBy a ∧ c'.node = a.node
  inherits : cs.Pairwise Certificate.Inherits

private theorem node_of_kept {b : Beginning} {as : List Action} {node : Bytes} {a : NodeAuthority}
    (kept : (run b.world as).system.authorities.get? node = some a) : a.node = node :=
  node_of_registered ((authority_run b as node).symm.trans kept)

private theorem link_of_delegates {b : Beginning} {as : List Action} {c c' : Certificate}
    (delegates : Delegates b as c c') :
    (∃ before later a, as = before ++ later ∧
      (run b.world before).system.authorities.get? c.node = some a ∧ c.SignedBy a.publicKey ∧
      c'.IssuedBy a ∧ c'.node = a.node) ∧ c.Inherits c' := by
  obtain ⟨before, q, later, split, rfl, delivers⟩ := delegates
  obtain ⟨body, a, granted, issued, restrictions⟩ := issued_of_delivers delivers
  obtain ⟨opened, -, free⟩ := (Service.checkApproval_eq_ok body a).mp granted
  obtain ⟨-, kept, signed⟩ := (Service.openAuthorized_eq_ok body a).mp opened
  have node : c'.node = a.node := congrArg Certificate.node issued
  refine ⟨⟨before, _, a, split, kept, signed, issued, node⟩, node.trans (node_of_kept kept), ?_⟩
  intro restricted
  rw [restrictions]
  exact free.resolve_left restricted

/-- In every run, and whatever authorities are registered in it, the certificates of a chain are all
for the same node, and none after one with restrictions is without. -/
theorem delegation_keeps_rights {b : Beginning} {as : List Action} {cs : List Certificate}
    (chain : cs.IsChain (Delegates b as)) : ChainOfTrust b as cs where
  kept := fun _ _ _ _ _ kept => node_of_kept kept
  issued := chain.imp fun _ _ delegates => (link_of_delegates delegates).1
  inherits := (chain.imp fun _ _ delegates => (link_of_delegates delegates).2).pairwise

namespace Sample

/-- A session is opened that the device with restrictions may approve. -/
def awaited : List Action := [.service (.register authority), .drawKey, .openSession request]

def lamp : Certificate := authority.issue 0 request.deviceKey "lamp" "read"

private theorem delegates_lamp :
    Delegates beginning (awaited ++ [.service (.approve approval)]) kiosk.certificate lamp := by
  have known : (run beginning.world awaited).system.authorities.get? [7] = some authority :=
    (authority_run beginning awaited [7]).trans rfl
  have entry : ((run beginning.world awaited).system.sessions.get? laterSession).map
      (fun e => (e.state, e.sender, e.request)) = some (.awaitingApproval, some 0, request) := by
    decide +kernel
  have channel : ((run beginning.world awaited).system.channels[0]?).map Channel.receiving =
      some true := by
    decide +kernel
  obtain ⟨e, entry, same⟩ := Option.map_eq_some_iff.mp entry
  obtain ⟨k, channel, receiving⟩ := Option.map_eq_some_iff.mp channel
  simp only [Prod.mk.injEq] at same
  obtain ⟨waiting, sender, requested⟩ := same
  have time : (run beginning.world awaited).issuedAt = 0 := by decide +kernel
  have countable : Frame.Countable (Frame.encode (.response ⟨laterSession, .approved
      (authority.issueCredentials 0 request.deviceKey "lamp" "read")⟩)) := by
    unfold Frame.Countable
    decide +kernel
  rw [← time, ← requested] at countable
  have delivers := delivers_of_approval (approval_granted known) entry waiting sender channel
    receiving countable
  rw [time, requested] at delivers
  exact ⟨awaited, approval, [], rfl, rfl, delivers⟩

end Sample

/-- The chain of two certificates, both with restrictions. -/
theorem delegation_keeps_rights_of_lamp :
    ChainOfTrust Sample.beginning (Sample.awaited ++ [.service (.approve Sample.approval)])
      [Sample.kiosk.certificate, Sample.lamp] :=
  delegation_keeps_rights (.cons_cons Sample.delegates_lamp (.singleton _))

end Session

end DevicePairing
