import DevicePairing.Client.Attester
import DevicePairing.Proofs.Client.Agreement
import DevicePairing.Proofs.Session.Attestation

set_option autoImplicit false
set_option relaxedAutoImplicit false

/-!
Pairings that are completed. When a certified device approves a session in time, the new device
gets credentials that are as good as those it would have got from the authority itself, and it can
approve further sessions in turn. So however many devices came in this way, one after the other,
all of them can bring in more.
-/

namespace DevicePairing.Client

open DevicePairing
open DevicePairing.Clock
open DevicePairing.Session

private theorem await_of_first {σ α β : Type} [Tasks σ] {limit : Option Nat}
    {attempt : β → Environment σ → Option α × β × Environment σ} {x : β} {w : Environment σ} {a : α}
    (first : (attempt x w).1 = some a) : (w.await limit attempt x).1 = some a := by
  simp only [Environment.await, Environment.awaitFor]
  generalize attempt x w = result at first
  obtain ⟨_, y, w'⟩ := result
  obtain rfl := first
  rfl

private theorem channel_receive {w : World} {j : Nat} {k : Channel}
    (channel : w.system.channels[j]? = some k) :
    (w.receive j).1 = k.receive.1 ∧ (w.receive j).2.system.channels[j]? = some k.receive.2 := by
  simp only [Environment.receive, Tasks.channel?, channel, Environment.withSystem,
    Tasks.modifyChannel, Service.modifyChannel, List.getElem?_modify_eq]
  exact ⟨trivial, rfl⟩

namespace EventStream

private theorem pollResponse_of_queued {ts : List String} {p : PairResponse} {e : EventStream}
    {j : Nat} (isOpen : e.channel = some j) {w : World} {k : Channel}
    (channel : w.system.channels[j]? = some k)
    (queued : k.queued.map e.interpret = (ts.map Event.info ++ [Event.response p]).map .ok)
    {n : Nat} (enough : ts.length ≤ n) : (pollResponse n e w).1 = some (.ok p) := by
  -- On the texts that are still before the response. Each poll shows one of them and leaves a stream
  -- and a channel of the same kind.
  induction ts generalizing e w k n with
  | nil =>
    cases waiting : k.queued with
    | nil => simp [waiting] at queued
    | cons x rest =>
      simp only [waiting, List.map_cons, List.map_nil, List.nil_append, List.cons.injEq] at queued
      have found := (channel_receive channel).1
      rw [Channel.receive, waiting] at found
      have polled := poll_of_open isOpen w
      rw [found, shows, queued.1] at polled
      rw [pollResponse, polled]
  | cons t ts ih =>
    cases waiting : k.queued with
    | nil => simp [waiting] at queued
    | cons x rest =>
      simp only [waiting, List.map_cons, List.cons_append, List.cons.injEq] at queued
      obtain ⟨found, left⟩ := channel_receive channel
      rw [Channel.receive, waiting] at found left
      have polled := poll_of_open isOpen w
      rw [found, shows, queued.1] at polled
      obtain ⟨n, rfl⟩ : ∃ m, n = m + 1 := ⟨n - 1, by simp only [List.length_cons] at enough; omega⟩
      rw [pollResponse, polled]
      refine ih ?_ left ?_ (by simpa using enough)
      · rw [channel_after, isOpen]
        rfl
      · have behind : ({ k with taken := k.taken + 1 } : Channel).queued = rest := by
          rw [Channel.queued, ← List.drop_drop, ← Channel.queued, waiting, List.drop_one,
            List.tail_cons]
        rw [behind, interpret_after]
        exact queued.2

private theorem response_of_first {e : EventStream} {w : World}
    {x : Except PairingError PairResponse} (first : (pollResponse (e.queued w) e w).1 = some x) :
    (e.response w).1 = x := by
  have told : (w.await (some e.deadline) (fun s w => pollResponse (s.queued w) s w) e).1 = some x :=
    await_of_first first
  unfold response
  generalize w.await (some e.deadline) (fun s w => pollResponse (s.queued w) s w) e = result at told
  obtain ⟨_, e', w'⟩ := result
  obtain rfl := told
  rfl

private theorem response_of_queued {ts : List String} {p : PairResponse} {e : EventStream} {j : Nat}
    (isOpen : e.channel = some j) {w : World} {k : Channel}
    (channel : w.system.channels[j]? = some k)
    (queued : k.queued.map e.interpret = (ts.map Event.info ++ [Event.response p]).map .ok) :
    (e.response w).1 = .ok p := by
  have length := congrArg List.length queued
  simp only [List.length_map, List.length_append, List.length_singleton] at length
  have enough : ts.length ≤ e.queued w := by
    simp only [EventStream.queued, isOpen, Option.bind_some, Tasks.channel?, channel]
    omega
  have first := pollResponse_of_queued isOpen channel queued enough
  exact response_of_first first

end EventStream

private theorem script_eq (e : EventStream) (d : Decision) : ∃ ts : List String,
    script e d = ts.map Event.info ++ [Event.response ⟨e.session, d.outcome e.secret.publicKey⟩] := by
  unfold script texts
  cases e.version with
  | v1 => exact ⟨[Exchange.payload e.session], rfl⟩
  | v2 => exact ⟨[], rfl⟩

private theorem drop_script {ts : List String} {x : Event} {n : Nat}
    (more : n < (ts.map Event.info ++ [x]).length) :
    (ts.map Event.info ++ [x]).drop n = (ts.drop n).map Event.info ++ [x] := by
  rw [List.length_append, List.length_map, List.length_singleton] at more
  rw [List.drop_append_of_le_length (by rw [List.length_map]; omega), List.map_drop]

private theorem Serving.queued {events : List Event} {items : List StreamItem} {j n : Nat}
    {e : EventStream} {l : Life} (h : Serving items j n e l)
    (meant : items.map e.interpret = events.map .ok) (isOpen : e.channel ≠ none) :
    n < events.length ∧ e.channel = some j ∧
      l.channel.queued.map e.interpret = (events.drop n).map .ok := by
  have length := congrArg List.length meant
  rw [List.length_map, List.length_map] at length
  have more : n < items.length := by
    by_contra all
    exact isOpen (h.channel.trans (if_neg all))
  refine ⟨length ▸ more, h.channel.trans (if_pos more), ?_⟩
  rw [Channel.queued, h.sent, h.taken more, List.map_drop, meant, List.map_drop]

section

variable {b : Beginning} {before after : List Move} {j : Nat}

private theorem stream_append (distinct : Distinct b (before ++ after)) {e : EventStream}
    (stream : ((Scene.ofBeginning b).play before).streams[j]? = some e) :
    ∃ e', ((Scene.ofBeginning b).play (before ++ after)).streams[j]? = some e' ∧
      e'.session = e.session ∧ e'.secret = e.secret ∧ (e'.channel ≠ none → .close j ∉ after) := by
  -- On the moves after, the last one first: `course` tells what a single move is to the stream.
  induction after using List.reverseRecOn with
  | nil => exact ⟨e, by rwa [List.append_nil], rfl, rfl, fun _ => List.not_mem_nil⟩
  | append_singleton after m ih =>
    rw [← List.append_assoc] at distinct ⊢
    obtain ⟨k, stream', session, secret, stays⟩ := ih distinct.of_append
    obtain ⟨l, at_j, -⟩ := linked_play distinct.of_append j k stream'
    obtain ⟨e', l', stream'', -, moved⟩ := course distinct.of_append stream' at_j m
    generalize ((Scene.ofBeginning b).play (before ++ after)).sight? j m = x at moved
    refine ⟨e', stream'', ?_⟩
    rw [List.mem_append, List.mem_singleton, not_or]
    cases moved with
    | apart noPoll noClose =>
      exact ⟨session, secret, fun isOpen => ⟨stays isOpen, Ne.symm noClose⟩⟩
    | ended closed => exact ⟨session, secret, fun isOpen => absurd closed isOpen⟩
    | shown isOpen sight =>
      rw [EventStream.session_after, EventStream.secret_after]
      exact ⟨session, secret, fun _ => ⟨stays (isOpen ▸ Option.some_ne_none j), Move.noConfusion⟩⟩
    | left => exact ⟨session, secret, fun isOpen => absurd rfl isOpen⟩

end

def approval (c : Credentials) (body : ApprovalBody) : Move :=
  .service (.approve ((Ask.approve body).sealed c))

private theorem streams_approval (s : Scene) (c : Credentials) (body : ApprovalBody) :
    (s.move (approval c body)).streams = s.streams := by
  rw [approval, Scene.move]

/-- What the service sends to the new device of a stream when its session is approved. -/
def issued (b : Beginning) (a : NodeAuthority) (before : List Move) (e : EventStream)
    (body : ApprovalBody) : IssuedCredentials :=
  a.issueCredentials ((Scene.ofBeginning b).play before).world.issuedAt e.secret.publicKey
    body.deviceName body.restrictions

/-- What the authority would give to the new device of a stream without a pairing. -/
def gained (b : Beginning) (a : NodeAuthority) (before : List Move) (e : EventStream)
    (body : ApprovalBody) : Credentials :=
  .enroll a ((Scene.ofBeginning b).play before).world.issuedAt e.secret body.deviceName
    body.restrictions

/-- After some moves, the holder of credentials of a node with the authority `a` can have the device
certified that opened the stream `j` with the request `r`. -/
structure Pairing (b : Beginning) (a : NodeAuthority) (before : List Move) (c : Credentials)
    (body : ApprovalBody) (j : Nat) (e : EventStream) (r : PairRequest) : Prop where
  distinct : Distinct b before
  registered : ((Scene.ofBeginning b).play before).world.system.authorities.get? a.node = some a
  stream : ((Scene.ofBeginning b).play before).streams[j]? = some e
  isOpen : e.channel ≠ none
  named : body.session = e.session
  inTime : ∃ i later, InTime b ((Scene.ofBeginning b).history before) e.session r i later
  undecided : ¬ DecidedIn b ((Scene.ofBeginning b).history before) e.session
  granting : Service.MayGrant c.certificate body
  asked : Frame.Countable (ApprovalBody.codec.write body)
  answered : Frame.Countable
    (Frame.encode (.response ⟨e.session, .approved (issued b a before e body)⟩))

section

variable {b : Beginning} {a : NodeAuthority} {before after : List Move} {c : Credentials}
  {body : ApprovalBody} {j : Nat} {e : EventStream} {r : PairRequest}

private theorem goodUnder_gained (b : Beginning) (a : NodeAuthority) (before : List Move)
    (e : EventStream) (body : ApprovalBody) : (gained b a before e body).GoodUnder a :=
  Credentials.goodUnder_enroll ..

private theorem Pairing.granted (pairing : Pairing b a before c body j e r) (good : c.GoodUnder a) :
    ∃ d l, (Happening.approve ((Ask.approve body).sealed c)).decision?
        ((Scene.ofBeginning b).play before).world = some d ∧
      d.session = l.session ∧
      (∀ key, d.outcome key = .approved (a.issueCredentials
        ((Scene.ofBeginning b).play before).world.issuedAt key body.deviceName body.restrictions)) ∧
      (lives b ((Scene.ofBeginning b).history before))[j]? = some l ∧ Linked j e l ∧
      l.request = r ∧ l.verdict = .ok () := by
  obtain ⟨l, at_j, link⟩ := linked_play pairing.distinct j e pairing.stream
  obtain ⟨k, isOpen⟩ := Option.ne_none_iff_exists'.mp pairing.isOpen
  obtain ⟨i, later, inTime⟩ := pairing.inTime
  have undecided := pairing.undecided
  rw [link.session] at inTime undecided
  have passed := checkApproval_sealed good pairing.registered pairing.granting pairing.asked
  obtain ⟨request, verdict⟩ := granted_in_time pairing.distinct.openings at_j (link.number isOpen).2
    inTime undecided
  exact ⟨_, l, Happening.decision?_of_checkApproval passed, pairing.named.trans link.session,
    fun _ => rfl, at_j, link, request, verdict⟩

private theorem perform_approve {s : Scene} {q : SignedRequest}
    (made : ((Happening.approve q).perform s.world).1 = .decided (.ok ())) :
    Transport.Direct.approve q s.world = (.ok (), (s.move (.service (.approve q))).world) := by
  have answer : (Transport.Direct.approve q s.world).1 = .ok () := by
    injection made
  exact Prod.ext answer rfl

private theorem Pairing.approve_eq (pairing : Pairing b a before c body j e r)
    (good : c.GoodUnder a) (limit : Nat) :
    (Attester.approve ⟨c, Transport.direct.within limit⟩ body.session body.node body.deviceName
        body.restrictions).perform ((Scene.ofBeginning b).play before).world =
      (.ok (), ((Scene.ofBeginning b).play (before ++ [approval c body])).world) := by
  obtain ⟨d, l, asked, named, -, at_j, -, -, verdict⟩ := pairing.granted good
  have f := faithful_run b _ pairing.distinct.openings
  rw [← world_ofBeginning] at f
  have made := f.answer_decision asked at_j named
  rw [verdict] at made
  rw [Scene.play_snoc]
  exact (perform_atOnce _ limit _).trans (perform_approve made)

private theorem Pairing.queued_response (pairing : Pairing b a before c body j e r)
    (good : c.GoodUnder a) (distinct : Distinct b (before ++ approval c body :: after))
    {e' : EventStream}
    (stream : ((Scene.ofBeginning b).play (before ++ approval c body :: after)).streams[j]? =
      some e') (isOpen : e'.channel ≠ none) :
    e'.session = e.session ∧ e'.secret = e.secret ∧ e'.channel = some j ∧
      ∃ k ts, ((Scene.ofBeginning b).play
          (before ++ approval c body :: after)).world.system.channels[j]? = some k ∧
        k.queued.map e'.interpret = (List.map Event.info ts ++
          [Event.response ⟨e.session, .approved (issued b a before e body)⟩]).map .ok := by
  obtain ⟨d, l, asked, named, outcome, at_j, link, -, verdict⟩ := pairing.granted good
  have heard := heard_play pairing.distinct pairing.stream at_j
  obtain ⟨sent, l₁, at_j₁, serving⟩ :=
    serving_of_made pairing.distinct asked at_j link named verdict heard.taken
  have countable : Frame.Countable (responseFrame e d) := by
    rw [responseFrame, outcome]
    exact pairing.answered
  have meant := link.interpret_script countable
  rw [← sent] at meant
  have stream₁ : ((Scene.ofBeginning b).play (before ++ [approval c body])).streams[j]? =
      some e := by
    rw [Scene.play_snoc, streams_approval, pairing.stream]
  -- From then on the channel is followed to the end of the run, and the response comes last.
  rw [List.append_cons] at distinct stream ⊢
  obtain ⟨k, stream', session, secret, stays⟩ := stream_append distinct stream₁
  obtain rfl := Option.some.inj (stream'.symm.trans stream)
  obtain ⟨k', l', stream'', at_j', serving', meant', -⟩ := serving_play distinct stream₁ at_j₁
    serving meant (fun t y shown => isLast_script shown) (stays isOpen)
  obtain rfl := Option.some.inj (stream''.symm.trans stream)
  have channel := ((faithful_run b _ distinct.openings).follows at_j').channel
  rw [← world_ofBeginning] at channel
  obtain ⟨more, here, queued⟩ := serving'.queued meant' isOpen
  obtain ⟨ts, events⟩ := script_eq e d
  rw [outcome, ← issued] at events
  rw [events] at more queued
  exact ⟨session, secret, here, l'.channel, _, channel, queued.trans (congrArg _ (drop_script more))⟩

private theorem Pairing.response_eq (pairing : Pairing b a before c body j e r)
    (good : c.GoodUnder a)
    (distinct : Distinct b (before ++ approval c body :: after)) {e' : EventStream}
    (stream : ((Scene.ofBeginning b).play (before ++ approval c body :: after)).streams[j]? =
      some e') (isOpen : e'.channel ≠ none) :
    (e'.response ((Scene.ofBeginning b).play (before ++ approval c body :: after)).world).1 =
        .ok ⟨e.session, .approved (issued b a before e body)⟩ ∧
      e'.credentials ⟨e.session, .approved (issued b a before e body)⟩ =
        .ok (gained b a before e body) := by
  obtain ⟨session, secret, here, k, ts, channel, queued⟩ :=
    pairing.queued_response good distinct stream isOpen
  refine ⟨EventStream.response_of_queued here channel queued, ?_⟩
  have made := (Credentials.ofIssued_eq_ok e.secret (issued b a before e body) _).mpr
    ⟨(goodUnder_gained b a before e body).signed, rfl, rfl⟩
  rw [EventStream.credentials, if_neg (not_not.mpr session.symm), secret]
  exact Results.mapError_eq_ok.mpr made

end

/-- Devices whose credentials come from the authority `a` by any number of pairings, one after the
other. -/
inductive Enrolled (b : Beginning) (a : NodeAuthority) : List Move → Credentials → Prop where
  | first {ms : List Move} {c : Credentials} (good : c.GoodUnder a) : Enrolled b a ms c
  /-- A device that was enrolled before approved the session of the device, which got the response
  and its credentials some time after. -/
  | next {before after later : List Move} {c c' : Credentials} {body : ApprovalBody} {j : Nat}
      {e e' : EventStream} {r : PairRequest} {p : PairResponse} (attester : Enrolled b a before c)
      (pairing : Pairing b a before c body j e r)
      (distinct : Distinct b (before ++ approval c body :: after))
      (stream : ((Scene.ofBeginning b).play (before ++ approval c body :: after)).streams[j]? =
        some e')
      (told : (e'.response ((Scene.ofBeginning b).play (before ++ approval c body :: after)).world).1 =
        .ok p)
      (got : e'.credentials p = .ok c') : Enrolled b a (before ++ approval c body :: after ++ later) c'

private theorem Enrolled.goodUnder {b : Beginning} {a : NodeAuthority} {ms : List Move}
    {c : Credentials} (h : Enrolled b a ms c) : c.GoodUnder a := by
  induction h with
  | first good => exact good
  | @next before after later c c' body j e e' r p attester pairing distinct stream told got good =>
    have isOpen : e'.channel ≠ none := by
      intro closed
      rw [EventStream.response_of_closed closed] at told
      cases told
    obtain ⟨response, credentials⟩ := pairing.response_eq good distinct stream isOpen
    obtain rfl := Except.ok.inj (response.symm.trans told)
    obtain rfl := Except.ok.inj (credentials.symm.trans got)
    exact goodUnder_gained ..

/-- The credentials are what was asked for, and the authority certified the key. -/
structure CertifiedAs (c : Credentials) (a : NodeAuthority) (key : Key) (body : ApprovalBody) :
    Prop where
  node : c.certificate.node = body.node
  deviceName : c.certificate.deviceName = body.deviceName
  restrictions : c.certificate.restrictions = body.restrictions
  deviceKey : c.certificate.deviceKey = key
  verified : c.certificate.verify c.authorityKey = .ok ()
  authorityKey : c.authorityKey = a.publicKey

/-- A pairing comes to a good end, and the new device can do what the other one could. -/
structure Completes (b : Beginning) (a : NodeAuthority) (before : List Move) (c : Credentials)
    (body : ApprovalBody) (j : Nat) (e : EventStream) (r : PairRequest) : Prop where
  /-- The approval succeeds, however little the one who approves wants to wait. -/
  approved : ∀ limit,
    (Attester.approve ⟨c, Transport.direct.within limit⟩ body.session body.node body.deviceName
        body.restrictions).perform ((Scene.ofBeginning b).play before).world =
      (.ok (), ((Scene.ofBeginning b).play (before ++ [approval c body])).world)
  /-- As long as the stream is open after that, its response is an approval, of which the new device
  gets its credentials. -/
  told : ∀ after e', Distinct b (before ++ approval c body :: after) →
    ((Scene.ofBeginning b).play (before ++ approval c body :: after)).streams[j]? = some e' →
    e'.channel ≠ none →
    ∃ p, (e'.response ((Scene.ofBeginning b).play (before ++ approval c body :: after)).world).1 =
        .ok p ∧ p.isApproved = true ∧ e'.credentials p = .ok (gained b a before e body)
  certified : CertifiedAs (gained b a before e body) a r.deviceKey body
  /-- Whatever the new device may ask passes the checks of a service with this authority. -/
  authorised : ∀ (s : Service) (x : Ask), s.authorities.get? a.node = some a →
    x.Allowed (gained b a before e body).certificate →
    Frame.Countable x.octets →
    s.check (x.sealed (gained b a before e body)) x.operation = .ok ()
  enrolled : ∀ after later e', Distinct b (before ++ approval c body :: after) →
    ((Scene.ofBeginning b).play (before ++ approval c body :: after)).streams[j]? = some e' →
    e'.channel ≠ none →
    Enrolled b a (before ++ approval c body :: after ++ later) (gained b a before e body)

/-- Every pairing comes to a good end that is approved in time by the device at the end of a chain,
however long the chain is. -/
theorem pairing_completes {b : Beginning} {a : NodeAuthority} {before : List Move} {c : Credentials}
    {body : ApprovalBody} {j : Nat} {e : EventStream} {r : PairRequest}
    (enrolled : Enrolled b a before c) (pairing : Pairing b a before c body j e r) :
    Completes b a before c body j e r where
  approved := pairing.approve_eq enrolled.goodUnder
  told := fun after e' distinct stream isOpen =>
    have ⟨response, credentials⟩ := pairing.response_eq enrolled.goodUnder distinct stream isOpen
    ⟨_, response, rfl, credentials⟩
  certified := by
    obtain ⟨d, l, -, -, -, -, link, request, -⟩ := pairing.granted enrolled.goodUnder
    exact
      { node := enrolled.goodUnder.node.symm.trans pairing.granting.1.symm
        deviceName := rfl
        restrictions := rfl
        deviceKey := link.key.trans (congrArg PairRequest.deviceKey request)
        verified := (Certificate.verify_eq_ok _ _ ()).mpr (goodUnder_gained b a before e body).signed
        authorityKey := rfl }
  authorised := fun s x known allowed fits =>
    check_sealed (goodUnder_gained b a before e body) known allowed fits
  enrolled := fun after later e' distinct stream isOpen =>
    have ⟨response, credentials⟩ := pairing.response_eq enrolled.goodUnder distinct stream isOpen
    .next enrolled pairing distinct stream response credentials

namespace Sample

open DevicePairing.Session.Sample (authority beginning grant kiosk laterSession)

def request : PairRequest := nextRequest config ⟨"lamp", "a lamp", ""⟩ beginning.world

def lamp : EventStream :=
  streamOf config (nextSecret beginning.world) 0 ⟨laterSession, .v1, none⟩ 0

private theorem history_opened : (Scene.ofBeginning beginning).history opened =
    [.service (.register authority), .drawKey, .openSession request] := rfl

private theorem stream_lamp :
    ((Scene.ofBeginning beginning).play opened).streams[0]? = some lamp := by
  have parts : (((Scene.ofBeginning beginning).play opened).streams[0]?.map fun e =>
      ((e.session, e.version, e.exchangePayload), e.secret, e.channel, e.deadline)) =
        some ((lamp.session, lamp.version, lamp.exchangePayload), lamp.secret, lamp.channel,
          lamp.deadline) := by
    decide +kernel
  obtain ⟨⟨session, version, exchangePayload, secret, channel, deadline⟩, stream, same⟩ :=
    Option.map_eq_some_iff.mp parts
  simp only [Prod.mk.injEq] at same
  obtain ⟨⟨rfl, rfl, rfl⟩, rfl, rfl, rfl⟩ := same
  exact stream

private theorem registered_opened :
    ((Scene.ofBeginning beginning).play opened).world.system.authorities.get? [7] =
      some authority := by
  rw [world_ofBeginning, authority_run, history_opened]
  rfl

private theorem inTime_lamp :
    InTime beginning ((Scene.ofBeginning beginning).history opened) lamp.session request 0 [] := by
  rw [history_opened]
  refine ⟨0, ⟨[.service (.register authority), .drawKey], .openSession request,
    ⟨laterSession, .v1, none⟩, rfl, ?_, rfl, ?_⟩, ?_⟩
  · decide +kernel
  · decide +kernel
  · decide +kernel

private theorem undecided_lamp :
    ¬ DecidedIn beginning ((Scene.ofBeginning beginning).history opened) lamp.session := by
  rw [history_opened]
  rintro ⟨d, ⟨before, h, later, split, asked, -⟩, -⟩
  have member : Action.service h ∈ [.service (.register authority), .drawKey,
      .openSession request] := split ▸ List.mem_append_right _ List.mem_cons_self
  simp only [List.mem_cons, Action.service.injEq, reduceCtorEq, List.not_mem_nil,
    or_false] at member
  subst member
  cases asked

private theorem kiosk_goodUnder : kiosk.GoodUnder authority := Credentials.goodUnder_enroll ..

private theorem pairing_lamp : Pairing beginning authority opened kiosk grant 0 lamp request where
  distinct := by decide +kernel
  registered := registered_opened
  stream := stream_lamp
  isOpen := Option.some_ne_none 0
  named := rfl
  inTime := ⟨0, [], inTime_lamp⟩
  undecided := undecided_lamp
  granting := ⟨rfl, .inr (by decide)⟩
  asked := by
    unfold Frame.Countable
    decide +kernel
  answered := by
    unfold Frame.Countable
    decide +kernel

end Sample

/-- A device with restrictions approves the session of another one, which can approve sessions
then. -/
theorem pairing_completes_of_lamp :
    Completes Session.Sample.beginning Session.Sample.authority Sample.opened Session.Sample.kiosk
        Session.Sample.grant 0 Sample.lamp Sample.request ∧
      Enrolled Session.Sample.beginning Session.Sample.authority
        (Sample.opened ++ [approval Session.Sample.kiosk Session.Sample.grant])
        (gained Session.Sample.beginning Session.Sample.authority Sample.opened Sample.lamp
          Session.Sample.grant) := by
  have completes := pairing_completes (.first Sample.kiosk_goodUnder) Sample.pairing_lamp
  refine ⟨completes, completes.enrolled [] [] Sample.lamp (by decide +kernel) ?_
    Sample.pairing_lamp.isOpen⟩
  rw [Scene.play_snoc, streams_approval, Sample.pairing_lamp.stream]

end DevicePairing.Client
