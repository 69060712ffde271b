import DevicePairing.Proofs.Client.Course
import DevicePairing.Proofs.Session.ChannelHistory
import DevicePairing.Proofs.Session.Rights

set_option autoImplicit false
set_option relaxedAutoImplicit false

/-!
Those who decide a session and its new device agree. When a decision was made, the owner of the
stream sees it by polling, however late that is. When the stream has ended with an error, no
decision is made any more.
-/

namespace DevicePairing.Client

open DevicePairing
open DevicePairing.Clock
open DevicePairing.Session

def Scene.told (s : Scene) (j : Nat) (ms : List Move) : List (Except PairingError Event) :=
  (s.sights j ms).filterMap Sight.event?

private theorem Scene.told_snoc (s : Scene) (j : Nat) (ms : List Move) (m : Move) :
    s.told j (ms ++ [m]) =
      s.told j ms ++ (((s.play ms).sight? j m).bind Sight.event?).toList := by
  rw [told, sights_snoc, List.filterMap_append, ← told]
  cases (s.play ms).sight? j m with
  | none => rfl
  | some x =>
    simp only [Option.toList_some, List.filterMap_cons, List.filterMap_nil, Option.bind_some]
    cases x.event? <;> rfl

@[simp] theorem EventStream.interpret_after (e : EventStream) (x : Sight) :
    (e.after x).interpret = e.interpret := by
  funext item
  simp only [interpret, accept, session_after, version_after]

private theorem Course.interpret {j now : Nat} {e e' : EventStream} {l l' : Life} {m : Move}
    {x : Option Sight} (c : Course j now e l m x e' l') : e'.interpret = e.interpret := by
  cases c with
  | shown isOpen sight => exact EventStream.interpret_after e _
  | _ => rfl

/-- As long as a stream is open, its owner was told what was received from the channel, and these
were texts only. -/
structure Heard (e : EventStream) (l : Life) (xs : List (Except PairingError Event)) : Prop where
  taken : l.channel.taken ≤ l.channel.sent.length
  told : l.channel.receiving = true →
    xs = (l.channel.sent.take l.channel.taken).map e.interpret
  texts : l.channel.receiving = true → ∀ x ∈ xs, ∃ text, x = .ok (.info text)

private theorem Sight.isLast_event {x : Except PairingError Event} :
    isLast (.event x) = false ↔ ∃ text, x = .ok (.info text) := by
  rcases x with cause | (text | r) <;> simp [isLast]

private theorem Heard.course {j now : Nat} {e e' : EventStream} {l l' : Life} {m : Move}
    {x : Option Sight} {xs : List (Except PairingError Event)} (h : Heard e l xs)
    (link : Linked j e l) (c : Course j now e l m x e' l') :
    Heard e' l' (xs ++ (x.bind Sight.event?).toList) := by
  cases c with
  | apart noPoll noClose undisturbed =>
    obtain ⟨more, sent⟩ := undisturbed.sent
    rw [Option.bind_none, Option.toList_none, List.append_nil]
    refine ⟨?_, ?_, ?_⟩
    · rw [undisturbed.taken, ← sent, List.length_append]
      exact Nat.le_add_right_of_le h.taken
    · rw [undisturbed.receiving, undisturbed.taken, ← sent,
        List.take_append_of_le_length h.taken]
      exact h.told
    · rw [undisturbed.receiving]
      exact h.texts
  | ended closed =>
    simp only [Option.bind_some, Sight.event?, Option.toList_none, List.append_nil]
    exact h
  | @shown isOpen x sight =>
    obtain ⟨-, receiving⟩ := link.number isOpen
    have told := h.told receiving
    have texts := h.texts receiving
    rw [Option.bind_some]
    rcases l.channel.receive_cases with ⟨y, next, received⟩ | received | received
    · have inside := (List.getElem?_eq_some_iff.mp next).1
      simp only [received, EventStream.shows] at sight ⊢
      subst sight
      cases last : Sight.isLast (.event (e.interpret y)) with
      | true => exact ⟨inside, fun gone => Bool.noConfusion gone, fun gone => Bool.noConfusion gone⟩
      | false =>
        refine ⟨inside, fun _ => ?_, fun _ => ?_⟩
        · simp only [Bool.false_eq_true, if_false, Sight.event?, Option.toList_some,
            EventStream.interpret_after, List.take_add_one, next, List.map_append, told]
          rfl
        · intro x member
          rcases List.mem_append.mp member with old | new
          · exact texts x old
          · simp only [Sight.event?, Option.toList_some, List.mem_singleton] at new
            exact new ▸ Sight.isLast_event.mp last
    · simp only [received, EventStream.shows] at sight ⊢
      subst sight
      exact ⟨h.taken, fun gone => Bool.noConfusion gone, fun gone => Bool.noConfusion gone⟩
    · simp only [received, EventStream.shows] at sight ⊢
      split at sight
      · subst sight
        exact ⟨h.taken, fun gone => Bool.noConfusion gone, fun gone => Bool.noConfusion gone⟩
      · subst sight
        simp only [Sight.event?, Option.toList_none, List.append_nil]
        exact h
  | left =>
    rw [Option.bind_none, Option.toList_none, List.append_nil]
    exact ⟨h.taken, fun gone => Bool.noConfusion gone, fun gone => Bool.noConfusion gone⟩

section

variable {b : Beginning} {ms : List Move} {j : Nat} {e : EventStream} {l : Life}

theorem heard_play (distinct : Distinct b ms)
    (stream : ((Scene.ofBeginning b).play ms).streams[j]? = some e)
    (at_j : (lives b ((Scene.ofBeginning b).history ms))[j]? = some l) :
    Heard e l ((Scene.ofBeginning b).told j ms) := by
  induction ms using List.reverseRecOn generalizing e l with
  | nil => cases stream
  | append_singleton ms m ih =>
    have distinct' := distinct.of_append
    by_cases old : j < ((Scene.ofBeginning b).play ms).streams.length
    · have stream₀ := List.getElem?_eq_getElem old
      obtain ⟨l₀, at_j₀, link⟩ := linked_play distinct' j _ stream₀
      obtain ⟨e', l', stream', at_j', course⟩ := course distinct' stream₀ at_j₀ m
      rw [stream] at stream'
      rw [at_j] at at_j'
      obtain rfl := Option.some.inj stream'
      obtain rfl := Option.some.inj at_j'
      rw [Scene.told_snoc]
      exact (ih distinct' stream₀ at_j₀).course link course
    · obtain ⟨l', at_j', -, untouched⟩ := linked_of_new distinct stream old
      rw [at_j] at at_j'
      obtain rfl := Option.some.inj at_j'
      have silent : (Scene.ofBeginning b).told j (ms ++ [m]) = [] := by
        rw [Scene.told_snoc, Scene.told, Scene.sights_of_absent (Nat.not_lt.mp old),
          Scene.sight?_of_absent (Nat.not_lt.mp old)]
        rfl
      rw [silent]
      refine ⟨?_, fun _ => ?_, fun _ x member => ?_⟩
      · rw [untouched]
        exact Nat.zero_le _
      · rw [untouched]
        rfl
      · cases member

end

def texts (version : ProtocolVersion) (session : String) : List Event :=
  match version with
  | .v1 => [.info (Exchange.payload session)]
  | .v2 => []

/-- All that the owner of a stream is to see of the session when a decision is made. -/
def script (e : EventStream) (d : Decision) : List Event :=
  texts e.version e.session ++ [.response ⟨e.session, d.outcome e.secret.publicKey⟩]

/-- The frame that tells a decision to the owner of a stream. -/
def responseFrame (e : EventStream) (d : Decision) : Bytes :=
  Frame.encode (.response ⟨e.session, d.outcome e.secret.publicKey⟩)

/-- The items that a decided session sends mean the script. -/
theorem Linked.interpret_script {j : Nat} {e : EventStream} {l : Life} (link : Linked j e l)
    {d : Decision} (fits : Frame.Countable (responseFrame e d)) :
    (Life.prelude l.request.version l.session ++ [l.lastFrame d]).map e.interpret =
      (script e d).map .ok := by
  have response : e.interpret (l.lastFrame d) =
      .ok (.response ⟨e.session, d.outcome e.secret.publicKey⟩) := by
    rw [Life.lastFrame, ← link.session, ← link.key]
    simp only [EventStream.interpret]
    rw [Frame.decode_response e.version fits]
    exact if_pos rfl
  have texts : (Life.prelude l.request.version l.session).map e.interpret =
      (texts e.version e.session).map .ok := by
    rw [← link.version, ← link.session]
    cases version : e.version with
    | v1 =>
      simp only [Life.prelude, texts, List.map_cons, List.map_nil, EventStream.interpret, version,
        Frame.decode_info, EventStream.accept]
    | v2 => rfl
  rw [List.map_append, texts, script, List.map_append, List.map_singleton, response]
  rfl

theorem isLast_script {e : EventStream} {d : Decision} {t : Nat} {y : Event}
    (shown : (script e d)[t]? = some y) :
    Sight.isLast (.event (.ok y)) ↔ t + 1 = (script e d).length := by
  unfold script at shown ⊢
  generalize e.version = version at shown ⊢
  cases version with
  | v1 =>
    match t with
    | 0 =>
      obtain rfl := Option.some.inj shown
      simp [Sight.isLast, texts]
    | 1 =>
      obtain rfl := Option.some.inj shown
      simp [Sight.isLast, texts]
    | t + 2 => cases shown
  | v2 =>
    match t with
    | 0 =>
      obtain rfl := Option.some.inj shown
      simp [Sight.isLast, texts]
    | t + 1 => cases shown

/-- The sight with a number when some events are shown one after the other. -/
def sightOf (events : List Event) (t : Nat) : Sight :=
  match events[t]? with
  | some x => .event (.ok x)
  | none => .ended

def Move.polls (j : Nat) : Move → Bool
  | .poll k => k = j
  | _ => false

/-- A stream shows some items, `n` of which were shown, and it is closed when all were. -/
structure Serving (items : List StreamItem) (j n : Nat) (e : EventStream) (l : Life) : Prop where
  ended : l.state.isFinal = true
  sent : l.channel.sent = items
  taken : n < items.length → l.channel.taken = n
  channel : e.channel = if n < items.length then some j else none

section

variable {events : List Event} {items : List StreamItem} {j n : Nat} {e : EventStream} {l : Life}

private theorem Serving.next_of_closed (h : Serving items j n e l) (closed : e.channel = none) :
    Serving items j (n + 1) e l ∧ items.length ≤ n := by
  have all : items.length ≤ n := by
    by_contra more
    have channel := h.channel
    rw [if_pos (Nat.lt_of_not_le more), closed] at channel
    cases channel
  refine ⟨⟨h.ended, h.sent, fun more => ?_, ?_⟩, all⟩
  · omega
  · rw [closed, if_neg (by omega)]

private theorem Serving.next_of_open (h : Serving items j n e l)
    (meant : items.map e.interpret = events.map .ok)
    (last : ∀ t y, events[t]? = some y → (Sight.isLast (.event (.ok y)) ↔ t + 1 = events.length))
    (isOpen : e.channel = some j) (now : Nat) :
    ∃ y, events[n]? = some y ∧ e.shows now l.channel.receive.1 = .event (.ok y) ∧
      Serving items j (n + 1) (e.after (.event (.ok y)))
        { l with
          channel := if (Sight.event (.ok y)).isLast then l.channel.receive.2.dropReceiver
            else l.channel.receive.2 } := by
  have length : items.length = events.length := by
    simpa only [List.length_map] using congrArg List.length meant
  have more : n < items.length := by
    by_contra all
    have channel := h.channel
    rw [if_neg all, isOpen] at channel
    cases channel
  have taken := h.taken more
  have item : items[n]? = some items[n] := List.getElem?_eq_getElem more
  have event : events[n]? = some events[n] := List.getElem?_eq_getElem (length ▸ more)
  have means : e.interpret items[n] = .ok events[n] := by
    have both := congrArg (fun xs => xs[n]?) meant
    simpa only [List.getElem?_map, item, event, Option.map_some, Option.some.injEq] using both
  have received := Channel.receive_of_next (c := l.channel) (y := items[n]) (by
    rw [h.sent, taken, item])
  have final := last n events[n] event
  refine ⟨events[n], event, ?_, h.ended, ?_, fun _ => ?_, ?_⟩
  · rw [received, EventStream.shows, means]
  · rw [received]
    split <;> exact h.sent
  · rw [received]
    split <;> exact congrArg (· + 1) taken
  · rw [EventStream.channel_after, isOpen]
    by_cases complete : n + 1 = events.length
    · rw [if_pos (final.mpr complete), if_neg (by omega)]
    · rw [if_neg fun ends => complete (final.mp ends), if_pos (by omega)]

private theorem Serving.course {now : Nat} {e' : EventStream} {l' : Life} {m : Move}
    {x : Option Sight} (h : Serving items j n e l) (meant : items.map e.interpret = events.map .ok)
    (last : ∀ t y, events[t]? = some y → (Sight.isLast (.event (.ok y)) ↔ t + 1 = events.length))
    (c : Course j now e l m x e' l') (stays : m ≠ .close j) :
    Serving items j (n + if m.polls j then 1 else 0) e' l' ∧
      x = if m.polls j then some (sightOf events n) else none := by
  have polled : (Move.poll j).polls j = true := by simp [Move.polls]
  cases c with
  | apart noPoll noClose undisturbed =>
    have apart : m.polls j = false := by
      cases m with
      | poll k => simpa [Move.polls] using noPoll
      | _ => rfl
    obtain ⟨state, sent⟩ := undisturbed.ended h.ended
    rw [apart]
    exact ⟨⟨state ▸ h.ended, sent.trans h.sent, fun more => undisturbed.taken.trans (h.taken more),
      h.channel⟩, rfl⟩
  | ended closed =>
    obtain ⟨next, all⟩ := h.next_of_closed closed
    have length := congrArg List.length meant
    rw [List.length_map, List.length_map] at length
    have none : events[n]? = none := List.getElem?_eq_none (length ▸ all)
    rw [polled, sightOf, none]
    exact ⟨next, rfl⟩
  | @shown isOpen x sight =>
    obtain ⟨y, event, shows, next⟩ := h.next_of_open meant last isOpen now
    obtain rfl : x = .event (.ok y) := sight.trans shows
    rw [polled, sightOf, event]
    exact ⟨next, rfl⟩
  | left => exact absurd rfl stays

end

section

variable {b : Beginning} {before : List Move} {j : Nat} {e : EventStream} {l : Life}

theorem serving_play {events : List Event} {items : List StreamItem} {n : Nat} {after : List Move}
    (distinct : Distinct b (before ++ after))
    (stream : ((Scene.ofBeginning b).play before).streams[j]? = some e)
    (at_j : (lives b ((Scene.ofBeginning b).history before))[j]? = some l)
    (serving : Serving items j n e l) (meant : items.map e.interpret = events.map .ok)
    (last : ∀ t y, events[t]? = some y → (Sight.isLast (.event (.ok y)) ↔ t + 1 = events.length))
    (stays : .close j ∉ after) :
    ∃ e' l', ((Scene.ofBeginning b).play (before ++ after)).streams[j]? = some e' ∧
      (lives b ((Scene.ofBeginning b).history (before ++ after)))[j]? = some l' ∧
      Serving items j (n + after.countP (Move.polls j)) e' l' ∧
      items.map e'.interpret = events.map .ok ∧
      ((Scene.ofBeginning b).play before).sights j after =
        (List.range (after.countP (Move.polls j))).map fun t => sightOf events (n + t) := by
  induction after using List.reverseRecOn with
  | nil => exact ⟨e, l, by rwa [List.append_nil], by rwa [List.append_nil], serving, meant, rfl⟩
  | append_singleton after m ih =>
    simp only [List.mem_append, List.mem_singleton, not_or] at stays
    rw [← List.append_assoc] at distinct ⊢
    obtain ⟨e', l', stream', at_j', serving', meant', seen⟩ := ih distinct.of_append stays.1
    obtain ⟨e'', l'', stream'', at_j'', moved⟩ := course distinct.of_append stream' at_j' m
    obtain ⟨served, sight⟩ := serving'.course meant' last moved (Ne.symm stays.2)
    refine ⟨e'', l'', stream'', at_j'', ?_, ?_, ?_⟩
    · rwa [List.countP_append, List.countP_singleton, ← Nat.add_assoc]
    · rw [moved.interpret, meant']
    · have here : ((Scene.ofBeginning b).play before).play after =
          (Scene.ofBeginning b).play (before ++ after) := (Scene.play_append _ _ _).symm
      rw [Scene.sights_snoc, seen, here, sight, List.countP_append, List.countP_singleton]
      cases m.polls j with
      | true =>
        simp only [if_true, Option.toList_some, List.range_succ, List.map_append, List.map_cons,
          List.map_nil]
      | false =>
        simp only [Bool.false_eq_true, if_false, Option.toList_none, List.append_nil, Nat.add_zero]

end

/-- Those who decide the sessions of a run agree with the new devices. -/
structure Agreement (b : Beginning) (ms : List Move) : Prop where
  /-- When a decision is made, there is a stream of the session, and its owner has seen some texts of
  the script at most. As long as the owner does not close it, every further poll shows what is left
  of the script, the last of which is the response with this decision, and then the end. -/
  decided : ∀ before h after, ms = before ++ .service h :: after →
    (h.perform ((Scene.ofBeginning b).play before).world).1 = .decided (.ok ()) →
    ∃ d j e, h.decision? ((Scene.ofBeginning b).play before).world = some d ∧
      ((Scene.ofBeginning b).play before).streams[j]? = some e ∧ e.session = d.session ∧
      (Frame.Countable (responseFrame e d) → .close j ∉ after →
        ∃ k < (script e d).length,
          (Scene.ofBeginning b).told j before = ((script e d).take k).map .ok ∧
          ((Scene.ofBeginning b).play (before ++ [.service h])).sights j after =
            (List.range (after.countP (Move.polls j))).map fun t => sightOf (script e d) (k + t))
  /-- When the owner of a stream has seen an error, no decision on its session is made. -/
  refused : ∀ before h after, ms = before ++ .service h :: after →
    ∀ j e cause d, .event (.error cause) ∈ (Scene.ofBeginning b).sights j before →
      ((Scene.ofBeginning b).play before).streams[j]? = some e →
      h.decision? ((Scene.ofBeginning b).play before).world = some d → d.session = e.session →
      (h.perform ((Scene.ofBeginning b).play before).world).1 ≠ .decided (.ok ())

section

variable {b : Beginning} {before : List Move} {h : Happening}

private theorem open_of_made (distinct : Distinct b before) {d : Decision}
    (asked : h.decision? ((Scene.ofBeginning b).play before).world = some d)
    (answered : (h.perform ((Scene.ofBeginning b).play before).world).1 = .decided (.ok ())) :
    ∃ j e l, ((Scene.ofBeginning b).play before).streams[j]? = some e ∧
      (lives b ((Scene.ofBeginning b).history before))[j]? = some l ∧ Linked j e l ∧
      d.session = l.session ∧ l.verdict = .ok () := by
  have f := faithful_run b _ distinct.openings
  rw [world_ofBeginning] at asked answered
  by_cases known : d.session ∈ (lives b ((Scene.ofBeginning b).history before)).map Life.session
  · obtain ⟨l, member, named⟩ := List.mem_map.mp known
    obtain ⟨j, at_j⟩ := List.mem_iff_getElem?.mp member
    rw [f.answer_decision asked at_j named.symm] at answered
    have inside := (List.getElem?_eq_some_iff.mp at_j).1
    rw [← length_streams] at inside
    have stream := List.getElem?_eq_getElem inside
    obtain ⟨l', at_j', link⟩ := linked_play distinct j _ stream
    rw [at_j] at at_j'
    obtain rfl := Option.some.inj at_j'
    exact ⟨j, _, l, stream, at_j, link, named.symm, Answer.decided.inj answered⟩
  · rw [f.answer_absent asked known] at answered
    cases answered

theorem serving_of_made (distinct : Distinct b before) {d : Decision}
    (asked : h.decision? ((Scene.ofBeginning b).play before).world = some d) {j : Nat}
    {e : EventStream} {l : Life}
    (at_j : (lives b ((Scene.ofBeginning b).history before))[j]? = some l) (link : Linked j e l)
    (named : d.session = l.session) (granted : l.verdict = .ok ())
    (taken : l.channel.taken ≤ l.channel.sent.length) :
    l.channel.sent = Life.prelude l.request.version l.session ∧
      ∃ l', (lives b ((Scene.ofBeginning b).history (before ++ [.service h])))[j]? = some l' ∧
        Serving (l.channel.sent ++ [l.lastFrame d]) j l.channel.taken e l' := by
  obtain ⟨-, waiting, receiving⟩ := Life.verdict_eq_ok.mp granted
  refine ⟨(recorded_lives distinct.openings at_j).sent_of_waiting waiting, ?_⟩
  rw [world_ofBeginning] at asked
  have made := lives_snoc_of_getElem? at_j (.service h)
  rw [Life.after, Action.stimulus?_of_decision asked, if_pos named] at made
  simp only [Life.feel, Life.decide_of_verdict granted] at made
  rw [Scene.history_snoc]
  refine ⟨_, made, rfl, rfl, fun _ => rfl, ?_⟩
  rw [link.channel, receiving, if_pos rfl, if_pos]
  rw [List.length_append, List.length_singleton]
  exact Nat.lt_succ_of_le taken

end

/-- As long as no name is drawn twice, the new devices and those who decide their sessions agree. -/
theorem no_split_brain {b : Beginning} {ms : List Move} (distinct : Distinct b ms) :
    Agreement b ms where
  decided := by
    rintro before h after rfl answered
    have distinct' := distinct.of_append
    obtain ⟨d, asked⟩ := Happening.decision?_of_made answered
    obtain ⟨j, e, l, stream, at_j, link, named, granted⟩ := open_of_made distinct' asked answered
    refine ⟨d, j, e, asked, stream, link.session.trans named.symm, fun fits stays => ?_⟩
    have heard := heard_play distinct' stream at_j
    have told := heard.told (Life.verdict_eq_ok.mp granted).2.2
    obtain ⟨sent, l', at_j', serving⟩ :=
      serving_of_made distinct' asked at_j link named granted heard.taken
    have meant := link.interpret_script fits
    rw [← sent] at meant
    have length := congrArg List.length meant
    simp only [List.length_map, List.length_append, List.length_singleton] at length
    have taken := heard.taken
    rw [List.append_cons] at distinct
    have stream' : ((Scene.ofBeginning b).play (before ++ [.service h])).streams[j]? = some e := by
      rwa [Scene.play_snoc]
    obtain ⟨-, -, -, -, -, -, seen⟩ := serving_play distinct stream' at_j' serving meant
      (fun t y shown => isLast_script shown) stays
    refine ⟨l.channel.taken, by omega, ?_, seen⟩
    rw [told, List.map_take, List.map_take, ← meant, List.map_append,
      List.take_append_of_le_length (by rwa [List.length_map])]
  refused := by
    rintro before h after rfl j e cause d seen stream asked named answered
    have distinct' := distinct.of_append
    obtain ⟨i, e', l, stream', at_i, link, named', granted⟩ := open_of_made distinct' asked answered
    obtain ⟨k, at_j, link'⟩ := linked_play distinct' j e stream
    have same : k.session = l.session := by rw [← link'.session, ← named, named']
    obtain rfl := (faithful_run b _ distinct'.openings).eq_of_session at_j at_i same
    rw [at_i] at at_j
    obtain rfl := Option.some.inj at_j
    have receiving := (Life.verdict_eq_ok.mp granted).2.2
    have told : .error cause ∈ (Scene.ofBeginning b).told j before :=
      List.mem_filterMap.mpr ⟨_, seen, rfl⟩
    obtain ⟨text, impossible⟩ := (heard_play distinct' stream at_i).texts receiving _ told
    cases impossible

namespace Sample

def attester : Credentials := Credentials.enroll Session.Sample.authority 0 ⟨Key.ofNat 2⟩ "hub" ""

/-- The settings of a new device that speaks the first version. -/
def config : ClientConfig := (ClientConfig.ofTls ⟨"", "", "", [], [], []⟩).withVersion .v1

def rejection : SignedRequest :=
  SignedRequest.sealBody RejectionBody.codec attester .rejectPairing
    ⟨"cabfb4a9-9e93-487d-b267-5c51463b3025", "unknown lamp"⟩

/-- A new device opens a session of a node that has an authority. -/
def opened : List Move :=
  [.service (.register Session.Sample.authority), .pair config ⟨"lamp", "a lamp", ""⟩]

/-- The session is rejected before the owner of the stream polls it for the first time. -/
def rejected : List Move := opened ++ [.service (.reject rejection), .poll 0, .poll 0, .poll 0]

end Sample

/-- The agreement on a session that is rejected. -/
theorem no_split_brain_of_rejected :
    Agreement Session.Sample.beginning Sample.rejected ∧
      ((Happening.reject Sample.rejection).perform
        ((Scene.ofBeginning Session.Sample.beginning).play Sample.opened).world).1.isGranted = true :=
  ⟨no_split_brain (by decide +kernel), by decide +kernel⟩

end DevicePairing.Client
