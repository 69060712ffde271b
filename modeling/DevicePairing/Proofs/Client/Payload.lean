import DevicePairing.Proofs.Client.Agreement
import DevicePairing.Proofs.Client.Grammar
import DevicePairing.Proofs.Exchange
import DevicePairing.Proofs.Session.Representation
import DevicePairing.Proofs.Session.Viewed

set_option autoImplicit false
set_option relaxedAutoImplicit false

/-!
The exchange payload on its ways. The new device gets it with the opening of the session or as the
first text of the channel, by the version, and the attesting device gets it with the pairing data.
It is the same text on every way, and it names the session. No name has to be drawn only once for
this.
-/

namespace DevicePairing.Client

open DevicePairing
open DevicePairing.Clock
open DevicePairing.Session
open DevicePairing.Text.Blank (AllBlank isBlank trim)

/-- The item brings no text under any version. -/
def Silent (x : StreamItem) : Prop := ∀ version, textOf? version x = none

private theorem textOf?_info (text : String) :
    textOf? .v1 (.ok (Frame.encode (.info text))) = some text := by
  rw [textOf?, Frame.decode_info]

private theorem silent_response (r : PairResponse) : Silent (.ok (Frame.encode (.response r))) := by
  intro version
  rw [textOf?]
  split
  · -- the octets of a response do not begin like those of a text
    rename_i text decoded
    generalize written : Frame.encode (.response r) = octets at decoded
    cases Frame.reading_of_eq decoded with
    | info text known => exact absurd (List.cons.inj written).1 (by decide)
  · rfl

private theorem silent_of_sends {w : World} {a : Action} {x : StreamItem} (sends : a.Sends w x) :
    Silent x := by
  rcases sends with rfl | ⟨_, d, e, -, -, -, rfl⟩
  · exact fun version => rfl
  · exact silent_response _

def Outlasts (items items' : List StreamItem) : Prop :=
  ∃ more, items' = items ++ more ∧ ∀ x ∈ more, Silent x

private theorem Outlasts.refl (items : List StreamItem) : Outlasts items items :=
  ⟨[], (List.append_nil items).symm, nofun⟩

private theorem Outlasts.trans {items items' items'' : List StreamItem} (h : Outlasts items items')
    (h' : Outlasts items' items'') : Outlasts items items'' := by
  obtain ⟨more, rfl, silent⟩ := h
  obtain ⟨more', rfl, silent'⟩ := h'
  exact ⟨more ++ more', List.append_assoc _ _ _, List.forall_mem_append.mpr ⟨silent, silent'⟩⟩

private theorem channel_perform {w : World} (a : Action) {i : Nat} {c : Channel}
    (at_i : w.system.channels[i]? = some c) :
    ∃ c', (a.perform w).2.system.channels[i]? = some c' ∧ Outlasts c.sent c'.sent ∧
      (a ≠ .receive i → c'.taken = c.taken) := by
  obtain ⟨c', at_i', evolves | ⟨rfl, rfl⟩ | ⟨-, rfl⟩⟩ := a.channel_cases at_i
  · obtain ⟨more, sent, sends, -⟩ := evolves.sent
    exact ⟨c', at_i', ⟨more, sent, fun x member => silent_of_sends (sends x member)⟩,
      fun _ => evolves.taken⟩
  · exact ⟨_, at_i', c.sent_receive ▸ .refl _, fun other => absurd rfl other⟩
  · exact ⟨_, at_i', .refl _, fun _ => rfl⟩

private theorem channel_outlasts {w : World} (as : List Action) {i : Nat} {c : Channel}
    (at_i : w.system.channels[i]? = some c) :
    ∃ c', (run w as).system.channels[i]? = some c' ∧ Outlasts c.sent c'.sent ∧
      (.receive i ∉ as → c'.taken = c.taken) := by
  induction as generalizing w c with
  | nil => exact ⟨c, at_i, .refl _, fun _ => rfl⟩
  | cons a as ih =>
    obtain ⟨c', at_i', sent, taken⟩ := channel_perform a at_i
    obtain ⟨c'', at_i'', sent', taken'⟩ := ih at_i'
    refine ⟨c'', at_i'', sent.trans sent', fun other => ?_⟩
    obtain ⟨first, later⟩ := not_or.mp (mt List.mem_cons.mpr other)
    exact (taken' later).trans (taken (Ne.symm first))

/-- What comes of opening a session. -/
structure OpensWith (w : World) (a : Action) (r : PairRequest) (o : Opened) (i : Nat) : Prop where
  name : o.session = Service.nextName w.entropy
  version : o.version = r.version
  payload : o.exchangePayload = match r.version with
    | .v1 => none
    | .v2 => some (Exchange.payload o.session)
  channel : ∃ c, (a.perform w).2.system.channels[i]? = some c ∧
    c.sent = Life.prelude r.version o.session ∧ c.taken = 0
  number : i = w.system.channels.length

private theorem opensWith {w : World} {a : Action} {r : PairRequest} {o : Opened} {i : Nat}
    (opened : (Step.mk w a).opening? = some (r, o, i)) : OpensWith w a r o i := by
  rw [opening?_eq] at opened
  cases a with
  | openSession q =>
    cases check : w.system.checkOpening q with
    | error cause =>
      simp only [check] at opened
      cases opened
    | ok _ =>
      simp only [check, Option.some.injEq, Prod.mk.injEq] at opened
      obtain ⟨rfl, rfl, rfl⟩ := opened
      have system : ((Action.openSession q).perform w).2.system =
          (w.system.accept w.now w.entropy q).service := by
        simp only [Action.perform, Transport.Direct.pairDevice, Service.openSession_eq, check]
        rfl
      have channel : (w.system.accept w.now w.entropy q).service.channels[
          (w.system.accept w.now w.entropy q).channel]? =
            some (Life.opening w.system.config (Service.nextName w.entropy) q w.now).channel :=
        List.getElem?_concat_length
      exact ⟨rfl, rfl, rfl, ⟨_, system ▸ channel, rfl, rfl⟩, Service.length_channels_remove _ _⟩
  | _ => cases opened

private theorem length_channels_of_unopened {w : World} {a : Action}
    (other : ∀ q, a ≠ .openSession q) :
    (a.perform w).2.system.channels.length = w.system.channels.length := by
  have effect := a.effect w
  generalize (a.perform w).2.system = s' at effect
  cases effect with
  | calm channels => rw [channels]
  | decided h d asked => exact (Service.Evolves.decision asked).length
  | supervised moment woken prefer i =>
    exact (Service.Evolves.supervision (.service (.supervise woken prefer i)) moment prefer i).length
  | opened q => exact absurd rfl (other q)
  | received i => exact List.length_modify ..
  | departed i => exact List.length_modify ..

private theorem length_channels_perform (w : World) (a : Action) :
    (a.perform w).2.system.channels.length =
      w.system.channels.length + (openings [⟨w, a⟩]).length := by
  have opening := opening?_eq w a
  by_cases opens : ∃ q, a = .openSession q
  · obtain ⟨q, rfl⟩ := opens
    have kept := Service.length_channels_remove w.system (Service.nextName w.entropy)
    simp only [Action.perform, Transport.Direct.pairDevice, Service.openSession_eq]
    cases check : w.system.checkOpening q with
    | error cause =>
      simp only [check] at opening
      simp [openings, opening, Except.map]
    | ok _ =>
      simp only [check] at opening
      simp [openings, opening, Except.map, Service.accept, kept]
  · have unopened : (Step.mk w a).opening? = none := by
      rw [opening]
      cases a with
      | openSession q => exact absurd ⟨q, rfl⟩ opens
      | _ => rfl
    have same := length_channels_of_unopened (w := w) (not_exists.mp opens)
    simp [openings, unopened, same]

private theorem length_channels_run (w : World) (as : List Action) :
    (run w as).system.channels.length = w.system.channels.length + (openings (steps w as)).length := by
  induction as generalizing w with
  | nil => rfl
  | cons a as ih =>
    have split := openings_append [⟨w, a⟩] (steps (a.perform w).2 as)
    rw [List.singleton_append] at split
    rw [run, ih, length_channels_perform, steps, split, List.length_append, Nat.add_assoc]

/-- The payload of a session, once it was opened over the channel `i`, on its ways through the
service. -/
structure HandedOut (b : Beginning) (as : List Action) (r : PairRequest) (o : Opened) (i : Nat) :
    Prop where
  name : ∃ random : Bytes, random.length = 16 ∧ o.session = sessionName random
  identifier : IsIdentifier o.session
  opening : o.exchangePayload = match r.version with
    | .v1 => none
    | .v2 => some (Exchange.payload o.session)
  channel : ∃ c more, (run b.world as).system.channels[i]? = some c ∧
    c.sent = Life.prelude r.version o.session ++ more ∧ ∀ x ∈ more, Silent x
  /-- Whoever may look the session up is told the payload. -/
  data : ∀ q d, (run b.world as).system.pairingData q = .ok d → d.session = o.session →
    d.exchangePayload = Exchange.payload o.session
  parsed : ∀ before after, AllBlank before → AllBlank after →
    Exchange.session (String.ofList (before ++ (Exchange.payload o.session).toList ++ after)) =
      .ok o.session

private theorem exchangePayload_of_pairingData {b : Beginning} {as : List Action}
    {q : SignedRequest} {d : PairingData} (told : (run b.world as).system.pairingData q = .ok d) :
    d.exchangePayload = Exchange.payload d.session := by
  obtain ⟨⟨body, a⟩, -, found⟩ := Results.bind_eq_ok.mp told
  simp only at found
  split at found
  · rename_i e entry
    split at found
    · obtain rfl := Except.ok.inj found
      exact (represents_run entry).exchangePayload
    · cases found
  · cases found

private theorem handedOut {b : Beginning} {as : List Action} {x : Step}
    (member : x ∈ steps b.world as)
    {r : PairRequest} {o : Opened} {i : Nat} (opened : x.opening? = some (r, o, i)) :
    HandedOut b as r o i := by
  obtain ⟨before, later, rfl, world⟩ := mem_steps.mp member
  obtain ⟨world', action⟩ := x
  obtain rfl : world' = run b.world before := world
  have opening := opensWith opened
  have identifier : IsIdentifier o.session := by
    rw [opening.name]
    exact isIdentifier_sessionName (Entropy.length_draw _ 16)
  obtain ⟨c, at_i, sent, -⟩ := opening.channel
  obtain ⟨c', at_i', ⟨more, outlasts, silent⟩, -⟩ := channel_outlasts later at_i
  refine ⟨⟨_, Entropy.length_draw _ 16, opening.name⟩, identifier, opening.payload,
    ⟨c', more, ?_, sent ▸ outlasts, silent⟩, fun q d told named => ?_,
    fun before after => Exchange.session_surrounded identifier⟩
  · rw [run_append]
    exact at_i'
  · rw [exchangePayload_of_pairingData told, named]

namespace EventStream

variable {e : EventStream}

private theorem textOf?_of_interpret {x : StreamItem} {text : String}
    (brought : e.interpret x = .ok (.info text)) : textOf? e.version x = some text := by
  cases brings : textOf? e.version x with
  | some t =>
    have same := (foretold_of_text brings).symm.trans brought
    rw [Event.info.inj (Except.ok.inj same)]
  | none =>
    have nothing : (some x).bind (textOf? e.version) = none := brings
    obtain ⟨last, ending⟩ := e.ending_of_no_text nothing
    have same := (foretold_of_ending ending).symm.trans brought
    cases last <;> cases same

private theorem text_of_shows {now : Nat} {c : Channel} {text : String}
    (shown : e.shows now c.receive.1 = .event (.ok (.info text))) :
    ∃ x ∈ c.sent, textOf? e.version x = some text := by
  rcases c.receive_cases with ⟨x, next, found⟩ | found | found
  · rw [found] at shown
    exact ⟨x, List.mem_of_getElem? next, textOf?_of_interpret (Sight.event.inj shown)⟩
  · rw [found] at shown
    cases shown
  · rw [found, shows] at shown
    split at shown <;> cases shown

private theorem exchangePayload_after {p : String} (known : e.exchangePayload = some p)
    (x : Sight) : (e.after x).exchangePayload = some p := by
  unfold after note
  split
  · split
    · rw [if_neg (by simp [known])]
      exact known
    · exact known
  · exact known

end EventStream

/-- What the new device of a stream knows of the payload, and where it has it from. -/
inductive Knowledge (seen : List Sight) (e : EventStream) : Prop where
  | told (version : e.version = .v2)
      (known : e.exchangePayload = some (Exchange.payload e.session))
  | shown (version : e.version = .v1)
      (known : e.exchangePayload = some (Exchange.payload e.session))
      (read : .event (.ok (.info (Exchange.payload e.session))) ∈ seen)
  | unaware (version : e.version = .v1) (unknown : e.exchangePayload = none)
      (unread : ∀ text, .event (.ok (.info text)) ∉ seen)

/-- The stream `j` and its channel, of which nothing was taken before the payload is known. -/
structure Informed (w : World) (seen : List Sight) (j : Nat) (e : EventStream) : Prop where
  number : ∀ c, e.channel = some c → c = j
  texts : ∀ text, .event (.ok (.info text)) ∈ seen →
    e.version = .v1 ∧ text = Exchange.payload e.session
  knowledge : Knowledge seen e
  channel : ∃ c, w.system.channels[j]? = some c ∧
    Outlasts (Life.prelude e.version e.session) c.sent ∧
      (e.exchangePayload = none → e.channel ≠ none → c.taken = 0)

namespace Informed

variable {w : World} {seen : List Sight} {j : Nat} {e : EventStream} (h : Informed w seen j e)

include h

private theorem apart {as : List Action} (untouched : .receive j ∉ as) :
    Informed (run w as) seen j e := by
  obtain ⟨c, at_j, sent, fresh⟩ := h.channel
  obtain ⟨c', at_j', outlasts, taken⟩ := channel_outlasts as at_j
  refine ⟨h.number, h.texts, h.knowledge, c', at_j', sent.trans outlasts, fun unknown isOpen => ?_⟩
  rw [taken untouched, fresh unknown isOpen]

private theorem closed (as : List Action) :
    Informed (run w as) seen j { e with channel := none } := by
  obtain ⟨c, at_j, sent, -⟩ := h.channel
  obtain ⟨c', at_j', outlasts, -⟩ := channel_outlasts as at_j
  refine ⟨nofun, h.texts, ?_, c', at_j', sent.trans outlasts, fun _ isOpen => absurd rfl isOpen⟩
  cases h.knowledge with
  | told version known => exact .told version known
  | shown version known read => exact .shown version known read
  | unaware version unknown unread => exact .unaware version unknown unread

private theorem text_eq {c : Channel} (at_j : w.system.channels[j]? = some c) {text : String}
    (shown : e.shows w.now c.receive.1 = .event (.ok (.info text))) :
    e.version = .v1 ∧ text = Exchange.payload e.session := by
  obtain ⟨c', at_j', ⟨more, sent, silent⟩, -⟩ := h.channel
  obtain rfl := Option.some.inj (at_j.symm.trans at_j')
  obtain ⟨x, member, brings⟩ := EventStream.text_of_shows shown
  rw [sent] at member
  rcases List.mem_append.mp member with first | later
  · cases version : e.version with
    | v1 =>
      rw [version] at first brings
      obtain rfl := List.mem_singleton.mp first
      rw [textOf?_info] at brings
      exact ⟨rfl, (Option.some.inj brings).symm⟩
    | v2 =>
      rw [version] at first
      cases first
  · rw [silent x later] at brings
    cases brings

private theorem shows_of_unaware (isOpen : e.channel = some j) (version : e.version = .v1)
    (unknown : e.exchangePayload = none) :
    e.shows w.now (w.receive j).1 = .event (.ok (.info (Exchange.payload e.session))) := by
  obtain ⟨c, at_j, ⟨more, sent, -⟩, fresh⟩ := h.channel
  have taken : c.taken = 0 := fresh unknown (by simp [isOpen])
  have next : c.sent[c.taken]? = some (.ok (Frame.encode (.info (Exchange.payload e.session)))) := by
    rw [taken, sent, version]
    rfl
  have found : (w.receive j).1 = c.receive.1 := by
    simp only [Environment.receive, Tasks.channel?, at_j]
  rw [found, Channel.receive_of_next next, EventStream.shows, EventStream.interpret, version,
    Frame.decode_info]
  rfl

private theorem knowledge_after (isOpen : e.channel = some j) {x : Sight}
    (shown : x = e.shows w.now (w.receive j).1) :
    Knowledge (seen ++ [x]) (e.after x) ∧ (e.after x).exchangePayload ≠ none := by
  have session := EventStream.session_after e x
  have version := EventStream.version_after e x
  suffices known : (e.after x).exchangePayload = some (Exchange.payload e.session) ∧
      (e.version = .v1 → .event (.ok (.info (Exchange.payload e.session))) ∈ seen ++ [x]) by
    obtain ⟨known, read⟩ := known
    refine ⟨?_, by simp [known]⟩
    rw [← session] at known read
    cases second : e.version with
    | v1 => exact .shown (version.trans second) known (read second)
    | v2 => exact .told (version.trans second) known
  cases h.knowledge with
  | told second known =>
    refine ⟨EventStream.exchangePayload_after known x, fun first => ?_⟩
    rw [second] at first
    cases first
  | shown first known read =>
    exact ⟨EventStream.exchangePayload_after known x, fun _ => List.mem_append_left _ read⟩
  | unaware first unknown unread =>
    rw [h.shows_of_unaware isOpen first unknown] at shown
    refine ⟨?_, fun _ => by simp [shown]⟩
    simp [shown, EventStream.after, EventStream.note, first, unknown]

theorem polled (isOpen : e.channel = some j) (as : List Action) {x : Sight}
    (shown : x = e.shows w.now (w.receive j).1) :
    Informed (run w as) (seen ++ [x]) j (e.after x) := by
  obtain ⟨c, at_j, sent, -⟩ := h.channel
  obtain ⟨c', at_j', outlasts, -⟩ := channel_outlasts as at_j
  obtain ⟨knowledge, known⟩ := h.knowledge_after isOpen shown
  have found : (w.receive j).1 = c.receive.1 := by
    simp only [Environment.receive, Tasks.channel?, at_j]
  refine ⟨fun k isOpen' => ?_, fun text member => ?_, knowledge, c', at_j', ?_,
    fun unknown => absurd unknown known⟩
  · rw [EventStream.channel_after] at isOpen'
    split at isOpen'
    · cases isOpen'
    · exact h.number k isOpen'
  · rw [EventStream.version_after, EventStream.session_after]
    rcases List.mem_append.mp member with earlier | now
    · exact h.texts text earlier
    · rw [found] at shown
      exact h.text_eq at_j (shown.symm.trans (List.mem_singleton.mp now).symm)
  · rw [EventStream.version_after, EventStream.session_after]
    exact sent.trans outlasts

private theorem ended : Informed w (seen ++ [.ended]) j e := by
  have same : ∀ text, Sight.event (.ok (.info text)) ∈ seen ++ [.ended] ↔
      Sight.event (.ok (.info text)) ∈ seen := by simp
  refine ⟨h.number, fun text member => h.texts text ((same text).mp member), ?_, h.channel⟩
  cases h.knowledge with
  | told version known => exact .told version known
  | shown version known read => exact .shown version known ((same _).mpr read)
  | unaware version unknown unread =>
    exact .unaware version unknown fun text => mt (same text).mp (unread text)

end Informed

private theorem informed_of_opening {w : World} {config : ClientConfig} {i : Introduction}
    {o : Opened} {c : Nat}
    (opened : (Step.mk w.drawKey.2 (.openSession (nextRequest config i w))).opening? =
      some (nextRequest config i w, o, c)) (now : Nat) :
    Informed (run w [.drawKey, .openSession (nextRequest config i w)]) [] c
      (streamOf config (nextSecret w) now o c) := by
  obtain ⟨-, -, payload, ⟨ch, at_c, sent, taken⟩, -⟩ := opensWith opened
  have requested : (nextRequest config i w).version = config.version := rfl
  rw [requested] at payload sent
  refine ⟨fun k same => (Option.some.inj same).symm, nofun, ?_, ch, at_c, sent ▸ .refl _,
    fun _ _ => taken⟩
  cases version : config.version with
  | v1 =>
    rw [version] at payload
    exact .unaware version payload nofun
  | v2 =>
    rw [version] at payload
    exact .told version payload

private theorem close_eq (e : EventStream) (w : World) :
    (e.close w).1 = { e with channel := none } := by
  obtain ⟨session, version, payload, secret, channel, deadline⟩ := e
  cases channel <;> rfl

variable {b : Beginning}

private theorem sessions_streams_eq (b : Beginning) (ms : List Move) :
    ((Scene.ofBeginning b).play ms).streams.map EventStream.session =
      openings (steps b.world ((Scene.ofBeginning b).history ms)) :=
  Scene.sessions_play (Scene.ofBeginning b) ms

private theorem length_streams_eq (b : Beginning) (ms : List Move) :
    ((Scene.ofBeginning b).play ms).streams.length =
      ((Scene.ofBeginning b).play ms).world.system.channels.length := by
  have channels := length_channels_run b.world ((Scene.ofBeginning b).history ms)
  rw [world_ofBeginning, channels, ← sessions_streams_eq, List.length_map]
  exact (Nat.zero_add _).symm

section

variable {s : Scene} {seen : List Sight} {j : Nat} {e : EventStream} (stream : s.streams[j]? = some e)
  (h : Informed s.world seen j e)

include stream h

private theorem informed_poll :
    ∃ e', (s.move (.poll j)).streams[j]? = some e' ∧
      Informed (s.move (.poll j)).world (seen ++ (s.sight? j (.poll j)).toList) j e' := by
  have inside := (List.getElem?_eq_some_iff.mp stream).1
  have sight : s.sight? j (.poll j) = some (e.poll s.world).1 := by
    simp only [Scene.sight?, if_true, stream, Option.map_some]
  have moved : (s.move (.poll j)).streams[j]? = some (e.poll s.world).2.1 := by
    simp only [Scene.move, stream, List.getElem?_set_self inside]
  rw [Scene.world_move, sight, Option.toList_some]
  cases isOpen : e.channel with
  | none =>
    have nothing : s.actions (.poll j) = [] := by
      simp only [Scene.actions, stream, Option.bind_some, isOpen]
    rw [EventStream.poll_of_closed isOpen] at moved ⊢
    rw [nothing]
    exact ⟨e, moved, h.ended⟩
  | some c =>
    obtain rfl := h.number c isOpen
    rw [EventStream.poll_of_open isOpen] at moved ⊢
    exact ⟨_, moved, h.polled isOpen _ rfl⟩

private theorem informed_close :
    ∃ e', (s.move (.close j)).streams[j]? = some e' ∧
      Informed (s.move (.close j)).world (seen ++ (s.sight? j (.close j)).toList) j e' := by
  have inside := (List.getElem?_eq_some_iff.mp stream).1
  have moved : (s.move (.close j)).streams[j]? = some { e with channel := none } := by
    simp only [Scene.move, stream, List.getElem?_set_self inside, close_eq]
  rw [Scene.world_move]
  exact ⟨_, moved, (List.append_nil seen).symm ▸ h.closed _⟩

end

private theorem informed_move {s : Scene} {seen : List Sight} {j : Nat}
    (numbered : ∀ (k : Nat) (e : EventStream), s.streams[k]? = some e → ∀ c, e.channel = some c → c = k)
    {e : EventStream} (stream : s.streams[j]? = some e) (h : Informed s.world seen j e) (m : Move) :
    ∃ e', (s.move m).streams[j]? = some e' ∧
      Informed (s.move m).world (seen ++ (s.sight? j m).toList) j e' := by
  by_cases polled : m = .poll j
  · subst polled
    exact informed_poll stream h
  by_cases closed : m = .close j
  · subst closed
    exact informed_close stream h
  have unseen : s.sight? j m = none := by
    cases m with
    | poll k => exact if_neg (by simpa using polled)
    | _ => rfl
  have apart : ∀ k c, s.streams[k]?.bind EventStream.channel = some c → c = k := by
    intro k c known
    obtain ⟨e, stream, isOpen⟩ := Option.bind_eq_some_iff.mp known
    exact numbered k e stream c isOpen
  obtain ⟨untouched, -⟩ := actions_apart apart polled closed
  rw [unseen, Option.toList_none, List.append_nil, Scene.world_move]
  exact ⟨e, stream_move stream polled closed, h.apart untouched⟩

private theorem informed_play (ms : List Move) {j : Nat} {e : EventStream}
    (stream : ((Scene.ofBeginning b).play ms).streams[j]? = some e) :
    Informed ((Scene.ofBeginning b).play ms).world ((Scene.ofBeginning b).sights j ms) j e := by
  induction ms using List.reverseRecOn generalizing j e with
  | nil => cases stream
  | append_singleton ms m ih =>
    have numbers := length_streams_eq b ms
    have unseen : ((Scene.ofBeginning b).play ms).streams.length ≤ j →
      (Scene.ofBeginning b).sights j ms = [] := Scene.sights_of_absent
    rw [Scene.play_snoc] at stream ⊢
    rw [Scene.sights_snoc]
    generalize (Scene.ofBeginning b).play ms = s at stream ih numbers unseen ⊢
    by_cases old : j < s.streams.length
    · have before : s.streams[j]? = some s.streams[j] := List.getElem?_eq_getElem old
      obtain ⟨e', moved, h⟩ :=
        informed_move (fun k e stream => (ih stream).number) before (ih before) m
      obtain rfl := Option.some.inj (stream.symm.trans moved)
      exact h
    · -- the move made the stream, and its channel has the same number
      have absent := Nat.not_lt.mp old
      obtain ⟨config, i, o, c, rfl, rfl, opened, rfl⟩ := stream_new stream old
      rw [unseen absent, Scene.sight?_of_absent absent, Option.toList_none, List.append_nil,
        Scene.world_move]
      have number : c = s.streams.length := (opensWith opened).number.trans numbers.symm
      rw [← number]
      exact informed_of_opening opened _

/-- The payload is one and the same text wherever it is handed out, in every stream that has it and
in what the owner of the stream is shown, and it names the session. A text names a session exactly
if it is the payload of a name that is not empty, but for white space around it. -/
theorem payload_is_one_and_the_same (b : Beginning) :
    (∀ as, ∀ x ∈ steps b.world as, ∀ r o i, x.opening? = some (r, o, i) → HandedOut b as r o i) ∧
    (∀ ms j e, ((Scene.ofBeginning b).play ms).streams[j]? = some e →
      (openings (steps b.world ((Scene.ofBeginning b).history ms)))[j]? = some e.session ∧
        Knowledge ((Scene.ofBeginning b).sights j ms) e ∧
        ∀ text, .event (.ok (.info text)) ∈ (Scene.ofBeginning b).sights j ms →
          e.version = .v1 ∧ text = Exchange.payload e.session) ∧
    (∀ p s, Exchange.session p = .ok s ↔ s ≠ "" ∧ trim p.toList = "pairing:".toList ++ s.toList) ∧
    ∀ s, Exchange.session (Exchange.payload s) = .ok s ↔
      s ≠ "" ∧ ∀ c ∈ s.toList.getLast?, isBlank c = false := by
  refine ⟨fun as x member r o i => handedOut member, fun ms j e stream => ?_,
    fun p s => Exchange.session_eq_ok, fun s => Exchange.session_payload⟩
  have informed := informed_play ms stream
  refine ⟨?_, informed.knowledge, informed.texts⟩
  rw [← sessions_streams_eq, List.getElem?_map, stream, Option.map_some]

namespace Sample

/-- A new device opens a session and polls its stream once. -/
def greeted : List Move := [.pair config ⟨"lamp", "a lamp", ""⟩, .poll 0]

end Sample

/-- The payload of a session that a new device opens and begins to wait for. -/
theorem payload_is_one_and_the_same_of_greeted :
    HandedOut Session.Sample.beginning [.openSession Session.Sample.request] Session.Sample.request
        ⟨Session.Sample.session, .v1, none⟩ 0 ∧
      (∃ e, ((Scene.ofBeginning Session.Sample.beginning).play Sample.greeted).streams[0]? = some e ∧
        Knowledge ((Scene.ofBeginning Session.Sample.beginning).sights 0 Sample.greeted) e) ∧
      Exchange.session " pairing:the lamp\n" = .ok "the lamp" := by
  obtain ⟨handed, streams, parsed, -⟩ := payload_is_one_and_the_same Session.Sample.beginning
  have present : ((Scene.ofBeginning Session.Sample.beginning).play Sample.greeted).streams[0]?.isSome =
      true := by
    decide +kernel
  obtain ⟨e, stream⟩ := Option.isSome_iff_exists.mp present
  refine ⟨handed [.openSession Session.Sample.request]
    ⟨Session.Sample.beginning.world, .openSession Session.Sample.request⟩ List.mem_cons_self _ _ _
      (by decide +kernel), ⟨e, stream, (streams _ _ _ stream).2.1⟩, ?_⟩
  exact (parsed _ _).mpr ⟨by decide, by decide +kernel⟩

end DevicePairing.Client
