import DevicePairing.Proofs.Client.Scene
import DevicePairing.Proofs.Frame.Reading
import DevicePairing.Proofs.Transport.Feed

set_option autoImplicit false
set_option relaxedAutoImplicit false

/-!
The events of a stream, whatever comes over its channel: first the texts that come before anything
else, then one last event, then nothing. The texts are those of the items up to the first that
brings none, and that item alone determines the last event.
-/

namespace DevicePairing.Client

open DevicePairing
open DevicePairing.Clock
open DevicePairing.Session (Channel StreamItem)
open DevicePairing.Transport

/-! ### What items stand for -/

/-- The text that an item brings under a version. -/
def textOf? (version : ProtocolVersion) : StreamItem → Option String
  | .error _ => none
  | .ok octets =>
    match Frame.decode version octets with
    | .ok (.info text) => some text
    | _ => none

def leadingTexts (version : ProtocolVersion) : List StreamItem → List String
  | [] => []
  | x :: xs =>
    match textOf? version x with
    | some text => text :: leadingTexts version xs
    | none => []

/-- How a stream ends with an item that brings no text, or with the end of its channel. -/
inductive Ending (version : ProtocolVersion) (session : String) :
    Option StreamItem → Except PairingError PairResponse → Prop where
  | response {octets : Bytes} {r : PairResponse}
      (decoded : Frame.decode version octets = .ok (.response r)) (own : r.session = session) :
      Ending version session (some (.ok octets)) (.ok r)
  | foreign {octets : Bytes} {r : PairResponse}
      (decoded : Frame.decode version octets = .ok (.response r)) (other : r.session ≠ session) :
      Ending version session (some (.ok octets))
        (.error (.malformedFrame ("response for foreign session " ++ r.session)))
  | unreadable {octets : Bytes} {f : FrameError} (decoded : Frame.decode version octets = .error f) :
      Ending version session (some (.ok octets)) (.error f.toPairingError)
  | failure (cause : PairingError) :
      Ending version session (some (.error cause)) (.error cause)
  | closed :
      Ending version session none
        (.error (.transport "stream ended before the terminal frame"))

private theorem textOf?_v2 (x : StreamItem) : textOf? .v2 x = none := by
  cases x with
  | error cause => rfl
  | ok octets =>
    have silent : ∀ text, Frame.decode .v2 octets ≠ .ok (.info text) := by
      intro text decoded
      cases Frame.reading_of_eq decoded with
      | info text known => exact absurd known (by decide)
    rw [textOf?]
    split
    · rename_i text decoded
      exact absurd decoded (silent text)
    · rfl

private theorem leadingTexts_v2 (items : List StreamItem) : leadingTexts .v2 items = [] := by
  cases items with
  | nil => rfl
  | cons x xs => rw [leadingTexts, textOf?_v2]

private theorem map_textOf?_take (version : ProtocolVersion) (items : List StreamItem) :
    (items.take (leadingTexts version items).length).map (textOf? version) =
      (leadingTexts version items).map some := by
  induction items with
  | nil => rfl
  | cons x xs ih =>
    rw [leadingTexts]
    cases text : textOf? version x with
    | none => rfl
    | some t =>
      simp only [List.length_cons, List.take_succ_cons, List.map_cons, text, ih]

theorem leadingTexts_of_text {version : ProtocolVersion} {x : StreamItem} {text : String}
    (brings : textOf? version x = some text) (xs : List StreamItem) :
    leadingTexts version (x :: xs) = text :: leadingTexts version xs := by
  rw [leadingTexts, brings]

theorem leadingTexts_of_no_text {version : ProtocolVersion} {x : StreamItem}
    (none : textOf? version x = none) (xs : List StreamItem) :
    leadingTexts version (x :: xs) = [] := by
  rw [leadingTexts, none]

private theorem leadingTexts_drop {version : ProtocolVersion} {items : List StreamItem} {n : Nat}
    (early : n ≤ (leadingTexts version items).length) :
    leadingTexts version (items.drop n) = (leadingTexts version items).drop n := by
  induction items generalizing n with
  | nil => rw [List.drop_nil, leadingTexts, List.drop_nil]
  | cons x xs ih =>
    cases n with
    | zero => rfl
    | succ n =>
      cases text : textOf? version x with
      | none =>
        rw [leadingTexts_of_no_text text] at early
        exact absurd early (Nat.not_succ_le_zero n)
      | some t =>
        rw [leadingTexts_of_text text] at early ⊢
        exact ih (Nat.le_of_succ_le_succ early)

theorem length_leadingTexts_le (version : ProtocolVersion) (items : List StreamItem) :
    (leadingTexts version items).length ≤ items.length := by
  have same := congrArg List.length (map_textOf?_take version items)
  rw [List.length_map, List.length_map, List.length_take] at same
  omega

private theorem length_leadingTexts_le_append (version : ProtocolVersion)
    (items more : List StreamItem) :
    (leadingTexts version items).length ≤ (leadingTexts version (items ++ more)).length := by
  induction items with
  | nil => exact Nat.zero_le _
  | cons x xs ih =>
    rw [List.cons_append, leadingTexts, leadingTexts]
    cases textOf? version x with
    | none => exact Nat.le_refl _
    | some text => exact Nat.succ_le_succ ih

namespace Ending

variable {version : ProtocolVersion} {session : String} {item : Option StreamItem}
  {last : Except PairingError PairResponse}

private theorem ok_iff (h : Ending version session item last) (r : PairResponse) :
    last = .ok r ↔ ∃ octets, item = some (.ok octets) ∧
      Frame.decode version octets = .ok (.response r) ∧ r.session = session := by
  constructor
  · rintro rfl
    cases h with
    | response decoded own => exact ⟨_, rfl, decoded, own⟩
  · rintro ⟨octets, rfl, decoded, own⟩
    cases h with
    | response decoded' =>
      rw [decoded'] at decoded
      cases decoded
      rfl
    | foreign decoded' other =>
      rw [decoded'] at decoded
      cases decoded
      exact absurd own other
    | unreadable decoded' =>
      rw [decoded'] at decoded
      cases decoded

end Ending

namespace EventStream

/-- The event for the next item of a channel, or for its end. -/
def foretold (e : EventStream) : Option StreamItem → Except PairingError Event
  | some x => e.interpret x
  | none => .error (.transport "stream ended before the terminal frame")

theorem foretold_of_text {e : EventStream} {x : StreamItem} {text : String}
    (brings : textOf? e.version x = some text) : e.foretold (some x) = .ok (.info text) := by
  cases x with
  | error cause => cases brings
  | ok octets =>
    simp only [textOf?] at brings
    split at brings
    · rename_i t decoded
      obtain rfl := Option.some.inj brings
      simp only [foretold, interpret, decoded, accept]
    · cases brings

theorem foretold_of_ending {e : EventStream} {item : Option StreamItem}
    {last : Except PairingError PairResponse} (ending : Ending e.version e.session item last) :
    e.foretold item = last.map .response := by
  cases ending with
  | response decoded own => simp only [foretold, interpret, decoded, accept, if_pos own, Except.map]
  | foreign decoded other => simp only [foretold, interpret, decoded, accept, if_neg other, Except.map]
  | unreadable decoded => simp only [foretold, interpret, decoded, Except.map]
  | failure cause => rfl
  | closed => rfl

theorem ending_of_no_text (e : EventStream) {item : Option StreamItem}
    (none : item.bind (textOf? e.version) = none) :
    ∃ last, Ending e.version e.session item last := by
  cases item with
  | none => exact ⟨_, .closed⟩
  | some x =>
    cases x with
    | error cause => exact ⟨_, .failure cause⟩
    | ok octets =>
      rw [Option.bind_some, textOf?] at none
      cases decoded : Frame.decode e.version octets with
      | error f => exact ⟨_, .unreadable decoded⟩
      | ok frame =>
        cases frame with
        | info text => simp only [decoded, reduceCtorEq] at none
        | response r =>
          by_cases own : r.session = e.session
          · exact ⟨_, .response decoded own⟩
          · exact ⟨_, .foreign decoded own⟩

/-- The exchange payload after some texts: the one from the opening, or else the first text of the
first version. -/
def payloadAfter (e : EventStream) (texts : List String) : Option String :=
  e.exchangePayload.or (if e.version = .v1 then texts.head? else none)

/-- The stream after some texts, and after its end when it has ended. -/
def having (e : EventStream) (texts : List String) (channel : Option Nat) : EventStream :=
  { e with exchangePayload := e.payloadAfter texts, channel := channel }

@[simp] theorem version_having (e : EventStream) (texts : List String) (channel : Option Nat) :
    (e.having texts channel).version = e.version := rfl

@[simp] theorem session_having (e : EventStream) (texts : List String) (channel : Option Nat) :
    (e.having texts channel).session = e.session := rfl

@[simp] theorem deadline_having (e : EventStream) (texts : List String) (channel : Option Nat) :
    (e.having texts channel).deadline = e.deadline := rfl

private theorem note_info (e : EventStream) (text : String) :
    e.note (.ok (.info text)) = e.having [text] e.channel := by
  obtain ⟨session, version, payload, secret, channel, deadline⟩ := e
  cases version <;> cases payload <;> rfl

private theorem note_last (e : EventStream) (last : Except PairingError PairResponse) :
    e.note (last.map .response) = e.having [] none := by
  obtain ⟨session, version, payload, secret, channel, deadline⟩ := e
  cases last <;> cases version <;> cases payload <;> rfl

private theorem having_nil (e : EventStream) : e.having [] e.channel = e := by
  obtain ⟨session, version, payload, secret, channel, deadline⟩ := e
  cases version <;> cases payload <;> rfl

private theorem having_having (e : EventStream) (text : String) (texts : List String)
    (channel channel' : Option Nat) :
    (e.having [text] channel).having texts channel' = e.having (text :: texts) channel' := by
  obtain ⟨session, version, payload, secret, channel, deadline⟩ := e
  cases version <;> cases payload <;> rfl

/-! ### One event -/

variable {e : EventStream} {i : Nat} {w : Environment Playback} {past future : List StreamItem}

private theorem poll_of_item {x : StreamItem} {w' : Environment Playback}
    (isOpen : e.channel = some i) (found : w.receive i = (.item x, w')) :
    e.poll w = (.event (e.foretold (some x)), e.note (e.foretold (some x)),
      if Sight.isLast (.event (e.foretold (some x))) then w'.dropReceiver i else w') := by
  rw [poll_of_open isOpen, found]
  rfl

private def attempt {σ : Type} [Tasks σ] (e : EventStream) (w : Environment σ) :
    Option Sight × EventStream × Environment σ :=
  match e.poll w with
  | (.pending, e, w) => (none, e, w)
  | (x, e, w) => (some x, e, w)

private theorem next_eq {σ : Type} [Tasks σ] (e : EventStream) (w : Environment σ) :
    e.next w =
      match w.await (some e.deadline) attempt e with
      | (some x, e, w) => (x, e, w)
      | (none, e, w) => (.pending, e, w) := rfl

private def Shown (e : EventStream) (i : Nat) (past future : List StreamItem) (x : Sight)
    (e' : EventStream) (w' : Environment Playback) : Prop :=
  x = .event (e.foretold future.head?) ∧ e' = e.note (e.foretold future.head?) ∧
    if x.isLast then Left i w' (past ++ future.head?.toList)
    else Brings e.deadline i w' (past ++ future.head?.toList) future.tail

private theorem shown_of_item {phase : FeedPhase} {c c' : Channel} (x : StreamItem)
    (fed : Fed e.deadline i w phase c') (past : received c' = received c ++ [x])
    (future : remaining phase c = x :: remaining phase c') :
    Shown e i (received c) (remaining phase c) (.event (e.interpret x)) (e.note (e.interpret x))
      (if Sight.isLast (.event (e.interpret x)) then w.dropReceiver i else w) := by
  rw [future]
  refine ⟨rfl, rfl, ?_⟩
  cases Sight.isLast (.event (e.interpret x)) with
  | true => exact ⟨_, fed.dropReceiver, rfl, past⟩
  | false => exact ⟨phase, c', fed, past, rfl⟩

private theorem attempt_of_fed {phase : FeedPhase} {c : Channel} (isOpen : e.channel = some i)
    (fed : Fed e.deadline i w phase c) :
    (∃ x e' w', attempt e w = (some x, e', w') ∧
        Shown e i (received c) (remaining phase c) x e' w') ∨
      ∃ w', attempt e w = (none, e, w') ∧ w'.now = w.now ∧ phase.isFinished = false ∧
        Fed e.deadline i w' phase c ∧ c.queued = [] := by
  unfold attempt
  rw [poll_of_open isOpen]
  cases waiting : c.queued with
  | cons x more =>
    obtain ⟨w', c', found, -, fed', past, queued⟩ := fed.receive_item waiting
    left
    rw [found]
    refine ⟨_, _, _, rfl, shown_of_item x fed' past ?_⟩
    rw [remaining, remaining, waiting, queued, List.cons_append]
  | nil =>
    obtain ⟨w', found, now, fed'⟩ := fed.receive_nothing waiting
    rw [found]
    cases finished : phase.isFinished with
    | true =>
      left
      rw [remaining_of_finished finished waiting]
      exact ⟨_, _, _, rfl, rfl, rfl, _, fed'.dropReceiver, rfl, (List.append_nil _).symm⟩
    | false =>
      right
      have early := Nat.not_le_of_lt (fed.now_lt finished)
      simp only [Bool.false_eq_true, if_false, shows, if_neg early]
      exact ⟨w', rfl, now, trivial, fed', trivial⟩

private theorem next_of_brings (isOpen : e.channel = some i)
    (brings : Brings e.deadline i w past future) :
    ∃ w', e.next w = (.event (e.foretold future.head?), e.note (e.foretold future.head?), w') ∧
      if Sight.isLast (.event (e.foretold future.head?)) then Left i w' (past ++ future.head?.toList)
      else Brings e.deadline i w' (past ++ future.head?.toList) future.tail := by
  obtain ⟨phase, c, fed, rfl, rfl⟩ := brings
  have waited := await_fed attempt
    (fun s past future => s = e ∧ past = received c ∧ future = remaining phase c)
    (Shown e i (received c) (remaining phase c)) ?_ fed ⟨rfl, rfl, rfl⟩
  · obtain ⟨x, s, w', found, rfl, rfl, after⟩ := waited
    exact ⟨w', by rw [next_eq, found], after⟩
  · rintro s w₁ phase₁ c₁ fed₁ ⟨rfl, past, future⟩
    rw [← past, ← future]
    rcases attempt_of_fed isOpen fed₁ with shown | ⟨w₂, nothing, now, unfinished, fed₂, empty⟩
    · exact .inl shown
    · exact .inr ⟨s, w₂, c₁, nothing, now, unfinished, fed₂, empty, rfl, rfl, rfl⟩

private theorem next_of_closed (closed : e.channel = none) : e.next w = (.ended, e, w) := by
  simp only [next, Environment.await, Environment.awaitFor, poll_of_closed closed]

/-! ### All events -/

/-- What is seen of a stream in some turns, and the stream after them. -/
def watch : (turns : Nat) → EventStream → Environment Playback →
    List Sight × EventStream × Environment Playback
  | 0, e, w => ([], e, w)
  | turns + 1, e, w =>
    let (x, e, w) := e.next w
    let (xs, e, w) := watch turns e w
    (x :: xs, e, w)

private theorem watch_of_closed (closed : e.channel = none) (turns : Nat) :
    watch turns e w = (List.replicate turns .ended, e, w) := by
  induction turns with
  | zero => rfl
  | succ turns ih => simp only [watch, next_of_closed closed, ih, List.replicate_succ]

end EventStream

def Sight.text (t : String) : Sight := .event (.ok (.info t))

def Sight.last (r : Except PairingError PairResponse) : Sight := .event (r.map .response)

namespace EventStream

/-- How a stream goes over the channel `i` that brings some items and is closed then. -/
structure Grammatical (e : EventStream) (i : Nat) (items : List StreamItem)
    (w : Environment Playback) (last : Except PairingError PairResponse) : Prop where
  /-- The texts are those of the first items. There are none in the second version. -/
  leading : (items.take (leadingTexts e.version items).length).map (textOf? e.version) =
    (leadingTexts e.version items).map some
  silent : e.version = .v2 → leadingTexts e.version items = []
  ending : Ending e.version e.session items[(leadingTexts e.version items).length]? last
  /-- It is a response exactly if the item is one for the session of the stream. -/
  answered : ∀ r, last = .ok r ↔
    ∃ octets, items[(leadingTexts e.version items).length]? = some (.ok octets) ∧
      Frame.decode e.version octets = .ok (.response r) ∧ r.session = e.session
  sights : ∀ turns, (watch turns e w).1 =
    ((leadingTexts e.version items).map Sight.text ++
      Sight.last last :: List.replicate turns Sight.ended).take turns
  stream : ∀ turns, (watch turns e w).2.1 =
    e.having ((leadingTexts e.version items).take turns)
      (if turns ≤ (leadingTexts e.version items).length then some i else none)
  payload : ∀ turns more known, (watch turns e w).2.1.exchangePayload = some known →
    (watch (turns + more) e w).2.1.exchangePayload = some known
  /-- The receiver is dropped with the last event, and what comes after its item is not received. -/
  left : ∀ turns, (leadingTexts e.version items).length < turns →
    Left i (watch turns e w).2.2 (items.take ((leadingTexts e.version items).length + 1))
  /-- Whoever waits for the response gets the last event, and the stream has ended then. -/
  response : ∀ turns, turns ≤ (leadingTexts e.version items).length →
    ∃ e' w', (watch turns e w).2.1.response (watch turns e w).2.2 = (last, e', w') ∧
      e'.isClosed = true
  exhausted : ∀ turns, (leadingTexts e.version items).length < turns →
    (watch turns e w).2.1.response (watch turns e w).2.2 =
      (.error (.transport "pairing stream already ended"), (watch turns e w).2)

variable {e : EventStream} {i : Nat} {w : Environment Playback} {past future : List StreamItem}

private theorem watch_of_ending (isOpen : e.channel = some i)
    (brings : Brings e.deadline i w past future)
    (silent : future.head?.bind (textOf? e.version) = none) :
    ∃ last, Ending e.version e.session future.head? last ∧ ∀ turns,
      (watch turns e w).1 = (Sight.last last :: List.replicate turns Sight.ended).take turns ∧
      (watch turns e w).2.1 = e.having [] (if turns ≤ 0 then some i else none) ∧
      if turns ≤ 0 then Brings e.deadline i (watch turns e w).2.2 past future
      else Left i (watch turns e w).2.2 (past ++ future.head?.toList) := by
  obtain ⟨last, ending⟩ := e.ending_of_no_text silent
  obtain ⟨w', found, after⟩ := next_of_brings isOpen brings
  rw [foretold_of_ending ending] at found after
  have isLast : (Sight.last last).isLast = true := by cases last <;> rfl
  rw [← Sight.last, isLast, if_pos rfl] at after
  rw [note_last] at found
  refine ⟨last, ending, fun turns => ?_⟩
  cases turns with
  | zero =>
    refine ⟨rfl, ?_, brings⟩
    rw [← isOpen]
    exact e.having_nil.symm
  | succ turns =>
    have rest := watch_of_closed (e := e.having [] none) (w := w') rfl turns
    simp only [watch, found, rest]
    refine ⟨?_, rfl, after⟩
    simp [Sight.last, List.take_replicate]

private theorem take_padded {α : Type} (n : Nat) (xs : List α) (x y : α) :
    (xs ++ x :: List.replicate (n + 1) y).take n = (xs ++ x :: List.replicate n y).take n := by
  have longer : xs ++ x :: List.replicate (n + 1) y = (xs ++ x :: List.replicate n y) ++ [y] := by
    rw [List.replicate_succ', List.append_assoc, List.cons_append]
  have enough : n ≤ (xs ++ x :: List.replicate n y).length := by
    rw [List.length_append, List.length_cons, List.length_replicate]
    omega
  rw [longer, List.take_append_of_le_length enough]

private theorem watch_of_brings (isOpen : e.channel = some i)
    (brings : Brings e.deadline i w past future) :
    ∃ last, Ending e.version e.session future[(leadingTexts e.version future).length]? last ∧
      ∀ turns, (watch turns e w).1 =
          ((leadingTexts e.version future).map Sight.text ++
            Sight.last last :: List.replicate turns Sight.ended).take turns ∧
        (watch turns e w).2.1 = e.having ((leadingTexts e.version future).take turns)
          (if turns ≤ (leadingTexts e.version future).length then some i else none) ∧
        if turns ≤ (leadingTexts e.version future).length then
          Brings e.deadline i (watch turns e w).2.2 (past ++ future.take turns) (future.drop turns)
        else Left i (watch turns e w).2.2
          (past ++ future.take ((leadingTexts e.version future).length + 1)) := by
  induction future generalizing e w past with
  | nil =>
    obtain ⟨last, ending, watched⟩ := watch_of_ending isOpen brings rfl
    refine ⟨last, ending, fun turns => ?_⟩
    simpa [leadingTexts] using watched turns
  | cons x xs ih =>
    cases text : textOf? e.version x with
    | none =>
      obtain ⟨last, ending, watched⟩ := watch_of_ending isOpen brings text
      rw [leadingTexts_of_no_text text]
      refine ⟨last, ending, fun turns => ?_⟩
      obtain ⟨sights, stream, rest⟩ := watched turns
      refine ⟨sights, by rw [stream, List.take_nil]; rfl, ?_⟩
      cases turns with
      | zero => simpa using rest
      | succ turns => exact rest
    | some t =>
      obtain ⟨w', found, after⟩ := next_of_brings isOpen brings
      rw [List.head?_cons, foretold_of_text text] at found after
      rw [note_info] at found
      obtain ⟨last, ending, watched⟩ := ih (e := e.having [t] e.channel) isOpen after
      rw [leadingTexts_of_text text]
      refine ⟨last, ending, fun turns => ?_⟩
      cases turns with
      | zero =>
        refine ⟨rfl, ?_, ?_⟩
        · rw [List.take_zero, if_pos (Nat.zero_le _), ← isOpen]
          exact e.having_nil.symm
        · simpa [watch] using brings
      | succ turns =>
        obtain ⟨sights, stream, rest⟩ := watched turns
        simp only [watch, found]
        refine ⟨?_, ?_, ?_⟩
        · rw [sights, List.map_cons, List.cons_append, List.take_succ_cons, take_padded]
          rfl
        · rw [stream, having_having]
          simp only [List.length_cons, Nat.succ_le_succ_iff]
          rfl
        · simpa using rest

/-! ### The response -/

section

variable {hold : Bool} {phase : FeedPhase} {c : Channel}

theorem queued_of_channel (isOpen : e.channel = some i) (channel : w.system.channels[i]? = some c) :
    e.queued w = c.queued.length := by
  have here : Tasks.channel? w.system i = some c := channel
  simp only [queued, isOpen, Option.bind_some, here]

theorem pollResponse_of_texts (isOpen : e.channel = some i) (plays : Plays hold i w phase c)
    (more : Nat) :
    ∃ w' c', pollResponse ((leadingTexts e.version c.queued).length + more) e w =
        pollResponse more (e.having (leadingTexts e.version c.queued) (some i)) w' ∧
      w'.now = w.now ∧ Plays hold i w' phase c' ∧
      c'.queued = c.queued.drop (leadingTexts e.version c.queued).length := by
  generalize queue : c.queued = items
  induction items generalizing e w c with
  | nil =>
    refine ⟨w, c, ?_, rfl, plays, queue⟩
    rw [leadingTexts, ← isOpen, having_nil, List.length_nil, Nat.zero_add]
  | cons x xs ih =>
    cases text : textOf? e.version x with
    | none =>
      refine ⟨w, c, ?_, rfl, plays, ?_⟩
      · rw [leadingTexts_of_no_text text, ← isOpen, having_nil, List.length_nil, Nat.zero_add]
      · rw [leadingTexts_of_no_text text, queue, List.length_nil, List.drop_zero]
    | some t =>
      obtain ⟨w₁, c₁, found, now₁, plays₁, -, queue₁⟩ := plays.receive_item queue
      obtain ⟨w₂, c₂, passed, now₂, plays₂, queue₂⟩ :=
        ih (e := e.having [t] e.channel) isOpen plays₁ queue₁
      rw [version_having] at passed queue₂
      rw [leadingTexts_of_text text]
      refine ⟨w₂, c₂, ?_, now₂.trans now₁, plays₂, queue₂⟩
      rw [List.length_cons, Nat.add_right_comm, pollResponse, poll_of_item isOpen found,
        foretold_of_text text, note_info]
      exact passed.trans (by rw [having_having])

/-- Whoever waits for the response gets it with the next item that brings no text. -/
theorem pollResponse_of_ending (isOpen : e.channel = some i) (plays : Plays hold i w phase c)
    {x : StreamItem} {xs : List StreamItem} (queue : c.queued = x :: xs)
    {last : Except PairingError PairResponse} (ending : Ending e.version e.session (some x) last)
    (texts : Nat) :
    ∃ w', pollResponse texts e w = (some last, e.having [] none, w') ∧ w'.now = w.now := by
  obtain ⟨w', c', found, now, -⟩ := plays.receive_item queue
  refine ⟨w'.dropReceiver i, ?_, now⟩
  unfold pollResponse
  rw [poll_of_item isOpen found, foretold_of_ending ending, note_last]
  cases last <;> rfl

/-- Whoever waits for the response and finds nothing waits on, unless the channel is closed or the
time is over. -/
theorem pollResponse_of_nothing (isOpen : e.channel = some i) (plays : Plays hold i w phase c)
    (queue : c.queued = []) (texts : Nat) :
    ∃ w', w'.now = w.now ∧ Plays hold i w' phase c ∧
      pollResponse texts e w =
        if phase.isFinished && !hold then
          (some (.error (.transport "stream ended before the terminal frame")), e.having [] none,
            w'.dropReceiver i)
        else if e.deadline ≤ w.now then
          (some (.error .timeout), e.having [] none, w'.dropReceiver i)
        else (none, e, w') := by
  obtain ⟨w', found, now, plays'⟩ := plays.receive_nothing queue
  have closing (cause : PairingError) : e.after (.event (.error cause)) = e.having [] none :=
    e.note_last (.error cause)
  refine ⟨w', now, plays', ?_⟩
  unfold pollResponse
  rw [poll_of_open isOpen, found]
  cases phase.isFinished && !hold with
  | true => simp only [if_true, shows, closing, Sight.isLast]
  | false =>
    by_cases overdue : e.deadline ≤ w.now
    · simp only [Bool.false_eq_true, if_false, shows, if_pos overdue, closing, Sight.isLast, if_true]
    · simp only [Bool.false_eq_true, if_false, shows, if_neg overdue, after, Sight.isLast]

theorem textOf?_of_drop {version : ProtocolVersion} {items xs : List StreamItem} {x : StreamItem}
    (rest : items.drop (leadingTexts version items).length = x :: xs) :
    textOf? version x = none := by
  have none := leadingTexts_drop (Nat.le_refl (leadingTexts version items).length)
  rw [rest, List.drop_length] at none
  cases text : textOf? version x with
  | none => rfl
  | some t =>
    rw [leadingTexts_of_text text] at none
    cases none

end

/-- A stream over a channel that brings what ends it in a given way. -/
private def EndsWith (last : Except PairingError PairResponse) (limit i : Nat) (e : EventStream)
    (future : List StreamItem) : Prop :=
  e.channel = some i ∧ e.deadline = limit ∧
    Ending e.version e.session future[(leadingTexts e.version future).length]? last

private theorem ending_of_drop {version : ProtocolVersion} {session : String}
    {last : Except PairingError PairResponse} {items : List StreamItem} {n : Nat}
    (early : n ≤ (leadingTexts version items).length) :
    Ending version session (items.drop n)[(leadingTexts version (items.drop n)).length]? last ↔
      Ending version session items[(leadingTexts version items).length]? last := by
  rw [leadingTexts_drop early, List.length_drop, List.getElem?_drop, Nat.add_sub_cancel' early]

private theorem response_of_brings (isOpen : e.channel = some i)
    (brings : Brings e.deadline i w past future) {last : Except PairingError PairResponse}
    (ending : Ending e.version e.session future[(leadingTexts e.version future).length]? last) :
    ∃ e' w', e.response w = (last, e', w') ∧ e'.isClosed = true := by
  obtain ⟨phase, c, fed, rfl, rfl⟩ := brings
  have waited := await_fed (fun e w => pollResponse (e.queued w) e w)
    (fun s _ future => EndsWith last e.deadline i s future)
    (fun r s _ => r = last ∧ s.isClosed = true) ?_ fed ⟨isOpen, rfl, ending⟩
  · obtain ⟨r, e', w', found, rfl, closed⟩ := waited
    exact ⟨e', w', by rw [response, found], closed⟩
  · rintro s w₁ phase₁ c₁ fed₁ ⟨isOpen₁, limit, ending₁⟩
    obtain ⟨more, enough⟩ := Nat.exists_eq_add_of_le (length_leadingTexts_le s.version c₁.queued)
    obtain ⟨w₂, c₂, passed, now₂, plays₂, queue₂⟩ :=
      pollResponse_of_texts isOpen₁ fed₁.plays more
    have left : remaining phase₁ c₂ =
        (remaining phase₁ c₁).drop (leadingTexts s.version c₁.queued).length := by
      rw [remaining, remaining, queue₂,
        List.drop_append_of_le_length (length_leadingTexts_le s.version c₁.queued)]
    have ending₂ := (ending_of_drop (length_leadingTexts_le_append s.version c₁.queued
      (sends phase₁.script))).mpr ending₁
    rw [← remaining, ← left] at ending₂
    rw [queued_of_channel isOpen₁ fed₁.channel, enough, passed]
    cases rest : c₂.queued with
    | cons x xs =>
      have last : textOf? s.version x = none := textOf?_of_drop (queue₂.symm.trans rest)
      rw [remaining, rest, List.cons_append, leadingTexts_of_no_text last] at ending₂
      obtain ⟨w₃, found, -⟩ :=
        pollResponse_of_ending (e := s.having (leadingTexts s.version c₁.queued) (some i)) rfl plays₂
          rest ending₂ more
      exact .inl ⟨_, _, w₃, found, rfl, rfl⟩
    | nil =>
      obtain ⟨w₃, now₃, plays₃, found⟩ :=
        pollResponse_of_nothing (e := s.having (leadingTexts s.version c₁.queued) (some i)) rfl
          plays₂ rest more
      rw [found, Bool.not_false, Bool.and_true]
      cases finished : phase₁.isFinished with
      | true =>
        rw [remaining_of_finished finished rest] at ending₂
        cases ending₂ with
        | closed => exact .inl ⟨_, _, _, rfl, rfl, rfl⟩
      | false =>
        right
        have early := fed₁.now_lt finished
        have now : w₃.now = w₁.now := now₃.trans now₂
        rw [deadline_having, limit, now₂, if_neg (Nat.not_le_of_lt early)]
        refine ⟨_, w₃, c₂, rfl, now, rfl, Fed.of_plays plays₃ fun _ => ?_, rest, rfl, limit, ending₂⟩
        rw [now]
        exact fed₁.inTime finished

private theorem payloadAfter_take {e : EventStream} {texts : List String} {n : Nat} {known : String}
    (h : e.payloadAfter (texts.take n) = some known) (more : Nat) :
    e.payloadAfter (texts.take (n + more)) = some known := by
  unfold payloadAfter at h ⊢
  cases opening : e.exchangePayload with
  | some p => rwa [opening] at h
  | none =>
    rw [opening, Option.none_or] at h
    rw [Option.none_or]
    split at h
    · rename_i first
      rw [if_pos first]
      cases n with
      | zero => rw [List.take_zero] at h; cases h
      | succ n =>
        cases texts with
        | nil => rw [List.take_nil] at h; cases h
        | cons t ts => rw [Nat.add_right_comm]; exact h
    · cases h

/-- Whatever comes over a channel before it is closed, a stream that is waited for shows the texts
that come first, then one last event, and then nothing. -/
theorem events_follow_grammar {p : Playback} (quiet : p.feeds = []) {s : ScriptedSession}
    (closes : s.hold = false) (started : w.system = (p.start s).2)
    (isOpen : e.channel = some (p.start s).1) (inTime : w.now + duration s.cues < e.deadline) :
    ∃ last, Grammatical e (p.start s).1 (sends s.cues) w last := by
  have brings := brings_start quiet closes started inTime
  obtain ⟨last, ending, watched⟩ := watch_of_brings isOpen brings
  refine ⟨last, map_textOf?_take _ _, ?_, ending, ending.ok_iff, fun turns => (watched turns).1,
    fun turns => (watched turns).2.1, ?_, ?_, ?_, ?_⟩
  · intro second
    rw [second, leadingTexts_v2]
  · intro turns more known found
    rw [(watched turns).2.1] at found
    rw [(watched (turns + more)).2.1]
    exact payloadAfter_take found more
  · intro turns exhausted
    have left := (watched turns).2.2
    rw [if_neg (Nat.not_le_of_lt exhausted), List.nil_append] at left
    exact left
  · intro turns early
    obtain ⟨-, stream, rest⟩ := watched turns
    rw [if_pos early] at stream rest
    rw [stream]
    refine response_of_brings (e := e.having _ _) rfl rest ?_
    rw [version_having, session_having, leadingTexts_drop early, List.length_drop,
      List.getElem?_drop, Nat.add_sub_cancel' early]
    exact ending
  · intro turns exhausted
    refine response_of_closed ?_
    rw [(watched turns).2.1, if_neg (Nat.not_le_of_lt exhausted)]
    rfl

end EventStream

namespace Sample

/-- A session of the first version with two texts, a frame that cannot be read and one more text. -/
def talkative : ScriptedSession where
  session := "sess-1"
  version := none
  exchangePayload := none
  cues :=
    [.send (.ok (Frame.encode (.info "one"))), .pause 1000, .send (.ok (Frame.encode (.info "two"))),
      .pause 500, .send (.ok [9]), .send (.ok (Frame.encode (.info "three")))]
  hold := false

def stage : Environment Playback := ⟨0, 0, ⟨fun _ _ => 0, 0⟩, (Playback.empty.start talkative).2⟩

def listener : EventStream := ⟨"sess-1", .v1, none, ⟨Key.ofNat 1⟩, some 0, 120000⟩

end Sample

/-- The events of a session that goes wrong after two texts. -/
theorem events_follow_grammar_of_talkative :
    ∃ last, EventStream.Grammatical Sample.listener 0 (sends Sample.talkative.cues) Sample.stage last :=
  EventStream.events_follow_grammar (p := Playback.empty) (s := Sample.talkative) rfl rfl rfl rfl
    (by decide)

end DevicePairing.Client
