import DevicePairing.Proofs.Connection.Cut

set_option autoImplicit false
set_option relaxedAutoImplicit false

/-!
What a new device sees of a connection that may break off. Octets come in segments of any size, the
client reads them as far as it can, and the device looks at its stream, all in any order. However
that goes, and unless the device gives up because nothing came in time, it sees what the whole
conversation would have shown, up to the place where the connection broke off, and then one error of
the connection.
-/

namespace DevicePairing

open DevicePairing.Clock
open DevicePairing.Ed25519 (SecretKey)
open DevicePairing.Session
open DevicePairing.Transport (Playback)

namespace Connection

open DevicePairing.Client (EventStream Sight streamOf throughLast)

/-- A device at the end of a connection. -/
structure Listener where
  config : ClientConfig
  secret : SecretKey
  client : ClientSide
  coming : Bytes
  closes : Bool
  stream : Option EventStream
  taken : Nat
  seen : List (Except PairingError Client.Event)

/-- The stream that a reply opens, which it does only under the version of the device. -/
def streamFor? (config : ClientConfig) (secret : SecretKey) :
    CallMessage → Except PairingError Reply → Option EventStream
  | .pairDevice _, .ok (.opened o) =>
    if o.version = config.version then some (streamOf config secret 0 o 0) else none
  | _, _ => none

/-- What can happen at the end of a connection. -/
inductive Occasion where
  | carry (n : Nat)
  | turn
  /-- The device looks at its stream, if there is one, some milliseconds after it was opened. -/
  | look (time : Nat)

namespace Listener

/-- A device that has just called, and some octets that will come in answer. -/
def dial (config : ClientConfig) (secret : SecretKey) (m : CallMessage) (octets : Bytes)
    (closes : Bool) : Listener :=
  ⟨config, secret, .calling m, octets, closes, none, 0, []⟩

/-- The stream that the reply has opened, if any, as it was before the device looked at it. -/
def opened? (l : Listener) : Option EventStream :=
  l.client.reply.bind (streamFor? l.config l.secret l.client.call)

def current? (l : Listener) : Option EventStream := l.stream.or l.opened?

def channel (l : Listener) : Channel :=
  ⟨8, l.client.items, l.taken, if l.client.isOver then 0 else 1, true⟩

def world (l : Listener) (time : Nat) : Environment Playback :=
  ⟨time, 0, ⟨fun _ _ => 0, 0⟩, ⟨[l.channel], []⟩⟩

def isIdle (l : Listener) : Bool :=
  match (l.channel.receive).1 with
  | .pending => true
  | _ => false

/-- Whether the client has got all that it will ever get. -/
def isDrained (l : Listener) : Bool := l.closes && l.coming.isEmpty

/-- The device after something happened. It does not look when it would only learn that the time for
the response is over. -/
def step (l : Listener) : Occasion → Listener
  | .carry n => { l with client := l.client.push (l.coming.take n), coming := l.coming.drop n }
  | .turn => { l with client := (l.client.step? l.isDrained).getD l.client }
  | .look time =>
    match l.current? with
    | none => l
    | some e =>
      if l.isIdle = true ∧ e.deadline ≤ time then l
      else
        let (sight, e, w) := e.poll (l.world time)
        { l with
          stream := some e
          taken := (w.system.channels.map Channel.taken).headD l.taken
          seen := l.seen ++ sight.event?.toList }

def run (l : Listener) (os : List Occasion) : Listener := os.foldl step l

/-- Nothing more will be seen: the stream has ended, or all octets came, the client cannot go on and
nothing waits in the channel of its stream. -/
inductive Quiet (l : Listener) : Prop where
  | ended (e : EventStream) (current : l.current? = some e) (closed : e.channel = none)
  | drained (coming : l.coming = []) (client : l.client.step? l.closes = none)
      (nothing : ∀ e, l.current? = some e → l.isIdle = true)

/-! ### One look -/

section

variable {l : Listener} {e : EventStream} {time : Nat}

private theorem isIdle_iff : l.isIdle = true ↔
    l.client.items.length ≤ l.taken ∧ l.client.isOver = false := by
  have queue : l.channel.queued = [] ↔ l.client.items.length ≤ l.taken := List.drop_eq_nil_iff
  rw [← queue, isIdle, Channel.receive]
  cases l.channel.queued with
  | cons x xs => simp
  | nil => cases stopped : l.client.isOver <;> simp [channel, stopped]

private theorem not_isIdle_of_item {x : StreamItem} (next : l.client.items[l.taken]? = some x) :
    ¬ l.isIdle = true := fun idle =>
  Nat.not_le_of_lt (List.getElem?_eq_some_iff.mp next).1 (isIdle_iff.mp idle).1

private theorem not_isIdle_of_isOver (stopped : l.client.isOver = true) : ¬ l.isIdle = true := by
  intro idle
  rw [(isIdle_iff.mp idle).2] at stopped
  cases stopped

private theorem look_of_open (current : l.current? = some e) (isOpen : e.channel = some 0)
    (time : Nat) (early : ¬ (l.isIdle = true ∧ e.deadline ≤ time)) :
    l.step (.look time) = { l with
      stream := some (e.after (e.shows time (l.channel.receive).1))
      taken := (l.channel.receive).2.taken
      seen := l.seen ++ (e.shows time (l.channel.receive).1).event?.toList } := by
  have found : (l.world time).receive 0 =
      ((l.channel.receive).1, (l.world time).withSystem ⟨[(l.channel.receive).2], []⟩) := rfl
  have polled := EventStream.poll_of_open isOpen (l.world time)
  rw [found] at polled
  simp only [step, current, if_neg early, polled]
  cases (e.shows (l.world time).now (l.channel.receive).1).isLast <;> rfl

private theorem look_of_item (current : l.current? = some e) (isOpen : e.channel = some 0)
    {x : StreamItem} (next : l.client.items[l.taken]? = some x) :
    l.step (.look time) = { l with
      stream := some (e.note (e.foretold (some x)))
      taken := l.taken + 1
      seen := l.seen ++ [e.foretold (some x)] } := by
  have found : l.channel.receive = (.item x, { l.channel with taken := l.taken + 1 }) :=
    Channel.receive_of_next (c := l.channel) next
  have looked := look_of_open current isOpen time
    fun late => not_isIdle_of_item next late.1
  rw [found] at looked
  exact looked

private theorem look_of_end (current : l.current? = some e) (isOpen : e.channel = some 0)
    (empty : l.client.items.length ≤ l.taken) (stopped : l.client.isOver = true) :
    l.step (.look time) = { l with
      stream := some (e.note (e.foretold none))
      seen := l.seen ++ [e.foretold none] } := by
  have found : l.channel.receive = (.closed, l.channel) := by
    have queue : l.channel.queued = [] := List.drop_eq_nil_of_le empty
    rw [Channel.receive, queue]
    simp only [channel, stopped, if_true]
  have looked := look_of_open current isOpen time
    fun late => not_isIdle_of_isOver stopped late.1
  rw [found] at looked
  exact looked

private theorem look_of_nothing (current : l.current? = some e) (isOpen : e.channel = some 0)
    (early : time < e.deadline) (empty : l.client.items.length ≤ l.taken)
    (going : l.client.isOver = false) : l.step (.look time) = { l with stream := some e } := by
  have found : l.channel.receive = (.pending, l.channel) := by
    have queue : l.channel.queued = [] := List.drop_eq_nil_of_le empty
    rw [Channel.receive, queue]
    simp only [channel, going, Bool.false_eq_true, if_false, Nat.one_ne_zero]
  have looked := look_of_open current isOpen time fun late => Nat.not_le_of_lt early late.2
  rw [found, EventStream.shows, if_neg (Nat.not_le_of_lt early)] at looked
  refine looked.trans ?_
  simp only [Sight.event?, Option.toList_none, List.append_nil]
  rfl

private theorem look_of_closed (current : l.current? = some e) (closed : e.channel = none)
    (early : ¬ (l.isIdle = true ∧ e.deadline ≤ time)) :
    l.step (.look time) = { l with stream := some e } := by
  simp only [step, current, if_neg early, EventStream.poll_of_closed closed, Sight.event?,
    Option.toList_none, List.append_nil]
  rfl

end

/-! ### What was seen -/

/-- How far a device has come with the items of its channel, `e` being its stream and `e₀` the
stream as it was opened. -/
inductive View (e₀ : EventStream) (items : List StreamItem) (stopped : Bool) (taken : Nat)
    (seen : List (Except PairingError Client.Event)) (e : EventStream) : Prop where
  /-- The device saw some items, none of which ends the stream. -/
  | watching (isOpen : e.channel = some 0) (inside : taken ≤ items.length)
      (shown : seen = (items.take taken).map fun x => e₀.foretold (some x))
      (going : ∀ x ∈ seen, (Sight.event x).isLast = false)
  | ended (closed : e.channel = none) (before : List (Except PairingError Client.Event))
      (x : Except PairingError Client.Event) (split : seen = before ++ [x])
      (going : ∀ y ∈ before, (Sight.event y).isLast = false)
      (last : (Sight.event x).isLast = true) (shown : seen <+: e₀.outlook items stopped)

namespace View

variable {e₀ e : EventStream} {items : List StreamItem} {stopped : Bool} {taken : Nat}
  {seen : List (Except PairingError Client.Event)}

theorem more (h : View e₀ items false taken seen e) (added : List StreamItem) (stopped : Bool) :
    View e₀ (items ++ added) stopped taken seen e := by
  cases h with
  | watching isOpen inside shown going =>
    refine .watching isOpen ?_ ?_ going
    · rw [List.length_append]
      exact Nat.le_add_right_of_le inside
    · rw [List.take_append_of_le_length inside, shown]
  | ended closed before x split going last shown =>
    refine .ended closed before x split going last (shown.trans ?_)
    rw [EventStream.outlook, EventStream.outlook, List.map_append, List.append_assoc,
      if_neg Bool.false_ne_true, List.append_nil]
    exact List.prefix_append _ _

private theorem prefix_outlook (h : View e₀ items stopped taken seen e) :
    throughLast seen = seen ∧ seen <+: e₀.outlook items stopped := by
  cases h with
  | watching isOpen inside shown going =>
    refine ⟨Client.throughLast_eq_self going, ?_⟩
    rw [shown, EventStream.outlook]
    exact ((List.take_prefix taken items).map _).trans (List.prefix_append _ _)
  | ended closed before x split going last shown =>
    refine ⟨?_, shown⟩
    rw [split]
    exact Client.throughLast_eq_of_prefix going last List.prefix_rfl

private theorem all_of_closed (h : View e₀ items stopped taken seen e) (closed : e.channel = none)
    {all : List (Except PairingError Client.Event)} (begins : seen <+: throughLast all) :
    throughLast all = seen := by
  cases h with
  | watching isOpen =>
    rw [closed] at isOpen
    cases isOpen
  | ended closed before x split going last shown =>
    rw [split] at begins ⊢
    rw [← Client.throughLast_throughLast]
    exact Client.throughLast_eq_of_prefix going last begins

end View

/-- The stream of a device that listens is as far as the device has come with it. -/
structure Follows (l : Listener) (e₀ e : EventStream) : Prop where
  current : l.current? = some e
  version : e.version = e₀.version
  session : e.session = e₀.session
  view : View e₀ l.client.items l.client.isOver l.taken l.seen e

/-- A device listens to the first `n` octets of a conversation. -/
structure Listens (config : ClientConfig) (secret : SecretKey) (m : CallMessage) (c : Conversation)
    (n : Nat) (closes : Bool) (l : Listener) : Prop where
  config_eq : l.config = config
  secret_eq : l.secret = secret
  closes_eq : l.closes = closes
  call_eq : l.client.call = m
  attends : Attends c n closes l.coming l.client
  idle : l.opened? = none → l.stream = none ∧ l.taken = 0 ∧ l.seen = []
  follows : ∀ e₀, l.opened? = some e₀ → ∃ e, l.Follows e₀ e

end Listener

private theorem streamFor?_eq_some {config : ClientConfig} {secret : SecretKey} {m : CallMessage}
    {r : Except PairingError Reply} {e : EventStream} (h : streamFor? config secret m r = some e) :
    m.streams r = true ∧ e.channel = some 0 := by
  unfold streamFor? at h
  split at h
  · split at h
    · obtain rfl := Option.some.inj h
      exact ⟨rfl, rfl⟩
    · cases h
  · cases h

namespace Listener

namespace Listens

variable {config : ClientConfig} {secret : SecretKey} {m : CallMessage} {c : Conversation} {n : Nat}
  {closes : Bool} {l : Listener}

private theorem dial (config : ClientConfig) (secret : SecretKey) (m : CallMessage)
    (fits : ∀ content ∈ c.contents, Fits content) (n : Nat) (closes : Bool) :
    Listens config secret m c n closes (.dial config secret m (c.octets.take n) closes) :=
  ⟨rfl, rfl, rfl, rfl, .calling fits m, fun _ => ⟨rfl, rfl, rfl⟩, fun e₀ none => by cases none⟩

private theorem carry (h : Listens config secret m c n closes l) (k : Nat) :
    Listens config secret m c n closes (l.step (.carry k)) :=
  ⟨h.config_eq, h.secret_eq, h.closes_eq, h.call_eq, h.attends.push k, h.idle, fun e₀ opened =>
    have ⟨e, follows⟩ := h.follows e₀ opened
    ⟨e, follows.current, follows.version, follows.session, follows.view⟩⟩

private theorem turn (h : Listens config secret m c n closes l)
    (fits : ∀ content ∈ c.contents, Fits content) :
    Listens config secret m c n closes (l.step .turn) := by
  have last : l.isDrained = true → l.coming = [] ∧ closes = true := by
    intro drained
    rw [isDrained, Bool.and_eq_true, List.isEmpty_iff, h.closes_eq] at drained
    exact drained.symm
  have attends := h.attends.step fits last
  cases turned : l.client.step? l.isDrained with
  | none =>
    have same : l.step .turn = l := by simp only [step, turned, Option.getD_none]
    rw [same]
    exact h
  | some client =>
    have next : l.step .turn = { l with client := client } := by
      simp only [step, turned, Option.getD_some]
    rw [turned, Option.getD_some] at attends
    obtain ⟨going, call, heard⟩ := ClientSide.step?_eq_some turned
    rw [next]
    rcases heard with ⟨unreplied, -, items⟩ | ⟨-, reply, added, items, -⟩
    · -- the reply opens the stream, or there is none
      have closed : l.opened? = none := by rw [opened?, unreplied, Option.bind_none]
      obtain ⟨stream, taken, seen⟩ := h.idle closed
      refine ⟨h.config_eq, h.secret_eq, h.closes_eq, call.trans h.call_eq, attends,
        fun _ => ⟨stream, taken, seen⟩, fun e₀ opened => ⟨e₀, ?_, rfl, rfl, ?_⟩⟩
      · rw [current?, opened]
        simp only [stream, Option.none_or]
      · obtain ⟨r, -, for_r⟩ := Option.bind_eq_some_iff.mp opened
        simp only [taken, seen]
        exact .watching (streamFor?_eq_some for_r).2 (Nat.zero_le _) rfl nofun
    · have same : ({ l with client := client } : Listener).opened? = l.opened? := by
        simp only [opened?, reply, call]
      refine ⟨h.config_eq, h.secret_eq, h.closes_eq, call.trans h.call_eq, attends, ?_, ?_⟩
      · rw [same]
        exact h.idle
      · rw [same]
        intro e₀ opened
        obtain ⟨e, follows⟩ := h.follows e₀ opened
        refine ⟨e, ?_, follows.version, follows.session, ?_⟩
        · rw [current?, same]
          exact follows.current
        · have view := follows.view
          rw [going] at view
          simp only [items]
          exact view.more added client.isOver

private theorem follows_of_event {e₀ e : EventStream} {x : Except PairingError Client.Event}
    {taken : Nat} (follows : l.Follows e₀ e) (isOpen : e.channel = some 0)
    (inside : taken ≤ l.client.items.length)
    (begins : l.seen ++ [x] <+: e₀.outlook l.client.items l.client.isOver)
    (shown : (Sight.event x).isLast = false →
      l.seen ++ [x] = (l.client.items.take taken).map fun x => e₀.foretold (some x))
    (going : ∀ y ∈ l.seen, (Sight.event y).isLast = false) :
    ({ l with stream := some (e.note x), taken := taken, seen := l.seen ++ [x] } : Listener).Follows e₀
      (e.note x) := by
  have version := e.version_after (.event x)
  have session := e.session_after (.event x)
  have channel := e.channel_after (.event x)
  refine ⟨rfl, version.trans follows.version, session.trans follows.session, ?_⟩
  cases last : (Sight.event x).isLast with
  | true =>
    rw [last, if_pos rfl] at channel
    exact .ended channel l.seen x rfl going last begins
  | false =>
    rw [last, if_neg Bool.false_ne_true, isOpen] at channel
    refine .watching channel inside (shown last) fun y member => ?_
    rcases List.mem_append.mp member with old | new
    · exact going y old
    · rwa [List.mem_singleton.mp new]

private theorem follows_of_item {e₀ e : EventStream} (follows : l.Follows e₀ e)
    (isOpen : e.channel = some 0)
    (shown : l.seen = (l.client.items.take l.taken).map fun x => e₀.foretold (some x))
    (going : ∀ y ∈ l.seen, (Sight.event y).isLast = false) {x : StreamItem}
    (next : l.client.items[l.taken]? = some x) (time : Nat) :
    ∃ e', (l.step (.look time)).Follows e₀ e' := by
  have same : e.foretold = e₀.foretold := EventStream.foretold_congr follows.version follows.session
  have all : l.seen ++ [e.foretold (some x)] =
      (l.client.items.take (l.taken + 1)).map fun x => e₀.foretold (some x) := by
    rw [List.take_add_one, next, List.map_append, shown, same]
    rfl
  obtain ⟨inside, -⟩ := List.getElem?_eq_some_iff.mp next
  rw [look_of_item follows.current isOpen next]
  refine ⟨_, follows_of_event follows isOpen inside ?_ (fun _ => all) going⟩
  rw [all, EventStream.outlook]
  exact ((List.take_prefix _ _).map _).trans (List.prefix_append _ _)

private theorem follows_of_end {e₀ e : EventStream} (follows : l.Follows e₀ e)
    (isOpen : e.channel = some 0) (inside : l.taken ≤ l.client.items.length)
    (shown : l.seen = (l.client.items.take l.taken).map fun x => e₀.foretold (some x))
    (going : ∀ y ∈ l.seen, (Sight.event y).isLast = false) (empty : l.client.items.length ≤ l.taken)
    (stopped : l.client.isOver = true) (time : Nat) :
    ∃ e', (l.step (.look time)).Follows e₀ e' := by
  have same : e.foretold = e₀.foretold := EventStream.foretold_congr follows.version follows.session
  have all : l.seen ++ [e.foretold none] = e₀.outlook l.client.items l.client.isOver := by
    rw [shown, List.take_of_length_le empty, same, EventStream.outlook, stopped, if_pos rfl]
  rw [look_of_end follows.current isOpen empty stopped]
  exact ⟨_, follows_of_event follows isOpen inside (all ▸ List.prefix_rfl)
    (fun notLast => by cases notLast) going⟩

private theorem look (h : Listens config secret m c n closes l) (time : Nat) :
    Listens config secret m c n closes (l.step (.look time)) := by
  have still : ∀ stream taken seen,
      (∀ e₀, l.opened? = some e₀ → ∃ e,
        ({ l with stream := stream, taken := taken, seen := seen } : Listener).Follows e₀ e) →
      l.opened? ≠ none →
      Listens config secret m c n closes { l with stream := stream, taken := taken, seen := seen } :=
    fun _ _ _ follows opened => ⟨h.config_eq, h.secret_eq, h.closes_eq, h.call_eq, h.attends,
      fun none => absurd none opened, follows⟩
  cases opened : l.opened? with
  | none =>
    have closed : l.current? = none := by rw [current?, opened, (h.idle opened).1]; rfl
    have same : l.step (.look time) = l := by simp only [step, closed]
    rw [same]
    exact h
  | some e₀ =>
    obtain ⟨e, follows⟩ := h.follows e₀ opened
    by_cases late : l.isIdle = true ∧ e.deadline ≤ time
    · have same : l.step (.look time) = l := by simp only [step, follows.current, if_pos late]
      rw [same]
      exact h
    have changed : ∃ stream taken seen,
        l.step (.look time) = { l with stream := stream, taken := taken, seen := seen } := by
      simp only [step, follows.current, if_neg late]
      exact ⟨_, _, _, rfl⟩
    have followed : ∃ e', (l.step (.look time)).Follows e₀ e' := by
      have view := follows.view
      cases view with
      | watching isOpen inside shown going =>
        cases next : l.client.items[l.taken]? with
        | some x => exact follows_of_item follows isOpen shown going next time
        | none =>
          have empty := List.getElem?_eq_none_iff.mp next
          cases stopped : l.client.isOver with
          | true => exact follows_of_end follows isOpen inside shown going empty stopped time
          | false =>
            have early : time < e.deadline :=
              Nat.lt_of_not_le fun overdue => late ⟨isIdle_iff.mpr ⟨empty, stopped⟩, overdue⟩
            rw [look_of_nothing follows.current isOpen early empty stopped]
            exact ⟨e, rfl, follows.version, follows.session, follows.view⟩
      | ended closed =>
        rw [look_of_closed follows.current closed late]
        exact ⟨e, rfl, follows.version, follows.session, follows.view⟩
    obtain ⟨stream, taken, seen, changed⟩ := changed
    rw [changed] at followed ⊢
    refine still stream taken seen (fun e₁ opened₁ => ?_) (by rw [opened]; exact Option.some_ne_none e₀)
    obtain rfl := Option.some.inj (opened.symm.trans opened₁)
    exact followed

private theorem step (h : Listens config secret m c n closes l)
    (fits : ∀ content ∈ c.contents, Fits content) (o : Occasion) :
    Listens config secret m c n closes (l.step o) := by
  cases o with
  | carry k => exact h.carry k
  | turn => exact h.turn fits
  | look time => exact h.look time

private theorem run (h : Listens config secret m c n closes l)
    (fits : ∀ content ∈ c.contents, Fits content) (os : List Occasion) :
    Listens config secret m c n closes (l.run os) := by
  induction os generalizing l with
  | nil => exact h
  | cons o os ih => exact ih (h.step fits o)

end Listens

end Listener

/-! ### What will be seen -/

namespace Conversation

/-- The events of a stream of which the records among the first `n` octets come, and after them the
connection is closed or nothing more comes. -/
def eventsAfter (config : ClientConfig) (secret : SecretKey) (m : CallMessage) (c : Conversation)
    (n : Nat) (closes : Bool) : List (Except PairingError Client.Event) :=
  match (c.replyAfter n closes).bind (streamFor? config secret m) with
  | some e => throughLast (c.outlookAfter e n closes)
  | none => []

end Conversation

namespace Listener

structure Sees (config : ClientConfig) (secret : SecretKey) (m : CallMessage) (c : Conversation)
    (n : Nat) (closes : Bool) (l : Listener) : Prop where
  reply : ∀ r, l.client.reply = some r → c.replyAfter n closes = some r
  events : l.seen <+: c.eventsAfter config secret m n closes
  all : l.Quiet → l.client.reply = c.replyAfter n closes ∧
    l.seen = c.eventsAfter config secret m n closes
  ends : ∃ os, (l.run os).Quiet

namespace Listens

variable {config : ClientConfig} {secret : SecretKey} {m : CallMessage} {c : Conversation} {n : Nat}
  {closes : Bool} {l : Listener}

private theorem exists_opened (h : Listens config secret m c n closes l) {e : EventStream}
    (current : l.current? = some e) : ∃ e₀, l.opened? = some e₀ ∧ l.Follows e₀ e := by
  cases opened : l.opened? with
  | none =>
    rw [current?, opened, (h.idle opened).1] at current
    cases current
  | some e₀ =>
    obtain ⟨e', follows⟩ := h.follows e₀ opened
    obtain rfl := Option.some.inj (current.symm.trans follows.current)
    exact ⟨e₀, rfl, follows⟩

private theorem eventsAfter_eq (h : Listens config secret m c n closes l) {e₀ : EventStream}
    (opened : l.opened? = some e₀) :
    (∃ r, l.client.reply = some r ∧ l.client.call.streams r = true) ∧
      c.eventsAfter config secret m n closes = throughLast (c.outlookAfter e₀ n closes) := by
  obtain ⟨r, replied, for_r⟩ := Option.bind_eq_some_iff.mp opened
  refine ⟨⟨r, replied, (streamFor?_eq_some for_r).1⟩, ?_⟩
  rw [h.config_eq, h.secret_eq, h.call_eq] at for_r
  rw [Conversation.eventsAfter, h.attends.reply replied, Option.bind_some, for_r]

private theorem events (h : Listens config secret m c n closes l) :
    l.seen <+: c.eventsAfter config secret m n closes := by
  cases opened : l.opened? with
  | none =>
    rw [(h.idle opened).2.2]
    exact List.nil_prefix
  | some e₀ =>
    obtain ⟨⟨r, replied, streams⟩, same⟩ := h.eventsAfter_eq opened
    obtain ⟨e, follows⟩ := h.follows e₀ opened
    obtain ⟨counts, begins⟩ := follows.view.prefix_outlook
    rw [same, ← counts]
    exact (Client.throughLast_mono begins).trans (h.attends.outlook replied streams e₀)

private theorem all_of_ended (h : Listens config secret m c n closes l) {e : EventStream}
    (current : l.current? = some e) (closed : e.channel = none) :
    l.client.reply = c.replyAfter n closes ∧ l.seen = c.eventsAfter config secret m n closes := by
  obtain ⟨e₀, opened, follows⟩ := h.exists_opened current
  obtain ⟨⟨r, replied, -⟩, same⟩ := h.eventsAfter_eq opened
  have begins := h.events
  rw [same] at begins ⊢
  exact ⟨by rw [replied, h.attends.reply replied], (follows.view.all_of_closed closed begins).symm⟩

private theorem all_of_drained (h : Listens config secret m c n closes l)
    (fits : ∀ content ∈ c.contents, Fits content) (coming : l.coming = [])
    (client : l.client.step? l.closes = none)
    (nothing : ∀ e, l.current? = some e → l.isIdle = true) :
    l.client.reply = c.replyAfter n closes ∧ l.seen = c.eventsAfter config secret m n closes := by
  have attends := h.attends
  rw [coming] at attends
  rw [h.closes_eq] at client
  obtain ⟨reply, outlook⟩ := attends.settled fits client
  refine ⟨reply, ?_⟩
  cases opened : l.opened? with
  | none =>
    rw [opened?, h.config_eq, h.secret_eq, h.call_eq, reply] at opened
    rw [(h.idle ?_).2.2, Conversation.eventsAfter, opened]
    rw [opened?, h.config_eq, h.secret_eq, h.call_eq, reply, opened]
  | some e₀ =>
    obtain ⟨⟨r, replied, streams⟩, same⟩ := h.eventsAfter_eq opened
    obtain ⟨e, follows⟩ := h.follows e₀ opened
    rw [same, ← outlook r replied streams e₀]
    have view := follows.view
    cases view with
    | ended closed before x split going last shown =>
      rw [split] at shown ⊢
      exact (Client.throughLast_eq_of_prefix going last shown).symm
    | watching isOpen inside shown going =>
      obtain ⟨empty, going_on⟩ := isIdle_iff.mp (nothing e follows.current)
      rw [EventStream.outlook, going_on, if_neg Bool.false_ne_true, List.append_nil]
      rw [List.take_of_length_le empty] at shown
      rw [← shown, Client.throughLast_eq_self going]

/-- A bound for how much can still happen, where `items` items and `events` events can come. -/
private def ahead (items events : Nat) (l : Listener) : Nat :=
  l.coming.length + (if l.client.reply.isNone then 1 else 0) + (items - l.client.items.length) +
    (if l.client.isOver then 0 else 1) + (events - l.seen.length)

private theorem ahead_carry {items events : Nat} (more : l.coming ≠ []) :
    ahead items events (l.step (.carry l.coming.length)) < ahead items events l := by
  have some := List.length_pos_iff.mpr more
  simp only [ahead, Listener.step, ClientSide.push, List.drop_length, List.length_nil]
  omega

private theorem ahead_turn {items events : Nat} {client : ClientSide}
    (turned : l.client.step? l.isDrained = some client) (few : client.items.length ≤ items) :
    ahead items events (l.step .turn) < ahead items events l := by
  have next : l.step .turn = { l with client := client } := by
    simp only [Listener.step, turned, Option.getD_some]
  obtain ⟨going, -, heard⟩ := ClientSide.step?_eq_some turned
  rw [next]
  simp only [ahead, going, Bool.false_eq_true, if_false]
  rcases heard with ⟨unreplied, replied, same⟩ | ⟨-, reply, added, same, stops⟩
  · have nowReplied : client.reply.isNone = false := by
      cases reply : client.reply with
      | none => exact absurd reply replied
      | some r => rfl
    rw [unreplied, nowReplied, same]
    simp only [Option.isNone_none, if_true, Bool.false_eq_true, if_false]
    split <;> omega
  · rw [same, List.length_append] at few
    rw [reply, same, List.length_append]
    cases added with
    | nil =>
      rw [stops rfl, List.length_nil, if_pos rfl]
      omega
    | cons x xs =>
      rw [List.length_cons] at few ⊢
      split <;> split <;> omega

private theorem ahead_look {items events : Nat} {e : EventStream} (current : l.current? = some e)
    (isOpen : e.channel = some 0) (busy : ¬ l.isIdle = true)
    (few : (l.step (.look 0)).seen.length ≤ events) :
    ahead items events (l.step (.look 0)) < ahead items events l := by
  have shown : ∃ stream taken x, l.step (.look 0) =
      { l with stream := stream, taken := taken, seen := l.seen ++ [x] } := by
    cases next : l.client.items[l.taken]? with
    | some x => exact ⟨_, _, _, look_of_item current isOpen next⟩
    | none =>
      have empty := List.getElem?_eq_none_iff.mp next
      cases stopped : l.client.isOver with
      | true => exact ⟨_, _, _, look_of_end current isOpen empty stopped⟩
      | false => exact absurd (isIdle_iff.mpr ⟨empty, stopped⟩) busy
  obtain ⟨stream, taken, x, shown⟩ := shown
  rw [shown] at few ⊢
  simp only [ahead, List.length_append, List.length_singleton] at few ⊢
  omega

private theorem exists_nearer (h : Listens config secret m c n closes l)
    (fits : ∀ content ∈ c.contents, Fits content) (restless : ¬ l.Quiet) : ∃ o,
      ahead ((c.told n).length + 1) (c.eventsAfter config secret m n closes).length (l.step o) <
        ahead ((c.told n).length + 1) (c.eventsAfter config secret m n closes).length l := by
  by_cases coming : l.coming = []
  · cases turned : l.client.step? l.closes with
    | some client =>
      have drained : l.isDrained = l.closes := by
        rw [isDrained, coming, List.isEmpty_nil, Bool.and_true]
      rw [← drained] at turned
      have next := (h.step fits .turn).attends.length_items_le
      simp only [Listener.step, turned, Option.getD_some] at next
      exact ⟨.turn, ahead_turn turned next⟩
    | none =>
      have visible : ∃ e, l.current? = some e ∧ ¬ l.isIdle = true := by
        by_contra none
        refine restless (.drained coming turned fun e current => ?_)
        by_contra busy
        exact none ⟨e, current, busy⟩
      obtain ⟨e, current, busy⟩ := visible
      have isOpen : e.channel = some 0 := by
        obtain ⟨e₀, -, follows⟩ := h.exists_opened current
        cases follows.view with
        | watching isOpen => exact isOpen
        | ended closed => exact absurd (.ended e current closed) restless
      exact ⟨.look 0, ahead_look current isOpen busy (h.step fits (.look 0)).events.length_le⟩
  · exact ⟨.carry l.coming.length, ahead_carry coming⟩

private theorem ends (h : Listens config secret m c n closes l)
    (fits : ∀ content ∈ c.contents, Fits content) :
    ∃ os, (l.run os).Quiet := by
  generalize bound : ahead ((c.told n).length + 1)
    (c.eventsAfter config secret m n closes).length l = k
  induction k using Nat.strongRecOn generalizing l with
  | ind k ih =>
    by_cases quiet : l.Quiet
    · exact ⟨[], quiet⟩
    · obtain ⟨o, nearer⟩ := h.exists_nearer fits quiet
      rw [bound] at nearer
      obtain ⟨os, done⟩ := ih _ nearer (h.step fits o) rfl
      exact ⟨o :: os, done⟩

private theorem sees (h : Listens config secret m c n closes l)
    (fits : ∀ content ∈ c.contents, Fits content) :
    Sees config secret m c n closes l := by
  refine ⟨fun r replied => h.attends.reply replied, h.events, fun quiet => ?_, h.ends fits⟩
  cases quiet with
  | ended e current closed => exact h.all_of_ended current closed
  | drained coming client nothing => exact h.all_of_drained fits coming client nothing

end Listens

end Listener

/-! ### Where a conversation breaks off -/

namespace Conversation

variable {config : ClientConfig} {secret : SecretKey} {m : CallMessage} {c : Conversation} {n : Nat}

/-- The events of the whole conversation, after which the connection is closed or nothing more
comes. -/
def events (config : ClientConfig) (secret : SecretKey) (m : CallMessage) (c : Conversation)
    (closes : Bool) : List (Except PairingError Client.Event) :=
  match streamFor? config secret m c.reply.received with
  | some e =>
    throughLast (c.records.map (fun r => e.foretold (some r.item)) ++
      if closes then [e.foretold none] else [])
  | none => []

/-- Nothing is forged by the first `n` octets of a conversation. -/
structure Unforged (config : ClientConfig) (secret : SecretKey) (m : CallMessage) (c : Conversation)
    (n : Nat) : Prop where
  /-- A call whose reply is cut comes to an error of the connection, or to nothing. -/
  unanswered : n < 4 + (Reply.codec.write c.reply).length →
    (∃ detail, c.replyAfter n true = some (.error (.transport detail))) ∧
      c.replyAfter n false = none ∧ ∀ closes, c.eventsAfter config secret m n closes = []
  answered : 4 + (Reply.codec.write c.reply).length ≤ n →
    ∀ closes, c.replyAfter n closes = some c.reply.received
  whole : c.octets.length ≤ n →
    ∀ closes, c.eventsAfter config secret m n closes = c.events config secret m closes
  decided : ∀ e, streamFor? config secret m c.reply.received = some e →
    (∃ r ∈ c.told n, (Sight.event (e.foretold (some r.item))).isLast = true) →
    ∀ closes, c.eventsAfter config secret m n closes = c.events config secret m closes
  /-- Any others show the events of the whole records, which come first in the whole conversation,
  and then one error of the connection. -/
  undecided : ∀ e, streamFor? config secret m c.reply.received = some e →
    4 + (Reply.codec.write c.reply).length ≤ n →
    (∀ r ∈ c.told n, (Sight.event (e.foretold (some r.item))).isLast = false) →
    (c.told n).map (fun r => e.foretold (some r.item)) <+: c.events config secret m true ∧
      ∃ detail, c.eventsAfter config secret m n true =
        (c.told n).map (fun r => e.foretold (some r.item)) ++ [.error (.transport detail)]
  /-- So in every place there is what the whole conversation would have shown there, or an error of
  the connection, after which a new attempt may succeed. -/
  place : ∀ (j : Nat) (x : Except PairingError Client.Event),
    (c.eventsAfter config secret m n true)[j]? = some x →
    (c.events config secret m true)[j]? = some x ∨
      ∃ detail, x = .error (.transport detail) ∧ (PairingError.transport detail).isRetryable = true

private theorem wholeRecords_pos (whole : 4 + (Reply.codec.write c.reply).length ≤ n) :
    0 < wholeRecords n c.contents := wholeRecords_pos_iff.mpr whole

private theorem replyAfter_of_whole (whole : 0 < wholeRecords n c.contents) (closes : Bool) :
    c.replyAfter n closes = some c.reply.received := if_pos whole

private theorem eventsAfter_of_whole {e : EventStream}
    (opens : streamFor? config secret m c.reply.received = some e)
    (whole : 0 < wholeRecords n c.contents) (closes : Bool) :
    c.eventsAfter config secret m n closes = throughLast (c.outlookAfter e n closes) := by
  rw [eventsAfter, replyAfter_of_whole whole, Option.bind_some, opens]

private theorem unanswered (cut : n < 4 + (Reply.codec.write c.reply).length) :
    (∃ detail, c.replyAfter n true = some (.error (.transport detail))) ∧
      c.replyAfter n false = none ∧ ∀ closes, c.eventsAfter config secret m n closes = [] := by
  have none : ¬ 0 < wholeRecords n c.contents :=
    fun some => Nat.not_le_of_lt cut (wholeRecords_pos_iff.mp some)
  have failed : c.replyAfter n true =
      some (.error (brokenOff (leftOver n c.contents) "connection closed before reply")) := by
    rw [replyAfter, if_neg none, if_pos rfl]
  have pending : c.replyAfter n false = Option.none := by
    rw [replyAfter, if_neg none]
    rfl
  refine ⟨⟨_, failed⟩, pending, fun closes => ?_⟩
  cases closes with
  | false => rw [eventsAfter, pending, Option.bind_none]
  | true =>
    have silent : ∀ cause, streamFor? config secret m (.error cause) = Option.none := by
      intro cause
      cases m <;> rfl
    rw [eventsAfter, failed, Option.bind_some, silent]

private theorem told_of_le (all : c.octets.length ≤ n) :
    c.told n = c.records ∧ 0 < wholeRecords n c.contents ∧ leftOver n c.contents = [] := by
  obtain ⟨count, left⟩ := wholeRecords_of_le all
  have length : c.contents.length = c.records.length + 1 := by
    rw [contents, List.length_cons, List.length_map]
  refine ⟨?_, by omega, left⟩
  rw [told, count, length, Nat.add_sub_cancel, List.take_length]

private theorem whole_events (all : c.octets.length ≤ n) (closes : Bool) :
    c.eventsAfter config secret m n closes = c.events config secret m closes := by
  obtain ⟨told, whole, left⟩ := told_of_le all
  rw [events]
  cases opens : streamFor? config secret m c.reply.received with
  | none => rw [eventsAfter, replyAfter_of_whole whole, Option.bind_some, opens]
  | some e =>
    rw [eventsAfter_of_whole opens whole, outlookAfter, told, left]
    rfl

private theorem map_told_prefix (c : Conversation) (n : Nat) (e : EventStream) :
    (c.told n).map (fun r => e.foretold (some r.item)) <+:
      c.records.map fun r => e.foretold (some r.item) :=
  (List.take_prefix _ _).map _

private theorem decided {e : EventStream}
    (opens : streamFor? config secret m c.reply.received = some e)
    (last : ∃ r ∈ c.told n, (Sight.event (e.foretold (some r.item))).isLast = true)
    (closes : Bool) : c.eventsAfter config secret m n closes = c.events config secret m closes := by
  obtain ⟨r, member, last⟩ := last
  have whole : 0 < wholeRecords n c.contents := by
    refine Nat.pos_of_ne_zero fun zero => ?_
    rw [told, zero] at member
    cases member
  obtain ⟨more, records⟩ := c.map_told_prefix n e
  obtain ⟨before, after, split⟩ := List.append_of_mem (List.mem_map_of_mem member)
  rw [eventsAfter_of_whole opens whole, events, opens]
  simp only
  rw [outlookAfter, ← records, split, List.append_assoc, List.append_assoc, List.append_assoc,
    List.cons_append, List.cons_append]
  exact Client.throughLast_of_last last _ _ _

private theorem undecided {e : EventStream}
    (opens : streamFor? config secret m c.reply.received = some e)
    (whole : 4 + (Reply.codec.write c.reply).length ≤ n)
    (going : ∀ r ∈ c.told n, (Sight.event (e.foretold (some r.item))).isLast = false) :
    (c.told n).map (fun r => e.foretold (some r.item)) <+: c.events config secret m true ∧
      ∃ detail, c.eventsAfter config secret m n true =
        (c.told n).map (fun r => e.foretold (some r.item)) ++ [.error (.transport detail)] := by
  have going' : ∀ x ∈ (c.told n).map fun r => e.foretold (some r.item),
      (Sight.event x).isLast = false := by
    intro x member
    obtain ⟨r, here, rfl⟩ := List.mem_map.mp member
    exact going r here
  have begins := Client.throughLast_mono ((c.map_told_prefix n e).trans
    (List.prefix_append _ [e.foretold none]))
  rw [Client.throughLast_eq_self going'] at begins
  have shown : c.eventsAfter config secret m n true =
      (c.told n).map (fun r => e.foretold (some r.item)) ++
        [.error (brokenOff (leftOver n c.contents) "stream ended before the terminal frame")] := by
    rw [eventsAfter_of_whole opens (wholeRecords_pos whole), outlookAfter, if_pos rfl,
      Client.throughLast_of_open going']
    rfl
  refine ⟨?_, _, shown⟩
  rw [events, opens]
  exact begins

private theorem unforged (config : ClientConfig) (secret : SecretKey) (m : CallMessage)
    (c : Conversation) (n : Nat) : c.Unforged config secret m n := by
  refine ⟨unanswered, fun whole closes => replyAfter_of_whole (wholeRecords_pos whole) closes,
    whole_events, fun e opens last closes => decided opens last closes,
    fun e opens whole going => undecided opens whole going, fun j x here => ?_⟩
  by_cases cut : n < 4 + (Reply.codec.write c.reply).length
  · rw [(unanswered cut).2.2] at here
    cases here
  · have whole := Nat.le_of_not_lt cut
    cases opens : streamFor? config secret m c.reply.received with
    | none =>
      rw [eventsAfter, replyAfter_of_whole (wholeRecords_pos whole), Option.bind_some, opens] at here
      cases here
    | some e =>
      by_cases last : ∃ r ∈ c.told n, (Sight.event (e.foretold (some r.item))).isLast = true
      · rw [decided opens last] at here
        exact .inl here
      · obtain ⟨⟨more, begins⟩, detail, shown⟩ := undecided opens whole fun r member =>
          Bool.eq_false_iff.mpr fun isLast => last ⟨r, member, isLast⟩
        rw [shown] at here
        rw [← begins]
        rcases Nat.lt_or_ge j ((c.told n).map fun r => e.foretold (some r.item)).length with
          before | after
        · rw [List.getElem?_append_left before] at here ⊢
          exact .inl here
        · rw [List.getElem?_append_right after, List.getElem?_singleton] at here
          split at here
          · exact .inr ⟨detail, (Option.some.inj here).symm, rfl⟩
          · cases here

end Conversation

/-- However the octets of a conversation are divided and wherever they are cut, a device sees what
the whole conversation would have shown, and where that was cut, one error of the connection. -/
theorem cutting_forges_nothing (config : ClientConfig) (secret : SecretKey) (m : CallMessage)
    (c : Conversation) (fits : ∀ content ∈ c.contents, Fits content) (n : Nat) :
    c.Unforged config secret m n ∧ ∀ closes os,
      ((Listener.dial config secret m (c.octets.take n) closes).run os).Sees config secret m c n
        closes :=
  ⟨c.unforged config secret m n, fun closes os =>
    ((Listener.Listens.dial config secret m fits n closes).run fits os).sees fits⟩

namespace Sample

def denial : Conversation where
  reply := .opened ⟨"sess-1", .v1, none⟩
  records :=
    [.frame (Frame.encode (.info "one")),
      .frame (Frame.encode (.response ⟨"sess-1", .rejected "no"⟩))]

def waiting : ClientConfig := (ClientConfig.ofTls ⟨"", "", "", [], [], []⟩).withVersion .v1

end Sample

/-- The conversation breaks off in its last record. -/
theorem cutting_forges_nothing_of_denial :
    (∀ content ∈ Sample.denial.contents, Fits content) ∧
      ∃ os, ((Listener.dial Sample.waiting ⟨Key.ofNat 1⟩ (.pairDevice Session.Sample.request)
        (Sample.denial.octets.take 100) true).run os).seen =
          [.ok (.info "one"), .error (.transport "bytes remaining on stream")] := by
  have fits : ∀ content ∈ Sample.denial.contents, Fits content := by
    unfold Fits
    decide +kernel
  have sees := (cutting_forges_nothing Sample.waiting ⟨Key.ofNat 1⟩
    (.pairDevice Session.Sample.request) Sample.denial fits 100).2 true
  have events : Sample.denial.eventsAfter Sample.waiting ⟨Key.ofNat 1⟩
      (.pairDevice Session.Sample.request) 100 true =
        [.ok (.info "one"), .error (.transport "bytes remaining on stream")] := by decide +kernel
  obtain ⟨os, quiet⟩ := (sees []).ends
  exact ⟨fits, os, ((sees os).all quiet).2.trans events⟩

end Connection

end DevicePairing
