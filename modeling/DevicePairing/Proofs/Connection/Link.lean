import DevicePairing.Proofs.Connection.Answers

set_option autoImplicit false
set_option relaxedAutoImplicit false

/-!
A connection between a client that makes a call and a server among its other callers. Octets are
carried in order, in segments of any size and at any time; the server, the client and everyone else
act in any order. The client is accounted for by what the server wrote and by the octets that are
still coming.
-/

namespace DevicePairing.Connection

open DevicePairing
open DevicePairing.Session

def CallMessage.streams : CallMessage → Except PairingError Reply → Bool
  | .pairDevice _, .ok (.opened _) => true
  | _, _ => false

structure ClientSide where
  call : CallMessage
  reader : RecordReader
  reply : Option (Except PairingError Reply)
  items : List StreamItem
  isOver : Bool

namespace ClientSide

def calling (m : CallMessage) : ClientSide := ⟨m, .fresh, none, [], false⟩

/-- The client after octets came from the server. -/
def push (c : ClientSide) (segment : Bytes) : ClientSide :=
  { c with reader := c.reader.push segment }

/-- The client after it found something, if that comes to anything. -/
def hear? (c : ClientSide) (f : Finding) : Option ClientSide :=
  match c.reply with
  | none => (Client.reply? f).map fun r => { c with reply := some r, isOver := !c.call.streams r }
  | some _ =>
    match Client.streamStep f with
    | .pending => none
    | .finished => some { c with isOver := true }
    | .item octets => some { c with items := c.items ++ [.ok octets] }
    | .failure cause => some { c with items := c.items ++ [.error cause], isOver := true }

def step? (c : ClientSide) (ended : Bool) : Option ClientSide :=
  if c.isOver then none
  else { c with reader := (c.reader.next ended).2 }.hear? (c.reader.next ended).1

/-- A step of a client that does not read a stream yet gives it the reply, and any other one item,
or it is the last one. -/
theorem step?_eq_some {c c' : ClientSide} {ended : Bool} (h : c.step? ended = some c') :
    c.isOver = false ∧ c'.call = c.call ∧
      ((c.reply = none ∧ c'.reply ≠ none ∧ c'.items = c.items) ∨
        (c.reply ≠ none ∧ c'.reply = c.reply ∧ ∃ more, c'.items = c.items ++ more ∧
          (more = [] → c'.isOver = true))) := by
  unfold step? at h
  split at h
  · cases h
  · rename_i going
    refine ⟨Bool.eq_false_iff.mpr going, ?_⟩
    unfold hear? at h
    split at h
    · rename_i unreplied
      obtain ⟨r, -, rfl⟩ := Option.map_eq_some_iff.mp h
      exact ⟨rfl, .inl ⟨unreplied, Option.some_ne_none r, rfl⟩⟩
    · rename_i r replied
      have some : c.reply ≠ none := fun none => by cases replied.symm.trans none
      split at h
      · cases h
      · obtain rfl := Option.some.inj h
        exact ⟨rfl, .inr ⟨some, rfl, [], (List.append_nil _).symm, fun _ => rfl⟩⟩
      · obtain rfl := Option.some.inj h
        exact ⟨rfl, .inr ⟨some, rfl, [_], rfl, fun none => by cases none⟩⟩
      · obtain rfl := Option.some.inj h
        exact ⟨rfl, .inr ⟨some, rfl, [_], rfl, fun _ => rfl⟩⟩

theorem call_step? (c : ClientSide) (ended : Bool) : ((c.step? ended).getD c).call = c.call := by
  cases h : c.step? ended with
  | none => rfl
  | some c' => exact (step?_eq_some h).2.1

end ClientSide

/-- A connection with both its sides, and the world of the server. -/
structure Link where
  world : World
  server : ServerSide
  client : ClientSide
  upstream : Bytes
  downstream : Bytes

/-- What can happen to a connection. -/
inductive Event where
  | action (a : Action)
  | carryUp (n : Nat)
  | carryDown (n : Nat)
  | serverTurn (preferClient : Bool)
  | clientTurn
  | hangUp

def actions (es : List Event) : List Action :=
  es.filterMap fun e =>
    match e with
    | .action a => some a
    | _ => none

namespace Link

/-- A connection on which a call was just written. -/
def dial (w : World) (m : CallMessage) (octets : Bytes) : Link :=
  ⟨w, .accepted, .calling m, octets, []⟩

/-- Whether the client has got all that it will ever get. -/
def isDrained (k : Link) : Bool := k.server.stage == .closed && k.downstream.isEmpty

def step (k : Link) : Event → Link
  | .action a => { k with world := (a.perform k.world).2 }
  | .carryUp n =>
    { k with server := k.server.push (k.upstream.take n), upstream := k.upstream.drop n }
  | .carryDown n =>
    { k with client := k.client.push (k.downstream.take n), downstream := k.downstream.drop n }
  | .serverTurn preferClient =>
    match k.server.step? preferClient k.world with
    | none => k
    | some (server, world) =>
      { k with
        server := server
        world := world
        downstream := k.downstream ++ framed (server.written.drop k.server.written.length) }
  | .clientTurn => { k with client := (k.client.step? k.isDrained).getD k.client }
  | .hangUp => if k.client.isOver then { k with server := k.server.finish } else k

def run (k : Link) : List Event → Link
  | [] => k
  | e :: es => run (k.step e) es

/-- Nothing is on its way, and neither side can go on. -/
structure Quiet (k : Link) : Prop where
  upstream : k.upstream = []
  downstream : k.downstream = []
  server : ∀ preferClient, k.server.step? preferClient k.world = none
  client : k.client.step? k.isDrained = none

private theorem run_append (k : Link) (es fs : List Event) :
    k.run (es ++ fs) = (k.run es).run fs := by
  induction es generalizing k with
  | nil => rfl
  | cons e es ih => exact ih (k.step e)

theorem run_snoc (k : Link) (es : List Event) (e : Event) : k.run (es ++ [e]) = (k.run es).step e :=
  run_append k es [e]

end Link

theorem actions_append (es fs : List Event) : actions (es ++ fs) = actions es ++ actions fs :=
  List.filterMap_append

/-- What the server has told: a reply and the items of a stream, of which an error is the last. -/
structure Telling (m : CallMessage) (reply : Reply) (items : List StreamItem) (closed : Bool) :
    Prop where
  proper : ∀ x ∈ items, Proper x
  last : ∀ heard cause left, items = heard ++ .error cause :: left → left = [] ∧ closed = true
  single : m.streams reply.received = false → items = [] ∧ closed = true

/-- How far a client has come with what the server told, some octets of which are still coming. -/
inductive Hears (reply : Reply) (items : List StreamItem) (closed : Bool) (coming : Bytes)
    (c : ClientSide) : Prop where
  | waiting (unreplied : c.reply = none) (nothing : c.items = []) (going : c.isOver = false)
      (reader : c.reader.Awaits coming (Reply.codec.write reply :: items.map itemRecord))
  | hearing (left : List StreamItem) (streams : c.call.streams reply.received = true)
      (replied : c.reply = some reply.received) (split : items = c.items ++ left)
      (going : c.isOver = false) (reader : c.reader.Awaits coming (left.map itemRecord))
  | stopped (replied : c.reply = some reply.received) (all : c.items = items) (stopped : c.isOver = true)
      (finished : closed = true)

namespace Hears

variable {reply : Reply} {items : List StreamItem} {closed : Bool} {coming : Bytes} {c : ClientSide}

theorem push (h : Hears reply items closed coming c) (n : Nat) :
    Hears reply items closed (coming.drop n) (c.push (coming.take n)) := by
  cases h with
  | waiting unreplied nothing going reader =>
    exact .waiting unreplied nothing going (reader.push n)
  | hearing left streams replied split going reader =>
    exact .hearing left streams replied split going (reader.push n)
  | stopped replied all stopped finished => exact .stopped replied all stopped finished

theorem tell (h : Hears reply items false coming c) {x : StreamItem} (fits : Fits (itemRecord x))
    (closed' : Bool) :
    Hears reply (items ++ [x]) closed' (coming ++ framed [itemRecord x]) c := by
  have one : ∀ content ∈ [itemRecord x], Fits content := by
    intro content member
    rwa [List.mem_singleton.mp member]
  cases h with
  | waiting unreplied nothing going reader =>
    refine .waiting unreplied nothing going ?_
    rw [List.map_append]
    exact reader.append one
  | hearing left streams replied split going reader =>
    refine .hearing (left ++ [x]) streams replied ?_ going ?_
    · rw [split, List.append_assoc]
    · rw [List.map_append]
      exact reader.append one
  | stopped replied all stopped finished => cases finished

theorem close (h : Hears reply items closed coming c) : Hears reply items true coming c := by
  cases h with
  | waiting unreplied nothing going reader => exact .waiting unreplied nothing going reader
  | hearing left streams replied split going reader =>
    exact .hearing left streams replied split going reader
  | stopped replied all stopped finished => exact .stopped replied all stopped rfl

theorem heard (h : Hears reply items closed coming c) :
    (∀ r, c.reply = some r → r = reply.received) ∧ c.items <+: items := by
  cases h with
  | waiting unreplied nothing going reader =>
    refine ⟨fun r replied => ?_, ?_⟩
    · rw [unreplied] at replied
      cases replied
    · rw [nothing]
      exact List.nil_prefix
  | hearing left streams replied split going reader =>
    refine ⟨fun r same => Option.some.inj (same.symm.trans replied), ?_⟩
    rw [split]
    exact List.prefix_append _ _
  | stopped replied all stopped finished =>
    refine ⟨fun r same => Option.some.inj (same.symm.trans replied), ?_⟩
    exact ⟨[], (List.append_nil _).trans all⟩

private theorem step_waiting {ended : Bool} (told : Telling c.call reply items closed)
    (last : ended = true → coming = [] ∧ closed = true) (unreplied : c.reply = none)
    (nothing : c.items = []) (going : c.isOver = false)
    (reader : c.reader.Awaits coming (Reply.codec.write reply :: items.map itemRecord)) :
    (c.step? ended = none ∧ coming ≠ []) ∨
      ∃ c', c.step? ended = some c' ∧ Hears reply items closed coming c' := by
  have fits : Fits (Reply.codec.write reply) := reader.fits _ List.mem_cons_self
  rw [ClientSide.step?, going, if_neg Bool.false_ne_true]
  rcases reader.next fun h => (last h).1 with ⟨content, more, reader', same, next, reader⟩ |
    ⟨next, -, coming⟩ | ⟨-, -, same⟩
  · obtain ⟨rfl, rfl⟩ := List.cons.inj same
    right
    simp only [next, ClientSide.hear?, unreplied, Reply.reply?_write fits, Option.map_some]
    refine ⟨_, rfl, ?_⟩
    cases streams : c.call.streams reply.received with
    | true => exact .hearing items streams rfl (by rw [nothing]; rfl) rfl reader
    | false =>
      obtain ⟨none, closed⟩ := told.single streams
      exact .stopped rfl (by rw [none]; exact nothing) rfl closed
  · left
    rw [next]
    simp only [ClientSide.hear?, unreplied, Client.reply?, Option.map_none, true_and]
    exact fun finished => by cases coming finished
  · cases same

private theorem step_hearing {ended : Bool} {left : List StreamItem}
    (told : Telling c.call reply items closed) (last : ended = true → coming = [] ∧ closed = true)
    (streams : c.call.streams reply.received = true) (replied : c.reply = some reply.received)
    (split : items = c.items ++ left) (going : c.isOver = false)
    (reader : c.reader.Awaits coming (left.map itemRecord)) :
    (c.step? ended = none ∧ ended = false ∧ (coming = [] → left = [])) ∨
      ∃ c', c.step? ended = some c' ∧ Hears reply items closed coming c' := by
  rw [ClientSide.step?, going, if_neg Bool.false_ne_true]
  rcases reader.next fun h => (last h).1 with ⟨content, more, reader', same, next, reader'_awaits⟩ |
    ⟨next, going_on, finished⟩ | ⟨next, ended, same⟩
  · right
    cases left with
    | nil => cases same
    | cons x left =>
      obtain ⟨rfl, rfl⟩ := List.cons.inj same
      have member : x ∈ items := by
        rw [split]
        exact List.mem_append_right _ List.mem_cons_self
      have found := streamStep_itemRecord (told.proper x member) (reader.fits _ List.mem_cons_self)
      simp only [next, ClientSide.hear?, replied, found]
      cases x with
      | ok octets =>
        refine ⟨_, rfl, .hearing left streams rfl ?_ rfl reader'_awaits⟩
        rw [split, List.append_assoc]
        rfl
      | error cause =>
        obtain ⟨rfl, closed⟩ := told.last c.items cause left split
        exact ⟨_, rfl, .stopped rfl split.symm rfl closed⟩
  · left
    rw [next]
    simp only [ClientSide.hear?, replied, Client.streamStep, true_and]
    exact ⟨going_on, fun none => List.map_eq_nil_iff.mp (finished none)⟩
  · right
    have none : left = [] := List.map_eq_nil_iff.mp same
    rw [next]
    simp only [ClientSide.hear?, replied, Client.streamStep]
    refine ⟨_, rfl, .stopped rfl ?_ rfl (last ended).2⟩
    rw [split, none, List.append_nil]

theorem step (h : Hears reply items closed coming c) (told : Telling c.call reply items closed)
    {ended : Bool} (last : ended = true → coming = [] ∧ closed = true) :
    Hears reply items closed coming ((c.step? ended).getD c) := by
  cases h with
  | waiting unreplied nothing going reader =>
    rcases step_waiting told last unreplied nothing going reader with ⟨none, -⟩ | ⟨c', some, h⟩
    · rw [none]
      exact .waiting unreplied nothing going reader
    · rw [some]
      exact h
  | hearing left streams replied split going reader =>
    rcases step_hearing told last streams replied split going reader with ⟨none, -⟩ | ⟨c', some, h⟩
    · rw [none]
      exact .hearing left streams replied split going reader
    · rw [some]
      exact h
  | stopped replied all stopped finished =>
    rw [ClientSide.step?, stopped, if_pos rfl]
    exact .stopped replied all stopped finished

/-- A client that cannot go on, with nothing on its way, has heard all. It goes on waiting only for
a server that has not finished. -/
theorem quiet (h : Hears reply items closed coming c) (told : Telling c.call reply items closed)
    {ended : Bool} (last : ended = true → coming = [] ∧ closed = true) (nothing : coming = [])
    (stuck : c.step? ended = none) :
    c.reply = some reply.received ∧ c.items = items ∧ (c.isOver = true → closed = true) ∧
      (ended = true → c.isOver = true) := by
  cases h with
  | waiting unreplied nothing' going reader =>
    rcases step_waiting told last unreplied nothing' going reader with ⟨-, some⟩ | ⟨c', some, -⟩
    · exact absurd nothing some
    · rw [stuck] at some
      cases some
  | hearing left streams replied split going reader =>
    rcases step_hearing told last streams replied split going reader with
      ⟨-, going_on, none⟩ | ⟨c', some, -⟩
    · refine ⟨replied, ?_, fun stopped => ?_, fun ended => ?_⟩
      · rw [split, none nothing, List.append_nil]
      · rw [going] at stopped
        cases stopped
      · rw [going_on] at ended
        cases ended
    · rw [stuck] at some
      cases some
  | stopped replied all stopped finished => exact ⟨replied, all, fun _ => finished, fun _ => stopped⟩

end Hears

end DevicePairing.Connection
