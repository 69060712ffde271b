import DevicePairing.Clock.Moment
import DevicePairing.Random
import DevicePairing.Session.Channel

set_option autoImplicit false
set_option relaxedAutoImplicit false

/-!
What a caller works in: the time, the wall clock, a source of random octets, and a system of tasks
that go on while the caller waits. Time stands still except while a caller waits; then it goes
from one moment at which something can happen to the next. Where the caller and a task can go on
at the same moment, the caller goes first.
-/

namespace DevicePairing.Clock

open DevicePairing
open DevicePairing.Session (Channel Receipt)

/-- Systems of tasks that talk over numbered channels. -/
class Tasks (σ : Type) where
  channel? : σ → Nat → Option Channel
  modifyChannel : σ → Nat → (Channel → Channel) → σ
  settle : σ → Moment → σ
  wakeAt? : σ → Option Nat
  waits : σ → Nat

/-- A system of tasks with the clocks and the random octets that it needs. -/
structure Environment (σ : Type) where
  now : Nat
  wallClock : Int
  entropy : Entropy
  system : σ

namespace Environment

variable {σ : Type}

def withSystem (w : Environment σ) (system : σ) : Environment σ := { w with system := system }

def drawKey (w : Environment σ) : Key × Environment σ :=
  let (key, entropy) := w.entropy.drawKey
  (key, { w with entropy := entropy })

def issuedAt (w : Environment σ) : UInt64 := issueTime w.wallClock

def goTo (w : Environment σ) (time : Nat) : Environment σ := { w with now := max w.now time }

variable [Tasks σ]

/-- The environment after the tasks went on until all of them have to wait. -/
def settle (w : Environment σ) : Environment σ :=
  w.withSystem (Tasks.settle w.system (.settled w.now))

/-- The environment some milliseconds later, after the tasks went on that were ready. -/
def advance (w : Environment σ) (ms : Nat) : Environment σ :=
  { w with now := w.now + ms, system := Tasks.settle w.system (.moved w.now ms) }

def receive (w : Environment σ) (i : Nat) : Receipt × Environment σ :=
  match Tasks.channel? w.system i with
  | none => (.closed, w)
  | some c =>
    ((c.receive).1, w.withSystem (Tasks.modifyChannel w.system i fun c => (c.receive).2))

def dropReceiver (w : Environment σ) (i : Nat) : Environment σ :=
  w.withSystem (Tasks.modifyChannel w.system i Channel.dropReceiver)

/-- The next time at which something can happen, for a caller who waits until `limit` at most. -/
def nextMoment (w : Environment σ) (limit : Option Nat) : Option Nat :=
  match limit, Tasks.wakeAt? w.system with
  | none, wake => wake
  | limit, none => limit
  | some t, some t' => some (min t t')

/-- Attempts until one comes to something: one at once, one after the tasks went on, and then
again at every moment at which something can happen. Nothing comes of attempts after which
nothing can happen any more. -/
def awaitFor {α β : Type} (limit : Option Nat)
    (attempt : β → Environment σ → Option α × β × Environment σ) :
    (moments : Nat) → β → Environment σ → Option α × β × Environment σ
  | 0, b, w => (none, b, w)
  | moments + 1, b, w =>
    match attempt b w with
    | (some a, b, w) => (some a, b, w)
    | (none, b, w) =>
      match attempt b w.settle with
      | (some a, b, w) => (some a, b, w)
      | (none, b, w) =>
        match w.nextMoment limit with
        | none => (none, b, w)
        | some time => awaitFor limit attempt moments b (w.goTo time)

def await {α β : Type} (limit : Option Nat)
    (attempt : β → Environment σ → Option α × β × Environment σ) (b : β) (w : Environment σ) :
    Option α × β × Environment σ :=
  awaitFor limit attempt (Tasks.waits w.system + 2) b w

def sleepUntil (time : Nat) (w : Environment σ) : Environment σ :=
  let attempt : Unit → Environment σ → Option Unit × Unit × Environment σ := fun _ w =>
    (if time ≤ w.now then some () else none, (), w)
  (w.await (some time) attempt ()).2.2

def receiveWaiting (w : Environment σ) (i : Nat) : Receipt × Environment σ :=
  let attempt : Unit → Environment σ → Option Receipt × Unit × Environment σ := fun _ w =>
    match w.receive i with
    | (.pending, w) => (none, (), w)
    | (r, w) => (some r, (), w)
  match w.await none attempt () with
  | (some r, _, w) => (r, w)
  | (none, _, w) => (.pending, w)

end Environment

end DevicePairing.Clock
