import DevicePairing.Transport.Direct

set_option autoImplicit false
set_option relaxedAutoImplicit false

/-!
Runs of a service. Everyone may act at any time and in any order: new devices open sessions,
receive and leave, attesting devices look up, approve and reject, authorities are registered, the
clocks move, and supervisors make their steps. Every action is one step. What was done and answered
is kept, and the history of a run is read off it.
-/

namespace DevicePairing.Session

open DevicePairing
open DevicePairing.Clock

/-- A service among its callers, with the clocks and the random octets. -/
abbrev World := Environment Service

/-- What can happen on the side of the service. -/
inductive Happening where
  | register (a : NodeAuthority)
  | lookUp (r : SignedRequest)
  | approve (r : SignedRequest)
  | reject (r : SignedRequest)
  /-- Time passes. No task goes on meanwhile. -/
  | advance (ms : Nat)
  | setClock (seconds : Int)
  /-- A supervisor makes a step, if it can. It may not have been woken for the latest times. -/
  | supervise (woken : Nat) (prefer : Cause) (i : Nat)

/-- What can happen to a service and its channels. -/
inductive Action where
  | service (h : Happening)
  | openSession (r : PairRequest)
  | receive (i : Nat)
  | dropReceiver (i : Nat)
  | drawKey

/-- What comes back from an action. -/
inductive Answer where
  | nothing
  | opened (result : Except PairingError (Opened × Nat))
  /-- What a new device said about itself. -/
  | data (result : Except PairingError PairingData)
  | decided (result : Except PairingError Unit)
  | received (r : Receipt)

def Happening.perform (w : World) : Happening → Answer × World
  | .register a => (.nothing, w.withSystem (w.system.register a))
  | .lookUp r =>
    (.data (Transport.Direct.pairingData r w).1, (Transport.Direct.pairingData r w).2)
  | .approve r => (.decided (Transport.Direct.approve r w).1, (Transport.Direct.approve r w).2)
  | .reject r => (.decided (Transport.Direct.reject r w).1, (Transport.Direct.reject r w).2)
  | .advance ms => (.nothing, { w with now := w.now + ms })
  | .setClock seconds => (.nothing, { w with wallClock := seconds })
  | .supervise woken prefer i =>
    (.nothing,
      w.withSystem ((w.system.superviseStep ⟨w.now, min woken w.now⟩ prefer i).getD w.system))

def Action.perform (w : World) : Action → Answer × World
  | .service h => h.perform w
  | .openSession r =>
    (.opened (Transport.Direct.pairDevice r w).1, (Transport.Direct.pairDevice r w).2)
  | .receive i => (.received (w.receive i).1, (w.receive i).2)
  | .dropReceiver i => (.nothing, w.dropReceiver i)
  | .drawKey => (.nothing, w.drawKey.2)

/-- A step of a run: an action and the world in which it is done. -/
structure Step where
  before : World
  action : Action

namespace Step

def answer (x : Step) : Answer := (x.action.perform x.before).1

/-- What was asked and answered in a step that opened a session. -/
def opening? (x : Step) : Option (PairRequest × Opened × Nat) :=
  match x.action, x.answer with
  | .openSession r, .opened (.ok (o, i)) => some (r, o, i)
  | _, _ => none

end Step

def run (w : World) : List Action → World
  | [] => w
  | a :: as => run (a.perform w).2 as

def steps (w : World) : List Action → List Step
  | [] => []
  | a :: as => ⟨w, a⟩ :: steps (a.perform w).2 as

theorem run_append (w : World) (as bs : List Action) :
    run w (as ++ bs) = run (run w as) bs := by
  induction as generalizing w with
  | nil => rfl
  | cons a as ih => exact ih (a.perform w).2

theorem steps_append (w : World) (as bs : List Action) :
    steps w (as ++ bs) = steps w as ++ steps (run w as) bs := by
  induction as generalizing w with
  | nil => rfl
  | cons a as ih =>
    simp only [List.cons_append, steps, run]
    rw [ih]

theorem run_snoc (w : World) (as : List Action) (a : Action) :
    run w (as ++ [a]) = (a.perform (run w as)).2 := run_append w as [a]

theorem steps_snoc (w : World) (as : List Action) (a : Action) :
    steps w (as ++ [a]) = steps w as ++ [⟨run w as, a⟩] := steps_append w as [a]

def openings (xs : List Step) : List String :=
  xs.filterMap fun x => x.opening?.map fun (_, o, _) => o.session

theorem openings_append (xs ys : List Step) : openings (xs ++ ys) = openings xs ++ openings ys :=
  List.filterMap_append

/-- Where a run begins: a service without sessions and authorities, at any time. -/
structure Beginning where
  config : ServiceConfig
  now : Nat
  wallClock : Int
  entropy : Entropy

def Beginning.world (b : Beginning) : World :=
  ⟨b.now, b.wallClock, b.entropy, Service.create b.config⟩

namespace Sample

def beginning : Beginning :=
  ⟨.standard, 0, 0, ⟨fun request position => UInt8.ofNat (37 * request + 11 * position), 0⟩⟩

def authority : NodeAuthority := ⟨[7], ⟨Key.ofNat 1⟩⟩

def request : PairRequest := ⟨"lamp", "a lamp", "", Key.ofNat 1, .v1⟩

def session : String := "a59a8f84-796e-4358-8d42-372c21160b00"

end Sample

end DevicePairing.Session
