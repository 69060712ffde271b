import DevicePairing.Clock.Moment
import DevicePairing.Session.Service

set_option autoImplicit false
set_option relaxedAutoImplicit false

/-!
Supervision of sessions. Each session has a supervisor that lets it expire when its time is over
or its new device is gone, whichever comes first, and removes it when its time is over.
-/

namespace DevicePairing.Session

open DevicePairing
open DevicePairing.Clock (Moment)

/-- Why a supervisor stops watching. -/
inductive Cause where
  | deadline
  | abandoned
  deriving DecidableEq

namespace Service

def setPhase (s : Service) (i : Nat) (phase : Phase) : Service :=
  { s with supervisors := s.supervisors.modify i fun v => { v with phase := phase } }

/-- Moves a session to its end unless it has come to one, with the sender that it had. -/
def expire (s : Service) (session : String) : Option Nat × Service :=
  match s.sessions.get? session with
  | none => (none, s)
  | some e =>
    match e.state.transition .expired with
    | .error _ => (none, s)
    | .ok state => (e.sender, s.putEntry session { e with state := state, sender := none })

/-- Tells the new device that its time is over, unless it is gone. -/
def sendTimeout (s : Service) (i : Nat) : Service :=
  s.modifyChannel i fun c => (c.send? (.error .timeout)).getD c

/-- What a supervisor does when it stops watching: it gives up its sender and lets the session
expire, and if it was for the time, it tells the new device. -/
def stopWatching (s : Service) (v : Supervisor) (cause : Cause) : Service :=
  let s := s.releaseSender (some v.channel)
  match s.expire v.session with
  | (none, s) => s
  | (some i, s) =>
    let s :=
      match cause with
      | .deadline => s.sendTimeout i
      | .abandoned => s
    s.releaseSender (some i)

def causes (s : Service) (moment : Moment) (v : Supervisor) : List Cause :=
  match v.phase with
  | .watching deadline =>
    (if deadline ≤ moment.woken then [.deadline] else []) ++
      (if s.isReceiving v.channel then [] else [.abandoned])
  | _ => []

/-- One step of a supervisor, if it can make one. Where it may stop watching for two causes, the
preferred one counts. -/
def superviseStep (s : Service) (moment : Moment) (prefer : Cause) (i : Nat) : Option Service :=
  match s.supervisors[i]? with
  | none => none
  | some v =>
    match v.phase with
    | .starting => some (s.setPhase i (.watching (moment.now + s.config.sessionTtl.toNat)))
    | .watching deadline =>
      match s.causes moment v with
      | [] => none
      | cause :: more =>
        let cause := if prefer ∈ more then prefer else cause
        some ((s.stopWatching v cause).setPhase i (.lingering deadline))
    | .lingering deadline =>
      if deadline ≤ moment.woken then some ((s.remove v.session).setPhase i .finished) else none
    | .finished => none

/-- A supervisor's steps until it has to wait: it has three phases to leave. -/
def superviseOne (s : Service) (moment : Moment) (i : Nat) : Service :=
  (List.range 3).foldl (fun s _ => (s.superviseStep moment .deadline i).getD s) s

def settle (s : Service) (moment : Moment) : Service :=
  (List.range s.supervisors.length).foldl (fun s i => s.superviseOne moment i) s

def Supervisor.wakeAt? (v : Supervisor) : Option Nat :=
  match v.phase with
  | .watching deadline => some deadline
  | .lingering deadline => some deadline
  | _ => none

def wakeAt? (s : Service) : Option Nat := (s.supervisors.filterMap Supervisor.wakeAt?).min?

end Service

end DevicePairing.Session
