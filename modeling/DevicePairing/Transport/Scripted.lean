import DevicePairing.Transport.Basic

set_option autoImplicit false
set_option relaxedAutoImplicit false

namespace DevicePairing.Transport

open DevicePairing
open DevicePairing.Clock
open DevicePairing.Session (Channel StreamItem)

/-- An entry of the script of a channel. -/
inductive Cue where
  | send (x : StreamItem)
  | pause (ms : Nat)

inductive FeedPhase where
  | playing (script : List Cue)
  | pausing (time : Nat) (script : List Cue)
  | finished

structure Feed where
  channel : Nat
  phase : FeedPhase
  hold : Bool

/-- Channels with their feeds. -/
structure Playback where
  channels : List Channel
  feeds : List Feed

structure ScriptedCall (α : Type) where
  delay : Nat
  result : Except PairingError α

/-- The session that a script opens, and its frames. -/
structure ScriptedSession where
  session : String
  version : Option ProtocolVersion
  exchangePayload : Option String
  cues : List Cue
  hold : Bool

/-- How every call is answered. -/
structure Script where
  pair : ScriptedCall ScriptedSession
  lookUp : ScriptedCall PairingData
  approve : ScriptedCall Unit
  reject : ScriptedCall Unit

def pauses : List Cue → Nat
  | [] => 0
  | .send _ :: script => pauses script
  | .pause _ :: script => pauses script + 1

/-- Goes on with a script until the next pause whose end has not come. -/
def play (moment : Moment) (hold : Bool) : List Cue → Channel → FeedPhase × Channel
  | [], c => (.finished, if hold then c else c.dropSender)
  | .send x :: script, c => play moment hold script ((c.send? x).getD c)
  | .pause ms :: script, c =>
    let time := moment.now + ms
    if time ≤ moment.woken then play moment hold script c else (.pausing time script, c)

namespace Feed

def script? (f : Feed) (moment : Moment) : Option (List Cue) :=
  match f.phase with
  | .playing script => some script
  | .pausing time script => if time ≤ moment.woken then some script else none
  | .finished => none

def wakeAt? (f : Feed) : Option Nat :=
  match f.phase with
  | .pausing time _ => some time
  | _ => none

def waits (f : Feed) : Nat :=
  match f.phase with
  | .playing script => pauses script
  | .pausing _ script => pauses script + 1
  | .finished => 0

end Feed

namespace Playback

def empty : Playback := ⟨[], []⟩

def modifyChannel (p : Playback) (i : Nat) (f : Channel → Channel) : Playback :=
  { p with channels := p.channels.modify i f }

def settleFeed (p : Playback) (moment : Moment) (j : Nat) : Playback :=
  match p.feeds[j]? with
  | none => p
  | some f =>
    match f.script? moment, p.channels[f.channel]? with
    | some script, some c =>
      let (phase, c) := play moment f.hold script c
      ⟨p.channels.set f.channel c, p.feeds.set j { f with phase := phase }⟩
    | _, _ => p

def settle (p : Playback) (moment : Moment) : Playback :=
  (List.range p.feeds.length).foldl (fun p j => p.settleFeed moment j) p

/-- A feed is not held up by a full channel, so channels have room for all that scripts send. -/
def capacity (cues : List Cue) : Nat := cues.length + 1

/-- The playback with a new channel and its feed, with the number of the channel. -/
def start (p : Playback) (s : ScriptedSession) : Nat × Playback :=
  let i := p.channels.length
  (i, ⟨p.channels ++ [Channel.create (capacity s.cues)],
    p.feeds ++ [⟨i, .playing s.cues, s.hold⟩]⟩)

end Playback

instance playbackTasks : Tasks Playback where
  channel? := fun p i => p.channels[i]?
  modifyChannel := Playback.modifyChannel
  settle := Playback.settle
  wakeAt? := fun p => (p.feeds.filterMap Feed.wakeAt?).min?
  waits := fun p => p.feeds.foldl (fun n f => n + f.waits) 0

namespace ScriptedCall

def toCall {α : Type} (c : ScriptedCall α) : Call Playback α :=
  ⟨c.delay, fun w => (c.result, w)⟩

end ScriptedCall

def openScripted (c : ScriptedCall ScriptedSession) (r : PairRequest) :
    Call Playback (Opened × Nat) :=
  ⟨c.delay, fun w =>
    match c.result with
    | .error cause => (.error cause, w)
    | .ok s =>
      let (i, p) := w.system.start s
      (.ok (⟨s.session, s.version.getD r.version, s.exchangePayload⟩, i), w.withSystem p)⟩

def scripted (s : Script) : Transport Playback where
  pairDevice := openScripted s.pair
  pairingData := fun _ => s.lookUp.toCall
  approve := fun _ => s.approve.toCall
  reject := fun _ => s.reject.toCall

end DevicePairing.Transport
