import DevicePairing.Client.NewDevice
import DevicePairing.Proofs.Session.Lives

set_option autoImplicit false
set_option relaxedAutoImplicit false

/-!
New devices and the service that they pair with, in one program. The devices open sessions, poll
their streams and close them, in any order and with anything in between on the side of the service.
What the devices do to the service are actions of a run.
-/

namespace DevicePairing.Client

open DevicePairing
open DevicePairing.Clock
open DevicePairing.Ed25519 (SecretKey)
open DevicePairing.Session

/-- A service among its callers, and the streams of all sessions that new devices opened. -/
structure Scene where
  world : World
  streams : List EventStream

/-- What can happen in a scene. Every move is one step. -/
inductive Move where
  | pair (config : ClientConfig) (i : Introduction)
  | poll (j : Nat)
  | close (j : Nat)
  | service (h : Happening)

def Scene.ofBeginning (b : Beginning) : Scene := ⟨b.world, []⟩

namespace Scene

def move (s : Scene) : Move → Scene
  | .pair config i =>
    match pairDevice config Transport.direct i s.world with
    | (.ok e, w) => ⟨w, s.streams ++ [e]⟩
    | (.error _, w) => ⟨w, s.streams⟩
  | .poll j =>
    match s.streams[j]? with
    | some e => ⟨(e.poll s.world).2.2, s.streams.set j (e.poll s.world).2.1⟩
    | none => s
  | .close j =>
    match s.streams[j]? with
    | some e => ⟨(e.close s.world).2, s.streams.set j (e.close s.world).1⟩
    | none => s
  | .service h => ⟨(h.perform s.world).2, s.streams⟩

/-- What the owner of the stream `j` sees when a move is made. -/
def sight? (s : Scene) (j : Nat) : Move → Option Sight
  | .poll k => if k = j then s.streams[j]?.map fun e => (e.poll s.world).1 else none
  | _ => none

def play (s : Scene) (ms : List Move) : Scene := ms.foldl move s

/-- All that the owner of the stream `j` sees during some moves. -/
def sights (s : Scene) (j : Nat) : List Move → List Sight
  | [] => []
  | m :: ms => (s.sight? j m).toList ++ sights (s.move m) j ms

theorem play_append (s : Scene) (ms ns : List Move) : s.play (ms ++ ns) = (s.play ms).play ns :=
  List.foldl_append

theorem play_snoc (s : Scene) (ms : List Move) (m : Move) :
    s.play (ms ++ [m]) = (s.play ms).move m := play_append s ms [m]

private theorem sights_append (s : Scene) (j : Nat) (ms ns : List Move) :
    s.sights j (ms ++ ns) = s.sights j ms ++ (s.play ms).sights j ns := by
  induction ms generalizing s with
  | nil => rfl
  | cons m ms ih =>
    simp only [List.cons_append, sights, ih, List.append_assoc]
    rfl

theorem sights_snoc (s : Scene) (j : Nat) (ms : List Move) (m : Move) :
    s.sights j (ms ++ [m]) = s.sights j ms ++ ((s.play ms).sight? j m).toList := by
  rw [sights_append, sights, sights, List.append_nil]

end Scene

def Sight.event? : Sight → Option (Except PairingError Event)
  | .event x => some x
  | _ => none

def Sight.isLast : Sight → Bool
  | .event (.ok (.info _)) => false
  | .event _ => true
  | _ => false

namespace EventStream

def shows (e : EventStream) (now : Nat) : Receipt → Sight
  | .item x => .event (e.interpret x)
  | .closed => .event (.error (.transport "stream ended before the terminal frame"))
  | .pending => if e.deadline ≤ now then .event (.error .timeout) else .pending

def after (e : EventStream) : Sight → EventStream
  | .event x => e.note x
  | _ => e

@[simp] theorem session_after (e : EventStream) (x : Sight) : (e.after x).session = e.session := by
  unfold after note
  split
  · split
    · split <;> rfl
    · rfl
  · rfl

@[simp] theorem version_after (e : EventStream) (x : Sight) : (e.after x).version = e.version := by
  unfold after note
  split
  · split
    · split <;> rfl
    · rfl
  · rfl

@[simp] theorem secret_after (e : EventStream) (x : Sight) : (e.after x).secret = e.secret := by
  unfold after note
  split
  · split
    · split <;> rfl
    · rfl
  · rfl

theorem channel_after (e : EventStream) (x : Sight) :
    (e.after x).channel = if x.isLast then none else e.channel := by
  unfold after note Sight.isLast
  split
  · split
    · split <;> rfl
    · split <;> simp_all
  · split <;> simp_all

section

variable {σ : Type} [Tasks σ]

theorem poll_of_closed {e : EventStream} (closed : e.channel = none) (w : Environment σ) :
    e.poll w = (.ended, e, w) := by
  rw [poll, closed]

theorem response_of_closed {e : EventStream} (closed : e.channel = none) {w : Environment σ} :
    e.response w = (.error (.transport "pairing stream already ended"), e, w) := by
  have ended : pollResponse (e.queued w) e w =
      (some (.error (.transport "pairing stream already ended")), e, w) := by
    unfold pollResponse
    rw [poll_of_closed closed]
  simp only [response, Environment.await, Environment.awaitFor, ended]

theorem poll_of_open {e : EventStream} {i : Nat} (isOpen : e.channel = some i)
    (w : Environment σ) :
    e.poll w =
      (e.shows w.now (w.receive i).1, e.after (e.shows w.now (w.receive i).1),
        if (e.shows w.now (w.receive i).1).isLast then (w.receive i).2.dropReceiver i
        else (w.receive i).2) := by
  have closing : ∀ (x : Except PairingError Event) (w' : Environment σ), e.emit i x w' =
      (.event x, e.note x, if Sight.isLast (.event x) then w'.dropReceiver i else w') := by
    intro x w'
    have closed := channel_after e (.event x)
    simp only [after] at closed
    simp only [emit, isClosed, closed, isOpen]
    cases Sight.isLast (.event x) <;> rfl
  have now : (w.receive i).2.now = w.now := by
    unfold Environment.receive
    split <;> rfl
  rw [poll, isOpen]
  simp only
  generalize w.receive i = found at now
  obtain ⟨receipt, w'⟩ := found
  cases receipt with
  | item x => exact closing _ _
  | closed => exact closing _ _
  | pending =>
    rw [shows, ← now]
    simp only
    split
    · exact closing _ _
    · rfl

end

end EventStream

/-- The secret key that the next new device makes. -/
def nextSecret (w : World) : SecretKey := ⟨w.drawKey.1⟩

def nextRequest (config : ClientConfig) (i : Introduction) (w : World) : PairRequest :=
  i.request (nextSecret w).publicKey config.version

theorem perform_atOnce {α : Type} (answer : World → Except PairingError α × World) (limit : Nat)
    (w : World) : ((Transport.Call.atOnce answer).within limit).perform w = answer w := by
  have inTime : (Transport.Call.atOnce answer).within limit = Transport.Call.atOnce answer :=
    if_pos (Nat.zero_le limit)
  have here : w.sleepUntil w.now = w := by
    simp only [Environment.sleepUntil, Environment.await, Environment.awaitFor, Nat.le_refl,
      if_true]
  rw [inTime]
  exact congrArg answer here

private theorem pairDevice_direct (config : ClientConfig) (i : Introduction) (w : World) :
    pairDevice config Transport.direct i w =
      match Transport.Direct.pairDevice (nextRequest config i w) w.drawKey.2 with
      | (.error cause, w') => (.error cause, w')
      | (.ok (o, c), w') => (.ok (streamOf config (nextSecret w) w'.now o c), w') := by
  have opened : ∀ r (w : World) o c w', Transport.Direct.pairDevice r w = (.ok (o, c), w') →
      o.version = r.version := by
    intro r w o c w' accepted
    simp only [Transport.Direct.pairDevice, Service.openSession_eq] at accepted
    cases check : w.system.checkOpening r with
    | error cause =>
      simp only [check, Except.map, Prod.mk.injEq, reduceCtorEq, false_and] at accepted
    | ok _ =>
      simp only [check, Except.map, Prod.mk.injEq, Except.ok.injEq] at accepted
      rw [← accepted.1.1]
      rfl
  unfold pairDevice
  simp only [Transport.within, Transport.direct, perform_atOnce]
  rw [← nextSecret, ← nextRequest]
  have version := opened (nextRequest config i w) w.drawKey.2
  generalize Transport.Direct.pairDevice (nextRequest config i w) w.drawKey.2 = result at version
  obtain ⟨result, w'⟩ := result
  cases result with
  | error cause => rfl
  | ok found =>
    exact if_neg (not_not.mpr (version found.1 found.2 w' rfl))

namespace Scene

def actions (s : Scene) : Move → List Action
  | .pair config i => [.drawKey, .openSession (nextRequest config i s.world)]
  | .poll j =>
    match s.streams[j]?.bind EventStream.channel with
    | some c =>
      .receive c :: if (s.sight? j (.poll j)).any Sight.isLast then [.dropReceiver c] else []
    | none => []
  | .close j =>
    match s.streams[j]?.bind EventStream.channel with
    | some c => [.dropReceiver c]
    | none => []
  | .service h => [.service h]

def history (s : Scene) : List Move → List Action
  | [] => []
  | m :: ms => s.actions m ++ (s.move m).history ms

theorem history_append (s : Scene) (ms ns : List Move) :
    s.history (ms ++ ns) = s.history ms ++ (s.play ms).history ns := by
  induction ms generalizing s with
  | nil => rfl
  | cons m ms ih =>
    simp only [List.cons_append, history, ih, List.append_assoc]
    rfl

theorem history_snoc (s : Scene) (ms : List Move) (m : Move) :
    s.history (ms ++ [m]) = s.history ms ++ (s.play ms).actions m := by
  rw [history_append, history, history, List.append_nil]

theorem world_move (s : Scene) (m : Move) : (s.move m).world = run s.world (s.actions m) := by
  cases m with
  | pair config i =>
    simp only [move, pairDevice_direct, actions, run, Action.perform]
    generalize Transport.Direct.pairDevice (nextRequest config i s.world) s.world.drawKey.2 = result
    obtain ⟨result, w⟩ := result
    cases result <;> rfl
  | poll j =>
    simp only [move, actions]
    cases stream : s.streams[j]? with
    | none => rfl
    | some e =>
      cases channel : e.channel with
      | none => simp only [EventStream.poll_of_closed channel, Option.bind_some, channel, run]
      | some c =>
        simp only [Option.bind_some, channel, sight?, if_true, stream, Option.map_some,
          Option.any_some, EventStream.poll_of_open channel]
        split <;> rfl
  | close j =>
    simp only [move, actions]
    cases stream : s.streams[j]? with
    | none => rfl
    | some e =>
      cases channel : e.channel with
      | none => simp only [EventStream.close, Option.bind_some, channel, run]
      | some c =>
        simp only [EventStream.close, Option.bind_some, channel, run]
        rfl
  | service h => rfl

theorem world_play (s : Scene) (ms : List Move) :
    (s.play ms).world = run s.world (s.history ms) := by
  induction ms generalizing s with
  | nil => rfl
  | cons m ms ih => rw [history, run_append, ← world_move, ← ih]; rfl

/-- A session that is opened by a new device gets a stream. -/
theorem streams_pair (s : Scene) (config : ClientConfig) (i : Introduction) :
    (s.move (.pair config i)).streams =
      s.streams ++
        ((Step.mk s.world.drawKey.2 (.openSession (nextRequest config i s.world))).opening?.map
          fun (_, o, c) => streamOf config (nextSecret s.world) s.world.now o c).toList := by
  have now : (Transport.Direct.pairDevice (nextRequest config i s.world) s.world.drawKey.2).2.now =
      s.world.now := by
    unfold Transport.Direct.pairDevice
    split <;> rfl
  simp only [move, pairDevice_direct, Step.opening?, Step.answer, Action.perform]
  generalize Transport.Direct.pairDevice (nextRequest config i s.world) s.world.drawKey.2 = result
    at now
  obtain ⟨result, w⟩ := result
  cases result with
  | error cause => exact (List.append_nil _).symm
  | ok found => rw [← now]; rfl

private theorem map_set_of_eq {α β : Type} {f : α → β} {xs : List α} {i : Nat} {a a' : α}
    (at_i : xs[i]? = some a) (same : f a' = f a) : (xs.set i a').map f = xs.map f := by
  obtain ⟨hi, rfl⟩ := List.getElem?_eq_some_iff.mp at_i
  rw [List.map_set, same, ← List.getElem_map f (h := by simpa using hi), List.set_getElem_self]

private theorem sessions_move (s : Scene) (m : Move) :
    (s.move m).streams.map EventStream.session =
      s.streams.map EventStream.session ++ openings (steps s.world (s.actions m)) := by
  cases m with
  | pair config i =>
    have opening : openings (steps s.world (s.actions (.pair config i))) =
        openings [⟨s.world.drawKey.2, .openSession (nextRequest config i s.world)⟩] := rfl
    rw [opening, streams_pair, List.map_append, openings, List.filterMap_cons]
    generalize (Step.mk s.world.drawKey.2 (.openSession (nextRequest config i s.world))).opening? =
      opened
    cases opened <;> rfl
  | poll j =>
    have none : openings (steps s.world (s.actions (.poll j))) = [] := by
      simp only [actions]
      split
      · split <;> rfl
      · rfl
    rw [none, List.append_nil]
    simp only [move]
    cases stream : s.streams[j]? with
    | none => rfl
    | some e =>
      refine map_set_of_eq stream ?_
      cases channel : e.channel with
      | none => rw [EventStream.poll_of_closed channel]
      | some c => rw [EventStream.poll_of_open channel, EventStream.session_after]
  | close j =>
    have none : openings (steps s.world (s.actions (.close j))) = [] := by
      simp only [actions]
      split <;> rfl
    rw [none, List.append_nil]
    simp only [move]
    cases stream : s.streams[j]? with
    | none => rfl
    | some e =>
      refine map_set_of_eq stream ?_
      unfold EventStream.close
      split <;> rfl
  | service h => exact (List.append_nil _).symm

private theorem length_le_move (s : Scene) (m : Move) :
    s.streams.length ≤ (s.move m).streams.length := by
  have more := congrArg List.length (sessions_move s m)
  rw [List.length_append, List.length_map, List.length_map] at more
  omega

/-- The owner of a stream that does not exist yet sees nothing. -/
theorem sight?_of_absent {s : Scene} {j : Nat} (absent : s.streams.length ≤ j) (m : Move) :
    s.sight? j m = none := by
  cases m with
  | poll k =>
    simp only [sight?]
    split
    · rw [List.getElem?_eq_none absent, Option.map_none]
    · rfl
  | _ => rfl

theorem sights_of_absent {s : Scene} {j : Nat} {ms : List Move}
    (absent : (s.play ms).streams.length ≤ j) : s.sights j ms = [] := by
  induction ms using List.reverseRecOn with
  | nil => rfl
  | append_singleton ms m ih =>
    rw [play_snoc] at absent
    have earlier := Nat.le_trans (length_le_move (s.play ms) m) absent
    rw [sights_snoc, ih earlier, sight?_of_absent earlier]
    rfl

theorem sessions_play (s : Scene) (ms : List Move) :
    (s.play ms).streams.map EventStream.session =
      s.streams.map EventStream.session ++ openings (steps s.world (s.history ms)) := by
  induction ms generalizing s with
  | nil => exact (List.append_nil _).symm
  | cons m ms ih =>
    rw [history, steps_append, openings_append, ← world_move, ← List.append_assoc, ← sessions_move,
      ← ih]
    rfl

end Scene

end DevicePairing.Client
