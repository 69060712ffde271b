import DevicePairing.Proofs.Connection.Delivery
import DevicePairing.Proofs.Connection.Intake
import DevicePairing.Proofs.Connection.Refinement
import DevicePairing.Proofs.Session.Desertion

set_option autoImplicit false
set_option relaxedAutoImplicit false

namespace DevicePairing.Connection

open DevicePairing
open DevicePairing.Session

/-- What can happen to a connection and around it. -/
inductive Occurrence where
  | other (a : Action)
  | arrival (segment : Bytes)
  | ending
  | turn (preferClient : Bool)

def others (es : List Occurrence) : List Action :=
  es.filterMap fun e =>
    match e with
    | .other a => some a
    | _ => none

/-- The number of times that the server may go on. -/
def turns (es : List Occurrence) : Nat :=
  es.countP fun e =>
    match e with
    | .turn _ => true
    | _ => false

/-- What came from a peer. -/
structure Heard where
  octets : Bytes
  ended : Bool

def Heard.hear (h : Heard) : Occurrence → Heard
  | .arrival segment => if h.ended then h else { h with octets := h.octets ++ segment }
  | .ending => { h with ended := true }
  | _ => h

def heard (es : List Occurrence) : Heard := es.foldl Heard.hear ⟨[], false⟩

/-- The server's side of a connection in the world in which it is served. -/
structure Serving where
  server : ServerSide
  world : World

namespace Serving

def accept (w : World) : Serving := ⟨.accepted, w⟩

def turn (x : Serving) (preferClient : Bool) : Serving :=
  match x.server.step? preferClient x.world with
  | some (server, world) => ⟨server, world⟩
  | none => x

def step (x : Serving) : Occurrence → Serving
  | .other a => { x with world := (a.perform x.world).2 }
  | .arrival segment => if x.server.ended then x else { x with server := x.server.push segment }
  | .ending => { x with server := x.server.finish }
  | .turn preferClient => x.turn preferClient

def run (x : Serving) (es : List Occurrence) : Serving := es.foldl step x

theorem run_snoc (x : Serving) (es : List Occurrence) (e : Occurrence) :
    x.run (es ++ [e]) = (x.run es).step e := List.foldl_append

theorem run_append (x : Serving) (es fs : List Occurrence) :
    x.run (es ++ fs) = (x.run es).run fs := List.foldl_append

end Serving

theorem heard_snoc (es : List Occurrence) (e : Occurrence) :
    heard (es ++ [e]) = (heard es).hear e := List.foldl_append

theorem others_append (es fs : List Occurrence) : others (es ++ fs) = others es ++ others fs :=
  List.filterMap_append

namespace Heard

variable {h : Heard} {m : CallMessage}

def Calls (h : Heard) (m : CallMessage) : Prop :=
  ∃ content rest, front h.octets = .record content rest ∧ CallMessage.codec.decode content = .ok m

/-- The first record is none that could be a call. -/
inductive Faulty (h : Heard) : Prop where
  | malformed {content rest : Bytes} {e : Cbor.DecodeError}
      (first : front h.octets = .record content rest)
      (undecoded : CallMessage.codec.decode content = .error e) : Faulty h
  | oversized (first : front h.octets = .oversized) : Faulty h
  | cut (first : front h.octets = .short) (ended : h.ended = true) : Faulty h

/-- There was more after the first record: another one, the head of one that is too long, or the
end. -/
def Interrupts (h : Heard) : Prop :=
  ∃ content rest, front h.octets = .record content rest ∧ (front rest ≠ .short ∨ h.ended = true)

private theorem front_hear (e : Occurrence) {content rest : Bytes}
    (first : front h.octets = .record content rest) :
    ∃ more, front (h.hear e).octets = .record content (rest ++ more) ∧
      (h.ended = true → (h.hear e).ended = true) := by
  have same : front h.octets = .record content (rest ++ []) := by rw [first, List.append_nil]
  cases e with
  | arrival segment =>
    rw [hear]
    split
    · exact ⟨[], same, id⟩
    · exact ⟨segment, front_append_of_record first segment, id⟩
  | ending => exact ⟨[], same, fun _ => rfl⟩
  | _ => exact ⟨[], same, id⟩

theorem Calls.hear (call : h.Calls m) (e : Occurrence) : (h.hear e).Calls m := by
  obtain ⟨content, rest, first, decoded⟩ := call
  obtain ⟨more, first', -⟩ := front_hear e first
  exact ⟨content, rest ++ more, first', decoded⟩

theorem Faulty.hear (faulty : h.Faulty) (e : Occurrence) : (h.hear e).Faulty := by
  cases faulty with
  | malformed first undecoded =>
    obtain ⟨more, first', -⟩ := front_hear e first
    exact .malformed first' undecoded
  | oversized first =>
    refine .oversized ?_
    cases e with
    | arrival segment =>
      rw [Heard.hear]
      split
      · exact first
      · exact front_append_of_oversized first segment
    | _ => exact first
  | cut first ended =>
    cases e with
    | arrival segment =>
      rw [Heard.hear, if_pos ended]
      exact .cut first ended
    | ending => exact .cut first rfl
    | _ => exact .cut first ended

theorem Interrupts.hear (more : h.Interrupts) (e : Occurrence) : (h.hear e).Interrupts := by
  obtain ⟨content, rest, first, after⟩ := more
  obtain ⟨later, first', stays⟩ := front_hear e first
  refine ⟨content, rest ++ later, first', after.imp (fun unfinished => ?_) stays⟩
  cases second : front rest with
  | record content' rest' =>
    rw [front_append_of_record second]
    exact nofun
  | oversized =>
    rw [front_append_of_oversized second]
    exact nofun
  | short => exact absurd second unfinished

end Heard

def ServerSide.waiting (h : Heard) : ServerSide := ⟨.having h.octets, h.ended, [], .receiving⟩

/-- What a turn makes of a connection on which no call was taken. -/
inductive Took (h : Heard) (w : World) : Serving → Prop where
  | nothing (undecided : front h.octets = .short) (unended : h.ended = false) :
      Took h w ⟨.waiting h, w⟩
  | refused {reader : RecordReader} {written : List Bytes} (faulty : h.Faulty)
      (reply : written = [] ∨ ∃ e, written = [Reply.codec.write (.error e)]) :
      Took h w ⟨⟨reader, h.ended, written, .closed⟩, w⟩
  | answered {reader : RecordReader} {written : List Bytes} {m : CallMessage} (call : h.Calls m)
      (single : openedChannel? (m.action.perform w).1 = none)
      (reply : written = [] ∨ written = [Reply.codec.write (ServerSide.answer m w).1.1]) :
      Took h w ⟨⟨reader, h.ended, written, .closed⟩, (m.action.perform w).2⟩
  | opened {content rest : Bytes} {r : PairRequest} {o : Opened} {i : Nat} {v : World}
      (first : front h.octets = .record content rest) (call : h.Calls (.pairDevice r))
      (opened : (Action.openSession r).perform w = (.opened (.ok (o, i)), v)) :
      Took h w ⟨⟨.having rest, h.ended, [Reply.codec.write (.opened o)], .streaming i⟩, v⟩

private theorem writeLast_receiving {s : ServerSide} (stage : s.stage = .receiving)
    (content : Bytes) (w : World) :
    ∃ written, (written = [] ∨ written = [content]) ∧ s.writeLast content w =
      ({ s with written := s.written ++ written, stage := .closed }, w) := by
  by_cases fits : content.length ≤ maxRecordLength
  · refine ⟨[content], .inr rfl, ?_⟩
    simp only [ServerSide.writeLast, ServerSide.write?, if_pos fits, Option.getD_some,
      ServerSide.close, stage]
  · refine ⟨[], .inl rfl, ?_⟩
    simp only [ServerSide.writeLast, ServerSide.write?, if_neg fits, Option.getD_none,
      ServerSide.close, stage, List.append_nil]

private theorem opens_of_channel {m : CallMessage} {w : World} {i : Nat}
    (opened : openedChannel? (m.action.perform w).1 = some i) :
    ∃ r o, m = .pairDevice r ∧ ((Action.openSession r).perform w).1 = .opened (.ok (o, i)) ∧
      (ServerSide.answer m w).1.1 = .opened o ∧
      Fits (Reply.codec.write (ServerSide.answer m w).1.1) := by
  cases m with
  | pairDevice r =>
    simp only [ServerSide.answer, CallMessage.action, Action.perform, Transport.Direct.pairDevice,
      Service.openSession_eq] at opened ⊢
    cases check : w.system.checkOpening r with
    | error cause =>
      rw [check] at opened
      cases opened
    | ok _ =>
      rw [check] at opened
      obtain rfl := Option.some.inj opened
      exact ⟨r, _, rfl, by rw [check]; rfl, rfl, fits_opened w r⟩
  | _ => cases opened

private theorem took_record {h : Heard} {w : World} {content rest : Bytes}
    (first : front h.octets = .record content rest) {s : ServerSide}
    (server : s = ⟨.having rest, h.ended, [], .receiving⟩) :
    Took h w ⟨(s.handle content w).1, (s.handle content w).2⟩ := by
  have stage : s.stage = .receiving := by rw [server]
  cases decoded : CallMessage.codec.decode content with
  | error e =>
    obtain ⟨written, reply, last⟩ := writeLast_receiving stage
      (Reply.codec.write (.error (PairingError.codec e.message).toWire)) w
    simp only [ServerSide.handle, decoded, last]
    rw [server]
    exact .refused (.malformed first decoded) (reply.imp_right fun same => ⟨_, same⟩)
  | ok m =>
    have call : h.Calls m := ⟨content, rest, first, decoded⟩
    obtain ⟨-, channel, world⟩ := answer_eq m w
    cases opened : openedChannel? (m.action.perform w).1 with
    | none =>
      have single := channel.trans opened
      by_cases fits : Fits (Reply.codec.write (ServerSide.answer m w).1.1)
      · rw [handle_single decoded single stage fits, world, server]
        exact .answered call opened (.inr rfl)
      · rw [handle_silent decoded single stage fits, world, server]
        exact .answered call opened (.inl rfl)
    | some i =>
      obtain ⟨r, o, rfl, answer, reply, fits⟩ := opens_of_channel opened
      rw [handle_stream decoded (channel.trans opened) fits, world, server, reply]
      exact .opened first call (Prod.ext answer rfl)

private theorem took_fault {h : Heard} (faulty : h.Faulty) {f : RecordFault}
    (found : ((RecordReader.having h.octets).next h.ended).1 = .fault f) (w : World)
    (preferClient : Bool) : Took h w (Serving.turn ⟨.waiting h, w⟩ preferClient) := by
  simp only [Serving.turn, ServerSide.waiting, ServerSide.step?]
  generalize (RecordReader.having h.octets).next h.ended = result at found
  obtain ⟨finding, reader⟩ := result
  obtain rfl : finding = .fault f := found
  obtain ⟨written, reply, last⟩ := writeLast_receiving (s := ⟨reader, h.ended, [], .receiving⟩) rfl
    (Reply.codec.write (.error (PairingError.transport f.message).toWire)) w
  simp only [last]
  exact .refused faulty (reply.imp_right fun same => ⟨_, same⟩)

private theorem took_short {h : Heard} (first : front h.octets = .short) (w : World)
    (preferClient : Bool) : Took h w (Serving.turn ⟨.waiting h, w⟩ preferClient) := by
  obtain ⟨waits, ends⟩ := RecordReader.next_of_short first
  cases ended : h.ended with
  | false =>
    rw [← ended] at waits
    have still : Serving.turn ⟨.waiting h, w⟩ preferClient = ⟨.waiting h, w⟩ := by
      simp only [Serving.turn, ServerSide.waiting, ServerSide.step?]
      generalize (RecordReader.having h.octets).next h.ended = result at waits
      obtain ⟨finding, reader⟩ := result
      obtain rfl : finding = .pending := waits
      rfl
    rw [still]
    exact .nothing first ended
  | true =>
    rw [← ended] at ends
    have faulty : h.Faulty := .cut first ended
    rcases ends with nothing | truncated
    · simp only [Serving.turn, ServerSide.waiting, ServerSide.step?]
      generalize (RecordReader.having h.octets).next h.ended = result at nothing
      obtain ⟨finding, reader⟩ := result
      obtain rfl : finding = .ended := nothing
      exact .refused faulty (.inl rfl)
    · exact took_fault faulty truncated w preferClient

theorem Serving.turn_waiting {h : Heard} {x : Serving} (server : x.server = .waiting h)
    (preferClient : Bool) : Took h x.world (x.turn preferClient) := by
  obtain ⟨s, w⟩ := x
  obtain rfl : s = .waiting h := server
  cases first : front h.octets with
  | record content rest =>
    have next := RecordReader.next_of_record first h.ended
    simp only [Serving.turn, ServerSide.waiting, ServerSide.step?, next]
    exact took_record first rfl
  | oversized =>
    have found := RecordReader.next_of_oversized first h.ended
    exact took_fault (.oversized first) found w preferClient
  | short => exact took_short first w preferClient

/-- What a turn makes of a connection over which the items of a channel are passed on. -/
inductive Passed (i : Nat) (x : Serving) : Serving → Prop where
  | nothing (silent : x.server.abandon? x.world = none) : Passed i x x
  | item {y : StreamItem} (found : (x.world.receive i).1 = .item y) (fits : Fits (itemRecord y))
      (more : (ServerSide.passOn y).2 = false) :
      Passed i x ⟨{ x.server with written := x.server.written ++ [itemRecord y] },
        (x.world.receive i).2⟩
  | last {y : StreamItem} (found : (x.world.receive i).1 = .item y) (fits : Fits (itemRecord y))
      (last : (ServerSide.passOn y).2 = true) :
      Passed i x ⟨{ x.server with written := x.server.written ++ [itemRecord y], stage := .closed },
        (x.world.receive i).2.dropReceiver i⟩
  | stopped :
      Passed i x ⟨{ x.server with stage := .closed }, (x.world.receive i).2.dropReceiver i⟩
  | abandoned {reader : RecordReader} :
      Passed i x ⟨{ x.server with reader := reader, stage := .closed }, x.world.dropReceiver i⟩

section

variable {x : Serving} {i : Nat} (stage : x.server.stage = .streaming i)
include stage

private theorem abandon?_eq_some {y : ServerSide × World}
    (left : x.server.abandon? x.world = some y) :
    ∃ reader, y = ({ x.server with reader := reader, stage := .closed },
      x.world.dropReceiver i) := by
  rw [ServerSide.abandon?] at left
  generalize x.server.reader.next x.server.ended = result at left
  obtain ⟨finding, reader⟩ := result
  cases finding with
  | pending => cases left
  | _ =>
    refine ⟨reader, ?_⟩
    simp only [ServerSide.close, stage] at left
    exact (Option.some.inj left).symm

private theorem passed_of_forward? {y : ServerSide × World}
    (went : x.server.forward? i x.world = some y) : Passed i x ⟨y.1, y.2⟩ := by
  rw [ServerSide.forward?] at went
  cases found : x.world.receive i with
  | mk receipt w =>
    have receipt_eq : (x.world.receive i).1 = receipt := congrArg Prod.fst found
    obtain rfl : (x.world.receive i).2 = w := congrArg Prod.snd found
    rw [found] at went
    cases receipt with
    | pending => cases went
    | closed =>
      simp only [ServerSide.close, stage] at went
      cases went
      exact .stopped
    | item y =>
      have record : StreamRecord.codec.write (ServerSide.passOn y).1 = itemRecord y := rfl
      simp only [record] at went
      by_cases fits : Fits (itemRecord y)
      · have small : (itemRecord y).length ≤ maxRecordLength := fits
        simp only [ServerSide.write?, if_pos small] at went
        cases last : (ServerSide.passOn y).2 with
        | true =>
          simp only [last, if_true, ServerSide.close, stage] at went
          cases went
          exact .last receipt_eq fits last
        | false =>
          simp only [last, Bool.false_eq_true, if_false] at went
          cases went
          exact .item receipt_eq fits last
      · have large : ¬ (itemRecord y).length ≤ maxRecordLength := fits
        simp only [ServerSide.write?, if_neg large, ServerSide.close, stage] at went
        cases went
        exact .stopped

theorem Serving.turn_streaming (preferClient : Bool) : Passed i x (x.turn preferClient) := by
  have either : x.server.step? preferClient x.world =
      if preferClient then (x.server.abandon? x.world).or (x.server.forward? i x.world)
      else (x.server.forward? i x.world).or (x.server.abandon? x.world) := by
    simp only [ServerSide.step?, stage, Option.orElse_eq_or]
  have abandoned : ∀ y, x.server.abandon? x.world = some y → Passed i x ⟨y.1, y.2⟩ := by
    intro y left
    obtain ⟨reader, rfl⟩ := abandon?_eq_some stage left
    exact .abandoned
  rw [Serving.turn]
  cases turn : x.server.step? preferClient x.world with
  | none =>
    refine .nothing ?_
    rw [either] at turn
    split at turn
    · exact (Option.or_eq_none_iff.mp turn).1
    · exact (Option.or_eq_none_iff.mp turn).2
  | some y =>
    rw [either] at turn
    split at turn
    · rcases Option.or_eq_some_iff.mp turn with left | ⟨-, went⟩
      · exact abandoned y left
      · exact passed_of_forward? stage went
    · rcases Option.or_eq_some_iff.mp turn with went | ⟨-, left⟩
      · exact passed_of_forward? stage went
      · exact abandoned y left

/-- What comes after the call is noticed, and it ends the stream at once if it counts first. -/
theorem Serving.turn_interrupted {rest : Bytes} (reader : x.server.reader = .having rest)
    (more : front rest ≠ .short ∨ x.server.ended = true) :
    x.server.abandon? x.world ≠ none ∧ ∃ reader, x.turn true =
      ⟨{ x.server with reader := reader, stage := .closed }, x.world.dropReceiver i⟩ := by
  have finds : (x.server.reader.next x.server.ended).1 ≠ .pending := by
    rw [reader]
    cases first : front rest with
    | record content later =>
      rw [RecordReader.next_of_record first]
      exact nofun
    | oversized =>
      rw [RecordReader.next_of_oversized first]
      exact nofun
    | short =>
      have ended := more.resolve_left fun unfinished => unfinished first
      rw [ended]
      rcases (RecordReader.next_of_short first).2 with same | same <;> rw [same] <;> exact nofun
  have left : ∃ y, x.server.abandon? x.world = some y := by
    rw [ServerSide.abandon?]
    generalize x.server.reader.next x.server.ended = result at finds
    obtain ⟨finding, reader⟩ := result
    cases finding with
    | pending => exact absurd rfl finds
    | _ => exact ⟨_, rfl⟩
  obtain ⟨y, left⟩ := left
  obtain ⟨reader, rfl⟩ := abandon?_eq_some stage left
  refine ⟨fun silent => ?_, reader, ?_⟩
  · rw [left] at silent
    cases silent
  · simp only [Serving.turn, ServerSide.step?, stage, if_true, Option.orElse_eq_or, left,
      Option.some_or]

end

theorem Serving.turn_closed {x : Serving} (stage : x.server.stage = .closed) (preferClient : Bool) :
    x.turn preferClient = x := by
  simp only [Serving.turn, ServerSide.step?, stage]

end DevicePairing.Connection
