import DevicePairing.Proofs.Connection.Link
import DevicePairing.Proofs.Session.Senders

set_option autoImplicit false
set_option relaxedAutoImplicit false

namespace DevicePairing.Connection

open DevicePairing
open DevicePairing.Session

private theorem untilEnd_last {xs heard left : List StreamItem} {x : StreamItem}
    (split : untilEnd xs = heard ++ x :: left) (ended : ends x = true) : left = [] := by
  induction xs generalizing heard with
  | nil => cases heard <;> cases split
  | cons y xs ih =>
    rw [untilEnd] at split
    cases first : ends y with
    | true =>
      rw [first, if_pos rfl] at split
      cases heard with
      | nil => exact (List.cons.inj split).2.symm
      | cons z heard => cases heard <;> cases (List.cons.inj split).2
    | false =>
      rw [first, if_neg Bool.false_ne_true] at split
      cases heard with
      | nil =>
        obtain ⟨rfl, -⟩ := List.cons.inj split
        rw [ended] at first
        cases first
      | cons z heard => exact ih (List.cons.inj split).2

private theorem untilEnd_prefix (xs : List StreamItem) : untilEnd xs <+: xs := by
  induction xs with
  | nil => exact List.prefix_refl []
  | cons x xs ih =>
    rw [untilEnd]
    split
    · exact ⟨xs, rfl⟩
    · exact (List.prefix_cons_inj x).mpr ih

private theorem untilEnd_append_of_ended {xs : List StreamItem} (ended : ∃ x ∈ xs, ends x = true)
    (ys : List StreamItem) : untilEnd (xs ++ ys) = untilEnd xs := by
  induction xs with
  | nil =>
    obtain ⟨x, member, -⟩ := ended
    cases member
  | cons x xs ih =>
    rw [List.cons_append, untilEnd, untilEnd]
    cases first : ends x with
    | true => rfl
    | false =>
      obtain ⟨y, member, last⟩ := ended
      rcases List.mem_cons.mp member with rfl | later
      · rw [last] at first
        cases first
      · rw [ih ⟨y, later, last⟩]

private theorem receive_of_next {v : World} {i : Nat} {c : Channel}
    (at_i : v.system.channels[i]? = some c) {n : Nat} {x : StreamItem}
    (next : c.sent[n]? = some x) :
    (viewed v i n).receive i = (.item x, viewed v i (n + 1)) := by
  have seen : (viewed v i n).system.channels[i]? = some { c with taken := n } := by
    have channels := Service.channels_viewed v.system i n i
    rw [at_i, Option.map_some, if_pos rfl] at channels
    exact channels
  have received : ({ c with taken := n } : Channel).receive = (.item x, { c with taken := n + 1 }) :=
    Channel.receive_of_next next
  have moved : (v.system.viewed i n).modifyChannel i (fun c => c.receive.2) =
      v.system.viewed i (n + 1) := by
    rw [← Service.viewed_viewed v.system i (n + 1) n]
    exact Service.modifyChannel_congr seen (by rw [received])
  simp only [Clock.Environment.receive, Clock.Tasks.channel?, Clock.Tasks.modifyChannel, seen,
    received]
  exact congrArg (fun s => (Receipt.item x, v.withSystem s)) moved

private theorem receive_of_nothing {v : World} {i : Nat} {c : Channel}
    (at_i : v.system.channels[i]? = some c) {n : Nat} (nothing : c.sent[n]? = none) :
    ((viewed v i n).receive i).1 = if c.senders = 0 then .closed else .pending := by
  have seen : (viewed v i n).system.channels[i]? = some { c with taken := n } := by
    have channels := Service.channels_viewed v.system i n i
    rw [at_i, Option.map_some, if_pos rfl] at channels
    exact channels
  have empty : ({ c with taken := n } : Channel).queued = [] :=
    List.drop_eq_nil_of_le (List.getElem?_eq_none_iff.mp nothing)
  simp only [Clock.Environment.receive, Clock.Tasks.channel?, seen, Channel.receive, empty]

private theorem close_streaming {s : ServerSide} {i : Nat} (stage : s.stage = .streaming i)
    (w : World) : s.close w = ({ s with stage := .closed }, w.dropReceiver i) := by
  simp only [ServerSide.close, stage]

private theorem forward?_of_next {s : ServerSide} {v : World} {i n : Nat} {c : Channel}
    {x : StreamItem} (stage : s.stage = .streaming i) (at_i : v.system.channels[i]? = some c)
    (next : c.sent[n]? = some x) (proper : Proper x) (fits : Fits (itemRecord x)) :
    s.forward? i (viewed v i n) =
      some (if ends x then
        ({ s with written := s.written ++ [itemRecord x], stage := .closed },
          (viewed v i (n + 1)).dropReceiver i)
      else ({ s with written := s.written ++ [itemRecord x] }, viewed v i (n + 1))) := by
  have small : (StreamRecord.codec.write (ServerSide.passOn x).1).length ≤ maxRecordLength := fits
  rw [ServerSide.forward?, receive_of_next at_i next]
  simp only [ServerSide.write?, if_pos small, passOn_last proper fits]
  cases ends x with
  | true =>
    have closed := close_streaming (s := { s with written := s.written ++ [itemRecord x] }) stage
      (viewed v i (n + 1))
    exact congrArg some closed
  | false => rfl

private theorem forward?_of_nothing {s : ServerSide} {v : World} {i n : Nat} {c : Channel}
    (stage : s.stage = .streaming i) (at_i : v.system.channels[i]? = some c)
    (nothing : c.sent[n]? = none) :
    (c.senders ≠ 0 ∧ s.forward? i (viewed v i n) = none) ∨
      (c.senders = 0 ∧ ∃ w, s.forward? i (viewed v i n) = some ({ s with stage := .closed }, w)) := by
  have found := receive_of_nothing at_i nothing
  rw [ServerSide.forward?]
  generalize (viewed v i n).receive i = result at found
  obtain ⟨receipt, w⟩ := result
  simp only at found
  subst found
  by_cases abandoned : c.senders = 0
  · rw [if_pos abandoned]
    exact .inr ⟨abandoned, _, congrArg some (close_streaming stage w)⟩
  · rw [if_neg abandoned]
    exact .inl ⟨abandoned, rfl⟩

/-- How far the server has come with the stream of the channel `i`. To a direct caller the channel
would be `c` in the world `v`; `items` were passed on, and `closed` tells whether they are all. -/
inductive Passing (i : Nat) (v : World) (c : Channel) (items : List StreamItem) (k : Link) :
    (closed : Bool) → Prop where
  | going (stage : k.server.stage = .streaming i) (world : k.world = viewed v i items.length)
      (reader : k.server.reader.Awaits k.upstream []) (unended : k.server.ended = false)
      (first : items <+: c.sent) (more : ∀ x ∈ items, ends x = false) : Passing i v c items k false
  | done (stage : k.server.stage = .closed) (all : items = untilEnd c.sent)
      (final : (∃ x ∈ c.sent, ends x = true) ∨ c.senders = 0) : Passing i v c items k true

namespace Passing

variable {i : Nat} {v : World} {c : Channel} {items : List StreamItem} {k : Link} {closed : Bool}

private theorem prefix_sent (h : Passing i v c items k closed) : items <+: c.sent := by
  cases h with
  | going stage world reader unended first more => exact first
  | done stage all final =>
    rw [all]
    exact untilEnd_prefix c.sent

private theorem prefix_untilEnd (h : Passing i v c items k closed) : items <+: untilEnd c.sent := by
  cases h with
  | going stage world reader unended first more =>
    obtain ⟨rest, same⟩ := first
    rw [← same, untilEnd_of_open more]
    exact List.prefix_append items _
  | done stage all final =>
    exact ⟨[], (List.append_nil _).trans all⟩

private theorem telling (h : Passing i v c items k closed) (proper : ∀ x ∈ c.sent, Proper x)
    {m : CallMessage} {reply : Reply} (streams : m.streams reply.received = true) :
    Telling m reply items closed where
  proper := fun x member => proper x (h.prefix_sent.mem member)
  single := fun none => by
    rw [streams] at none
    cases none
  last := fun heard cause left split => by
    cases h with
    | going stage world reader unended first more =>
      have open_ := more (.error cause) (by rw [split]; exact List.mem_append_right _ List.mem_cons_self)
      cases open_
    | done stage all final => exact ⟨untilEnd_last (all.symm.trans split) rfl, rfl⟩

private theorem action (h : Passing i v c items k closed) (owned : v.system.Owned [])
    (at_i : v.system.channels[i]? = some c) {a : Action} (other : a.isAt i = false) :
    ∃ c', (a.perform v).2.system.channels[i]? = some c' ∧ c.Evolves (v.system.Holds i)
    (a.Sends v) c' ∧
      Passing i (a.perform v).2 c' items { k with world := (a.perform k.world).2 } closed := by
  obtain ⟨c', at_i', evolves⟩ := Action.evolves other at_i
  obtain ⟨more_sent, sent, -, may⟩ := evolves.sent
  refine ⟨c', at_i', evolves, ?_⟩
  cases h with
  | going stage world reader unended first more =>
    have inside : i < v.system.channels.length := (List.getElem?_eq_some_iff.mp at_i).1
    refine .going stage ?_ reader unended (first.trans ?_) more
    · simp only [world, Action.perform_viewed inside other]
    · rw [sent]
      exact List.prefix_append _ _
  | done stage all final =>
    refine .done stage ?_ ?_
    · rw [all, sent]
      rcases final with ended | none
      · exact (untilEnd_append_of_ended ended more_sent).symm
      · have nothing : more_sent = [] := by
          cases more_sent with
          | nil => rfl
          | cons x more_sent =>
            have held := owned.senders_pos at_i (may (List.cons_ne_nil x more_sent))
            omega
        rw [nothing, List.append_nil]
    · rcases final with ⟨x, member, ended⟩ | none
      · exact .inl ⟨x, by rw [sent]; exact List.mem_append_left _ member, ended⟩
      · have fewer := evolves.senders
        exact .inr (by omega)

private theorem step?_going (stage : k.server.stage = .streaming i)
    (reader : k.server.reader.Awaits k.upstream []) (unended : k.server.ended = false)
    (preferClient : Bool) :
    k.server.step? preferClient k.world = k.server.forward? i k.world := by
  have nothing : k.server.abandon? k.world = none := by
    have next := reader.next_nothing
    rw [ServerSide.abandon?, unended]
    generalize k.server.reader.next false = found at next
    obtain ⟨finding, reader'⟩ := found
    obtain rfl : finding = .pending := next
    rfl
  simp only [ServerSide.step?, stage, nothing]
  cases preferClient with
  | true => rfl
  | false => simp

end Passing

/-- The stream of the channel `i` over a connection, `v` being the world of a direct caller. -/
structure Streams (m : CallMessage) (reply : Reply) (i : Nat) (v : World) (k : Link) : Prop where
  call : k.client.call = m
  streams : m.streams reply.received = true
  owned : v.system.Owned []
  course : ∃ c items closed, v.system.channels[i]? = some c ∧ (∀ x ∈ c.sent, Proper x) ∧
    Passing i v c items k closed ∧ Hears reply items closed k.downstream k.client

namespace Streams

variable {m : CallMessage} {reply : Reply} {i : Nat} {v : World} {k : Link}

private theorem action (h : Streams m reply i v k) {a : Action} (other : a.isAt i = false) :
    Streams m reply i (a.perform v).2 (k.step (.action a)) := by
  obtain ⟨c, items, closed, at_i, proper, passing, hears⟩ := h.course
  obtain ⟨c', at_i', evolves, passing'⟩ := passing.action h.owned at_i other
  obtain ⟨more, sent, sends, -⟩ := evolves.sent
  refine ⟨h.call, h.streams, a.owned h.owned, c', items, closed, at_i', ?_, passing', hears⟩
  intro x member
  rw [sent] at member
  rcases List.mem_append.mp member with old | new
  · exact proper x old
  · exact (sends x new).proper

theorem carryUp (h : Streams m reply i v k) (n : Nat) :
    Streams m reply i v (k.step (.carryUp n)) := by
  obtain ⟨c, items, closed, at_i, proper, passing, hears⟩ := h.course
  refine ⟨h.call, h.streams, h.owned, c, items, closed, at_i, proper, ?_, hears⟩
  cases passing with
  | going stage world reader unended first more =>
    exact .going stage world (reader.push n) unended first more
  | done stage all final => exact .done stage all final

theorem carryDown (h : Streams m reply i v k) (n : Nat) :
    Streams m reply i v (k.step (.carryDown n)) := by
  obtain ⟨c, items, closed, at_i, proper, passing, hears⟩ := h.course
  refine ⟨h.call, h.streams, h.owned, c, items, closed, at_i, proper, ?_, hears.push n⟩
  cases passing with
  | going stage world reader unended first more =>
    exact .going stage world reader unended first more
  | done stage all final => exact .done stage all final

theorem hangUp (h : Streams m reply i v k) : Streams m reply i v (k.step .hangUp) := by
  obtain ⟨c, items, closed, at_i, proper, passing, hears⟩ := h.course
  cases stopped : k.client.isOver with
  | false =>
    rw [Link.step, stopped, if_neg Bool.false_ne_true]
    exact h
  | true =>
    rw [Link.step, stopped, if_pos rfl]
    refine ⟨h.call, h.streams, h.owned, c, items, closed, at_i, proper, ?_, hears⟩
    cases passing with
    | going stage world reader unended first more =>
      cases hears with
      | waiting unreplied nothing going reader => rw [going] at stopped; cases stopped
      | hearing left streams replied split going reader => rw [going] at stopped; cases stopped
      | stopped replied all stopped finished => cases finished
    | done stage all final => exact .done stage all final

private theorem split_of_next {items sent : List StreamItem} {x : StreamItem}
    (first : items <+: sent) (next : sent[items.length]? = some x) :
    sent = items ++ x :: sent.drop (items.length + 1) := by
  obtain ⟨rest, same⟩ := first
  rw [← same, List.getElem?_append_right (Nat.le_refl _), Nat.sub_self] at next
  cases rest with
  | nil => cases next
  | cons y rest =>
    obtain rfl := Option.some.inj next
    rw [← same]
    simp

theorem serverTurn (h : Streams m reply i v k) (preferClient : Bool)
    (fits : ∀ c, v.system.channels[i]? = some c → ∀ x ∈ c.sent, Fits (itemRecord x)) :
    Streams m reply i v (k.step (.serverTurn preferClient)) := by
  obtain ⟨c, items, closed, at_i, proper, passing, hears⟩ := h.course
  cases passing with
  | done stage all final =>
    have none : k.server.step? preferClient k.world = none := by rw [ServerSide.step?, stage]
    rw [Link.step, none]
    exact h
  | going stage world reader unended first more =>
    have turn := Passing.step?_going stage reader unended preferClient
    cases next : c.sent[items.length]? with
    | none =>
      have whole : items = c.sent := first.eq_of_length_le (List.getElem?_eq_none_iff.mp next)
      have all : items = untilEnd c.sent := by
        rw [← whole]
        exact (untilEnd_eq_self more).symm
      rcases forward?_of_nothing stage at_i next with ⟨-, none⟩ | ⟨abandoned, w, closed⟩
      · rw [Link.step, turn, world, none]
        exact h
      · rw [Link.step, turn, world, closed]
        refine ⟨h.call, h.streams, h.owned, c, items, true, at_i, proper, .done rfl all (.inr abandoned), ?_⟩
        simp only [List.drop_length, framed_nil, List.append_nil]
        exact hears.close
    | some x =>
      have member : x ∈ c.sent := List.mem_of_getElem? next
      have split := split_of_next first next
      have fits_x := fits c at_i x member
      rw [Link.step, turn, world, forward?_of_next stage at_i next (proper x member) fits_x]
      cases ended : ends x with
      | true =>
        refine ⟨h.call, h.streams, h.owned, c, items ++ [x], true, at_i, proper,
          .done rfl ?_ (.inl ⟨x, member, ended⟩), ?_⟩
        · rw [split]
          exact (untilEnd_of_ended more ended _).symm
        · simp only [if_pos, List.drop_left]
          exact hears.tell fits_x true
      | false =>
        refine ⟨h.call, h.streams, h.owned, c, items ++ [x], false, at_i, proper,
          .going stage ?_ reader unended ?_ ?_, ?_⟩
        · rw [List.length_append]
          rfl
        · exact ⟨c.sent.drop (items.length + 1), by rw [List.append_assoc]; exact split.symm⟩
        · intro y member
          rcases List.mem_append.mp member with old | new
          · exact more y old
          · rw [List.mem_singleton.mp new]
            exact ended
        · simp only [Bool.false_eq_true, if_false, List.drop_left]
          exact hears.tell fits_x false

private theorem drained {c : Channel} {items : List StreamItem} {closed : Bool}
    (passing : Passing i v c items k closed) (last : k.isDrained = true) :
    k.downstream = [] ∧ closed = true := by
  obtain ⟨stage, empty⟩ := Bool.and_eq_true_iff.mp last
  refine ⟨List.isEmpty_iff.mp empty, ?_⟩
  cases passing with
  | going stage' world reader unended first more =>
    rw [stage'] at stage
    cases stage
  | done stage' all final => rfl

theorem clientTurn (h : Streams m reply i v k) : Streams m reply i v (k.step .clientTurn) := by
  obtain ⟨c, items, closed, at_i, proper, passing, hears⟩ := h.course
  have told : Telling k.client.call reply items closed :=
    passing.telling proper (by rw [h.call]; exact h.streams)
  refine ⟨(k.client.call_step? k.isDrained).trans h.call, h.streams, h.owned, c, items, closed, at_i,
    proper, ?_, hears.step told (drained passing)⟩
  cases passing with
  | going stage world reader unended first more =>
    exact .going stage world reader unended first more
  | done stage all final => exact .done stage all final

private theorem step (h : Streams m reply i v k) {e : Event}
    (other : ∀ a ∈ actions [e], a.isAt i = false)
    (fits : ∀ c, v.system.channels[i]? = some c → ∀ x ∈ c.sent, Fits (itemRecord x)) :
    Streams m reply i (Session.run v (actions [e])) (k.step e) := by
  cases e with
  | action a => exact h.action (other a List.mem_cons_self)
  | carryUp n => exact h.carryUp n
  | carryDown n => exact h.carryDown n
  | serverTurn preferClient => exact h.serverTurn preferClient fits
  | clientTurn => exact h.clientTurn
  | hangUp => exact h.hangUp

theorem run (h : Streams m reply i v k) (es : List Event)
    (other : ∀ a ∈ actions es, a.isAt i = false)
    (fits : ∀ c, (Session.run v (actions es)).system.channels[i]? = some c →
      ∀ x ∈ c.sent, Fits (itemRecord x)) :
    Streams m reply i (Session.run v (actions es)) (k.run es) := by
  induction es using List.reverseRecOn with
  | nil => exact h
  | append_singleton es e ih =>
    rw [actions_append] at other fits ⊢
    rw [Session.run_append] at fits ⊢
    rw [Link.run_snoc]
    have other_last : ∀ a ∈ actions [e], a.isAt i = false := fun a member =>
      other a (List.mem_append_right _ member)
    have fits_before : ∀ c, (Session.run v (actions es)).system.channels[i]? = some c →
        ∀ x ∈ c.sent, Fits (itemRecord x) := by
      intro c at_i x member
      obtain ⟨c', at_i', first⟩ := sent_run other_last at_i
      exact fits c' at_i' x (first.mem member)
    exact (ih (fun a member => other a (List.mem_append_left _ member)) fits_before).step other_last
      fits_before

theorem outcome (h : Streams m reply i v k)
    (fits : ∀ c, v.system.channels[i]? = some c → ∀ x ∈ c.sent, Fits (itemRecord x)) :
    (∀ r, k.client.reply = some r → r = reply.received) ∧
      (k.Quiet → k.client.reply = some reply.received) ∧
      ∃ c, v.system.channels[i]? = some c ∧ k.client.items <+: untilEnd c.sent ∧
        (k.client.isOver = true → k.client.items = untilEnd c.sent ∧
          ((∃ x ∈ c.sent, ends x = true) ∨ c.senders = 0)) ∧
        (k.Quiet → k.client.items = untilEnd c.sent ∧
          ((∃ x ∈ c.sent, ends x = true) ∨ c.senders = 0 → k.client.isOver = true)) := by
  obtain ⟨c, items, closed, at_i, proper, passing, hears⟩ := h.course
  have told : Telling k.client.call reply items closed :=
    passing.telling proper (by rw [h.call]; exact h.streams)
  have quiet := fun quiet : k.Quiet =>
    hears.quiet told (drained passing) quiet.downstream quiet.client
  refine ⟨hears.heard.1, fun still => (quiet still).1, c, at_i,
    hears.heard.2.trans passing.prefix_untilEnd, ?_, ?_⟩
  · intro stopped
    cases hears with
    | waiting unreplied nothing going reader => rw [going] at stopped; cases stopped
    | hearing left streams replied split going reader => rw [going] at stopped; cases stopped
    | stopped replied all _ finished =>
      subst finished
      cases passing with
      | done stage all_items final => exact ⟨all.trans all_items, final⟩
  · intro still
    obtain ⟨-, all, -, stopped⟩ := quiet still
    cases passing with
    | done stage all_items final =>
      refine ⟨all.trans all_items, fun _ => stopped ?_⟩
      rw [Link.isDrained, stage, still.downstream]
      rfl
    | going stage world reader unended first more =>
      have stuck := still.server true
      rw [Passing.step?_going stage reader unended, world] at stuck
      cases next : c.sent[items.length]? with
      | some x =>
        have member : x ∈ c.sent := List.mem_of_getElem? next
        rw [forward?_of_next stage at_i next (proper x member) (fits c at_i x member)] at stuck
        cases stuck
      | none =>
        have whole : items = c.sent := first.eq_of_length_le (List.getElem?_eq_none_iff.mp next)
        rcases forward?_of_nothing stage at_i next with ⟨held, -⟩ | ⟨-, w, closed⟩
        · refine ⟨?_, ?_⟩
          · rw [all, ← whole]
            exact (untilEnd_eq_self more).symm
          · rintro (⟨x, member, ended⟩ | none)
            · rw [← whole] at member
              rw [more x member] at ended
              cases ended
            · exact absurd none held
        · rw [stuck] at closed
          cases closed

end Streams

end DevicePairing.Connection
