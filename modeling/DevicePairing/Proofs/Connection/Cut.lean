import DevicePairing.Proofs.Client.Grammar
import DevicePairing.Proofs.Connection.Link

set_option autoImplicit false
set_option relaxedAutoImplicit false

namespace DevicePairing

open DevicePairing.Bytes
open DevicePairing.Session

namespace Connection

/-- Some octets of a record from its head on, but not all. -/
def Scrap (octets : Bytes) : Prop :=
  ∃ content rest, Fits content ∧ framed [content] = octets ++ rest ∧ rest ≠ []

/-- The number of records that are whole among the first `n` octets. -/
def wholeRecords : (n : Nat) → List Bytes → Nat
  | _, [] => 0
  | n, content :: more =>
    if 4 + content.length ≤ n then wholeRecords (n - (4 + content.length)) more + 1 else 0

/-- What is left of the first `n` octets after the records that are whole. -/
def leftOver : (n : Nat) → List Bytes → Bytes
  | _, [] => []
  | n, content :: more =>
    if 4 + content.length ≤ n then leftOver (n - (4 + content.length)) more
    else (framed [content]).take n

private theorem length_framed_singleton (content : Bytes) :
    (framed [content]).length = 4 + content.length := by
  rw [framed_cons, framed_nil, List.append_nil, List.length_append, length_bigEndian]

private theorem framed_eq_append (content : Bytes) (more : List Bytes) :
    framed (content :: more) = framed [content] ++ framed more := framed_append [content] more

private theorem take_framed (n : Nat) (contents : List Bytes) :
    (framed contents).take n =
      framed (contents.take (wholeRecords n contents)) ++ leftOver n contents := by
  induction contents generalizing n with
  | nil => exact List.take_nil
  | cons content more ih =>
    have length := length_framed_singleton content
    rw [framed_eq_append, wholeRecords, leftOver]
    split
    · rename_i whole
      rw [List.take_append, List.take_of_length_le (Nat.le_trans (Nat.le_of_eq length) whole), length,
        ih, List.take_succ_cons, framed_eq_append content (List.take _ more), List.append_assoc]
    · rename_i partly
      rw [List.take_append_of_le_length (by omega), List.take_zero]
      rfl

private theorem scrap_leftOver {contents : List Bytes} (fits : ∀ content ∈ contents, Fits content)
    (n : Nat) : Scrap (leftOver n contents) := by
  induction contents generalizing n with
  | nil => exact ⟨[], framed [[]], Nat.zero_le _, rfl, by decide⟩
  | cons content more ih =>
    rw [leftOver]
    split
    · exact ih (fun c member => fits c (List.mem_cons_of_mem content member)) _
    · rename_i partly
      refine ⟨content, (framed [content]).drop n, fits content List.mem_cons_self,
        (List.take_append_drop n _).symm, fun none => ?_⟩
      have length := length_framed_singleton content
      have all := List.drop_eq_nil_iff.mp none
      omega

theorem wholeRecords_of_le {n : Nat} {contents : List Bytes} (all : (framed contents).length ≤ n) :
    wholeRecords n contents = contents.length ∧ leftOver n contents = [] := by
  induction contents generalizing n with
  | nil => exact ⟨rfl, rfl⟩
  | cons content more ih =>
    rw [framed_eq_append, List.length_append, length_framed_singleton] at all
    have here : 4 + content.length ≤ n := by omega
    rw [wholeRecords, leftOver, if_pos here, if_pos here]
    obtain ⟨count, left⟩ := ih (n := n - (4 + content.length)) (by omega)
    exact ⟨by rw [count, List.length_cons], left⟩

theorem wholeRecords_pos_iff {n : Nat} {content : Bytes} {more : List Bytes} :
    0 < wholeRecords n (content :: more) ↔ 4 + content.length ≤ n := by
  rw [wholeRecords]
  split
  · rename_i whole
    exact ⟨fun _ => whole, fun _ => Nat.succ_pos _⟩
  · rename_i partly
    exact ⟨fun impossible => absurd impossible (Nat.lt_irrefl 0), fun whole => absurd whole partly⟩

namespace RecordReader

/-- The reader is on its way through some records, after which a scrap of one more comes. -/
structure BreaksOff (r : RecordReader) (coming : Bytes) (contents : List Bytes) (scrap : Bytes) :
    Prop where
  sound : r.failed = false
  expected : ∀ n, r.expected = some n → n ≤ maxRecordLength
  octets : r.ahead ++ coming = framed contents ++ scrap
  fits : ∀ content ∈ contents, Fits content
  scrap : Scrap scrap

namespace BreaksOff

variable {r : RecordReader} {coming scrap : Bytes} {contents : List Bytes}

private theorem fresh (fits : ∀ content ∈ contents, Fits content) (n : Nat) :
    BreaksOff .fresh ((framed contents).take n) (contents.take (wholeRecords n contents))
      (leftOver n contents) :=
  ⟨rfl, nofun, take_framed n contents, fun content member => fits content (List.mem_of_mem_take member),
    scrap_leftOver fits n⟩

private theorem awaits (h : BreaksOff r coming contents scrap) : ∃ content rest, rest ≠ [] ∧
    framed [content] = scrap ++ rest ∧ r.Awaits (coming ++ rest) (contents ++ [content]) := by
  obtain ⟨content, rest, fits, split, more⟩ := h.scrap
  refine ⟨content, rest, more, split, h.sound, h.expected, ?_, ?_⟩
  · rw [← List.append_assoc, h.octets, framed_append, split, List.append_assoc]
  · intro c member
    rcases List.mem_append.mp member with old | new
    · exact h.fits c old
    · rwa [List.mem_singleton.mp new]

private theorem of_awaits {content rest : Bytes}
    (h : r.Awaits (coming ++ rest) (contents ++ [content]))
    (split : framed [content] = scrap ++ rest) (more : rest ≠ []) :
    BreaksOff r coming contents scrap := by
  refine ⟨h.sound, h.expected, ?_, fun c member => h.fits c (List.mem_append_left _ member), content,
    rest, h.fits content (List.mem_append_right _ List.mem_cons_self), split, more⟩
  have octets := h.octets
  rw [framed_append, split, ← List.append_assoc, ← List.append_assoc] at octets
  exact List.append_cancel_right octets

private theorem push (h : BreaksOff r coming contents scrap) (n : Nat) :
    BreaksOff (r.push (coming.take n)) (coming.drop n) contents scrap := by
  refine ⟨h.sound, h.expected, ?_, h.fits, h.scrap⟩
  rw [ahead_push, List.append_assoc, List.take_append_drop, h.octets]

private theorem next (h : BreaksOff r coming contents scrap) {ended : Bool}
    (last : ended = true → coming = []) :
    (∃ content more r', contents = content :: more ∧ r.next ended = (.record content, r') ∧
        BreaksOff r' coming more scrap) ∨
      ((r.next ended).1 = .pending ∧ ended = false ∧ (coming = [] → contents = [])) ∨
      ((r.next ended).1 = (if scrap.length = 0 ∨ scrap.length = 4 then .ended else .fault .truncated) ∧
        ended = true ∧ contents = []) := by
  obtain ⟨content, rest, more, split, awaits⟩ := h.awaits
  have lengths := congrArg List.length split
  have some := List.length_pos_iff.mpr more
  rw [length_framed_singleton, List.length_append] at lengths
  have there := congrArg List.length h.octets
  rw [List.length_append, List.length_append] at there
  cases contents with
  | nil =>
    rw [framed_nil, List.length_nil, Nat.zero_add] at there
    have found := awaits.next_of_partial (fun c more same => by
      obtain ⟨rfl, -⟩ := List.cons.inj same
      omega) ended
    right
    cases ended with
    | false => exact .inl ⟨found, rfl, fun _ => rfl⟩
    | true =>
      rw [last rfl, List.length_nil, Nat.add_zero] at there
      rw [there] at found
      exact .inr ⟨found, rfl, rfl⟩
  | cons c contents =>
    by_cases whole : 4 + c.length ≤ r.ahead.length
    · obtain ⟨r', found, awaits'⟩ := awaits.next_of_whole whole ended
      exact .inl ⟨c, contents, r', rfl, found, of_awaits awaits' split more⟩
    · rw [framed_eq_append, List.length_append, length_framed_singleton] at there
      have unfinished : coming ≠ [] := by
        rintro rfl
        rw [List.length_nil] at there
        omega
      have found := awaits.next_of_partial (fun c' more same => by
        obtain ⟨rfl, -⟩ := List.cons.inj same
        omega) ended
      cases ended with
      | false => exact .inr (.inl ⟨found, rfl, fun none => absurd none unfinished⟩)
      | true => exact absurd (last rfl) unfinished

end BreaksOff

end RecordReader

end Connection

namespace Client

def throughLast : List (Except PairingError Event) → List (Except PairingError Event)
  | [] => []
  | x :: xs => if (Sight.event x).isLast then [x] else x :: throughLast xs

theorem throughLast_of_open {xs : List (Except PairingError Event)}
    (going : ∀ x ∈ xs, (Sight.event x).isLast = false) (ys : List (Except PairingError Event)) :
    throughLast (xs ++ ys) = xs ++ throughLast ys := by
  induction xs with
  | nil => rfl
  | cons x xs ih =>
    rw [List.cons_append, throughLast, going x List.mem_cons_self, if_neg Bool.false_ne_true,
      List.cons_append, ih fun y member => going y (List.mem_cons_of_mem x member)]

theorem throughLast_of_last {x : Except PairingError Event} (last : (Sight.event x).isLast = true)
    (xs ys zs : List (Except PairingError Event)) :
    throughLast (xs ++ x :: ys) = throughLast (xs ++ x :: zs) := by
  induction xs with
  | nil => rw [List.nil_append, List.nil_append, throughLast, throughLast, if_pos last, if_pos last]
  | cons y xs ih => rw [List.cons_append, List.cons_append, throughLast, throughLast, ih]

private theorem throughLast_prefix (xs ys : List (Except PairingError Event)) :
    throughLast xs <+: throughLast (xs ++ ys) := by
  induction xs with
  | nil => exact List.nil_prefix
  | cons x xs ih =>
    rw [List.cons_append, throughLast, throughLast]
    split
    · exact List.prefix_rfl
    · exact List.cons_prefix_cons.mpr ⟨rfl, ih⟩

theorem throughLast_eq_self {xs : List (Except PairingError Event)}
    (going : ∀ x ∈ xs, (Sight.event x).isLast = false) : throughLast xs = xs := by
  have whole := throughLast_of_open going []
  rwa [List.append_nil, throughLast, List.append_nil] at whole

theorem throughLast_eq_of_prefix {xs ys : List (Except PairingError Event)}
    {x : Except PairingError Event} (going : ∀ y ∈ xs, (Sight.event y).isLast = false)
    (last : (Sight.event x).isLast = true) (h : xs ++ [x] <+: ys) : throughLast ys = xs ++ [x] := by
  obtain ⟨more, rfl⟩ := h
  rw [List.append_assoc, throughLast_of_open going, List.singleton_append, throughLast, if_pos last]

theorem throughLast_throughLast (xs : List (Except PairingError Event)) :
    throughLast (throughLast xs) = throughLast xs := by
  induction xs with
  | nil => rfl
  | cons x xs ih =>
    cases last : (Sight.event x).isLast with
    | true => rw [throughLast, if_pos last, throughLast, if_pos last]
    | false =>
      rw [throughLast, last, if_neg Bool.false_ne_true, throughLast, last,
        if_neg Bool.false_ne_true, ih]

theorem throughLast_mono {xs ys : List (Except PairingError Event)} (h : xs <+: ys) :
    throughLast xs <+: throughLast ys := by
  obtain ⟨more, rfl⟩ := h
  exact throughLast_prefix xs more

namespace EventStream

/-- What a stream will show of the items of its channel, and of the end of the channel if it is
closed after them. -/
def outlook (e : EventStream) (items : List StreamItem) (closed : Bool) :
    List (Except PairingError Event) :=
  items.map (fun x => e.foretold (some x)) ++ if closed then [e.foretold none] else []

/-- What events say depends on the version and the name of the session only. -/
theorem foretold_congr {e e' : EventStream} (version : e'.version = e.version)
    (session : e'.session = e.session) : e'.foretold = e.foretold := by
  funext item
  cases item with
  | none => rfl
  | some x => simp only [foretold, interpret, accept, version, session]

end EventStream

end Client

namespace Connection

/-- What a server writes on a connection: a reply, and the records of a stream. -/
structure Conversation where
  reply : Reply
  records : List StreamRecord

/-- The error of a connection that is closed after a scrap of a record. The head of a record is not
taken for one. -/
def brokenOff (scrap : Bytes) (atEnd : String) : PairingError :=
  .transport (if scrap.length = 0 ∨ scrap.length = 4 then atEnd else RecordFault.truncated.message)

namespace Conversation

def contents (c : Conversation) : List Bytes :=
  Reply.codec.write c.reply :: c.records.map StreamRecord.codec.write

def octets (c : Conversation) : Bytes := framed c.contents

def told (c : Conversation) (n : Nat) : List StreamRecord :=
  c.records.take (wholeRecords n c.contents - 1)

/-- What a call comes to of which the first `n` octets are answered, and after them the connection
is closed or nothing more comes. -/
def replyAfter (c : Conversation) (n : Nat) (closes : Bool) : Option (Except PairingError Reply) :=
  if 0 < wholeRecords n c.contents then some c.reply.received
  else if closes then
    some (.error (brokenOff (leftOver n c.contents) "connection closed before reply"))
  else none

/-- What a stream will show of which the records among the first `n` octets come, and after them the
connection is closed or nothing more comes. -/
def outlookAfter (c : Conversation) (e : Client.EventStream) (n : Nat) (closes : Bool) :
    List (Except PairingError Client.Event) :=
  (c.told n).map (fun r => e.foretold (some r.item)) ++
    if closes then
      [.error (brokenOff (leftOver n c.contents) "stream ended before the terminal frame")]
    else []

end Conversation

/-- How far a client has come that hears the first `n` octets of a conversation, some of which are
still coming, and after them the connection is closed or nothing more comes. -/
inductive Attends (c : Conversation) (n : Nat) (closes : Bool) (coming : Bytes) (s : ClientSide) :
    Prop where
  | waiting (unreplied : s.reply = none) (nothing : s.items = []) (going : s.isOver = false)
      (reader : s.reader.BreaksOff coming (c.contents.take (wholeRecords n c.contents))
        (leftOver n c.contents))
  | answered (r : Except PairingError Reply) (replied : s.reply = some r)
      (outcome : c.replyAfter n closes = some r) (single : s.call.streams r = false)
      (nothing : s.items = []) (stopped : s.isOver = true)
  | hearing (heard left : List StreamRecord) (whole : 0 < wholeRecords n c.contents)
      (replied : s.reply = some c.reply.received) (split : c.told n = heard ++ left)
      (items : s.items = heard.map StreamRecord.item) (going : s.isOver = false)
      (reader : s.reader.BreaksOff coming (left.map StreamRecord.codec.write)
        (leftOver n c.contents))
  | heard (whole : 0 < wholeRecords n c.contents) (replied : s.reply = some c.reply.received)
      (few : s.items.length ≤ (c.told n).length + 1) (stopped : s.isOver = true)
      (all : ∀ e : Client.EventStream, Client.throughLast (e.outlook s.items true) =
        Client.throughLast (c.outlookAfter e n closes))

namespace Attends

variable {c : Conversation} {n : Nat} {closes : Bool} {coming : Bytes} {s : ClientSide}

theorem calling (fits : ∀ content ∈ c.contents, Fits content) (m : CallMessage) :
    Attends c n closes (c.octets.take n) (.calling m) :=
  .waiting rfl rfl rfl (.fresh fits n)

theorem push (h : Attends c n closes coming s) (k : Nat) :
    Attends c n closes (coming.drop k) (s.push (coming.take k)) := by
  cases h with
  | waiting unreplied nothing going reader =>
    exact .waiting unreplied nothing going (reader.push k)
  | answered r replied outcome single nothing stopped =>
    exact .answered r replied outcome single nothing stopped
  | hearing heard left whole replied split items going reader =>
    exact .hearing heard left whole replied split items going (reader.push k)
  | heard whole replied few stopped all => exact .heard whole replied few stopped all

theorem reply (h : Attends c n closes coming s) {r : Except PairingError Reply}
    (replied : s.reply = some r) : c.replyAfter n closes = some r := by
  cases h with
  | waiting unreplied =>
    rw [unreplied] at replied
    cases replied
  | answered r' same outcome => rw [outcome, ← same, replied]
  | hearing heard left whole same => rw [Conversation.replyAfter, if_pos whole, ← same, replied]
  | heard whole same => rw [Conversation.replyAfter, if_pos whole, ← same, replied]

theorem length_items_le (h : Attends c n closes coming s) :
    s.items.length ≤ (c.told n).length + 1 := by
  cases h with
  | waiting unreplied nothing => rw [nothing]; exact Nat.zero_le _
  | answered r replied outcome single nothing => rw [nothing]; exact Nat.zero_le _
  | hearing heard left whole replied split items =>
    rw [items, split, List.length_map, List.length_append]
    omega
  | heard whole replied few => exact few

private theorem streams_error (m : CallMessage) (cause : PairingError) :
    m.streams (.error cause) = false := by
  cases m <;> rfl

private theorem step_waiting {ended : Bool} (fits : ∀ content ∈ c.contents, Fits content)
    (last : ended = true → coming = [] ∧ closes = true) (unreplied : s.reply = none)
    (nothing : s.items = []) (going : s.isOver = false)
    (reader : s.reader.BreaksOff coming (c.contents.take (wholeRecords n c.contents))
      (leftOver n c.contents)) :
    (s.step? ended = none ∧ ended = false ∧ (coming = [] → wholeRecords n c.contents = 0)) ∨
      ∃ s', s.step? ended = some s' ∧ Attends c n closes coming s' := by
  have first : ∀ k, c.contents.take k = [] → k = 0 := by
    intro k none
    cases k with
    | zero => rfl
    | succ k => cases none
  rw [ClientSide.step?, going, if_neg Bool.false_ne_true]
  rcases reader.next fun h => (last h).1 with ⟨content, more, reader', same, next, reader⟩ |
    ⟨next, going_on, none⟩ | ⟨next, isEnded, none⟩
  · right
    cases count : wholeRecords n c.contents with
    | zero =>
      rw [count] at same
      cases same
    | succ k =>
      have whole : 0 < wholeRecords n c.contents := by
        rw [count]
        exact Nat.succ_pos k
      rw [count, Conversation.contents, List.take_succ_cons] at same
      obtain ⟨rfl, rfl⟩ := List.cons.inj same
      simp only [next, ClientSide.hear?, unreplied, Reply.reply?_write (fits _ List.mem_cons_self),
        Option.map_some]
      refine ⟨_, rfl, ?_⟩
      cases streams : s.call.streams c.reply.received with
      | true =>
        refine .hearing [] (c.told n) whole rfl rfl nothing rfl ?_
        rw [Conversation.told, count, Nat.add_sub_cancel, List.map_take]
        exact reader
      | false =>
        refine .answered c.reply.received rfl ?_ streams nothing rfl
        rw [Conversation.replyAfter, if_pos whole]
  · left
    rw [next]
    simp only [ClientSide.hear?, unreplied, Client.reply?, Option.map_none, true_and]
    exact ⟨going_on, fun finished => first _ (none finished)⟩
  · right
    have outcome : Client.reply? (s.reader.next ended).1 = c.replyAfter n closes := by
      rw [next, Conversation.replyAfter, first _ none, if_neg (Nat.lt_irrefl 0), (last isEnded).2,
        if_pos rfl, brokenOff]
      split <;> rfl
    have failed : c.replyAfter n closes =
        some (.error (brokenOff (leftOver n c.contents) "connection closed before reply")) := by
      rw [Conversation.replyAfter, first _ none, if_neg (Nat.lt_irrefl 0), (last isEnded).2,
        if_pos rfl]
    simp only [ClientSide.hear?, unreplied, outcome, failed, Option.map_some]
    refine ⟨_, rfl, .answered _ rfl failed (streams_error _ _) nothing ?_⟩
    rw [streams_error]
    rfl

private theorem outlook_item (e : Client.EventStream) (heard : List StreamRecord) (x : StreamItem) :
    e.outlook (heard.map StreamRecord.item ++ [x]) true =
      heard.map (fun r => e.foretold (some r.item)) ++ e.foretold (some x) :: [e.foretold none] := by
  rw [Client.EventStream.outlook, List.map_append, List.map_map, List.append_assoc]
  rfl

private theorem step_hearing {heard left : List StreamRecord} {ended : Bool}
    (last : ended = true → coming = [] ∧ closes = true) (whole : 0 < wholeRecords n c.contents)
    (replied : s.reply = some c.reply.received) (split : c.told n = heard ++ left)
    (items : s.items = heard.map StreamRecord.item) (going : s.isOver = false)
    (reader : s.reader.BreaksOff coming (left.map StreamRecord.codec.write)
      (leftOver n c.contents)) :
    (s.step? ended = none ∧ ended = false ∧ (coming = [] → left = [])) ∨
      ∃ s', s.step? ended = some s' ∧ Attends c n closes coming s' := by
  rw [ClientSide.step?, going, if_neg Bool.false_ne_true]
  rcases reader.next fun h => (last h).1 with ⟨content, more, reader', same, next, reader'_breaks⟩ |
    ⟨next, going_on, none⟩ | ⟨next, isEnded, none⟩
  · right
    cases left with
    | nil => cases same
    | cons r left =>
      obtain ⟨rfl, rfl⟩ := List.cons.inj same
      have found := StreamRecord.streamStep_write (reader.fits _ List.mem_cons_self)
      simp only [next, ClientSide.hear?, replied, found]
      cases item : r.item with
      | ok octets =>
        refine ⟨_, rfl, .hearing (heard ++ [r]) left whole rfl ?_ ?_ rfl reader'_breaks⟩
        · rw [split, List.append_assoc]
          rfl
        · rw [items, List.map_append, ← item]
          rfl
      | error cause =>
        refine ⟨_, rfl, .heard whole rfl ?_ rfl fun e => ?_⟩
        · rw [items, split]
          simp only [List.length_append, List.length_map, List.length_cons, List.length_nil]
          omega
        · simp only [items]
          rw [outlook_item, Conversation.outlookAfter, split, List.map_append, List.map_cons, item,
            List.append_assoc, List.cons_append]
          exact Client.throughLast_of_last rfl _ _ _
  · left
    rw [next]
    simp only [ClientSide.hear?, replied, Client.streamStep, true_and]
    exact ⟨going_on, fun finished => List.map_eq_nil_iff.mp (none finished)⟩
  · right
    have all : left = [] := List.map_eq_nil_iff.mp none
    rw [all, List.append_nil] at split
    by_cases between : (leftOver n c.contents).length = 0 ∨ (leftOver n c.contents).length = 4
    · rw [next, if_pos between]
      simp only [ClientSide.hear?, replied, Client.streamStep]
      refine ⟨_, rfl, .heard whole rfl ?_ rfl fun e => ?_⟩
      · rw [items, split, List.length_map]
        exact Nat.le_succ _
      · simp only [items]
        rw [Conversation.outlookAfter, split, (last isEnded).2, if_pos rfl, brokenOff,
          if_pos between, Client.EventStream.outlook, List.map_map]
        rfl
    · rw [next, if_neg between]
      simp only [ClientSide.hear?, replied, Client.streamStep]
      refine ⟨_, rfl, .heard whole rfl ?_ rfl fun e => ?_⟩
      · simp only [items, split, List.length_append, List.length_map, List.length_singleton]
        exact Nat.le_refl _
      · simp only [items]
        rw [outlook_item, Conversation.outlookAfter, split, (last isEnded).2, if_pos rfl, brokenOff,
          if_neg between]
        exact Client.throughLast_of_last rfl _ _ _

theorem step (h : Attends c n closes coming s) {ended : Bool}
    (fits : ∀ content ∈ c.contents, Fits content)
    (last : ended = true → coming = [] ∧ closes = true) :
    Attends c n closes coming ((s.step? ended).getD s) := by
  cases h with
  | waiting unreplied nothing going reader =>
    rcases step_waiting fits last unreplied nothing going reader with ⟨none, -⟩ | ⟨s', some, h⟩
    · rw [none]
      exact .waiting unreplied nothing going reader
    · rw [some]
      exact h
  | answered r replied outcome single nothing stopped =>
    rw [ClientSide.step?, stopped, if_pos rfl]
    exact .answered r replied outcome single nothing stopped
  | hearing heard left whole replied split items going reader =>
    rcases step_hearing last whole replied split items going reader with ⟨none, -⟩ | ⟨s', some, h⟩
    · rw [none]
      exact .hearing heard left whole replied split items going reader
    · rw [some]
      exact h
  | heard whole replied few stopped all =>
    rw [ClientSide.step?, stopped, if_pos rfl]
    exact .heard whole replied few stopped all

/-- What a stream shows of what was heard is the beginning of what it will show. -/
theorem outlook (h : Attends c n closes coming s) {r : Except PairingError Reply}
    (replied : s.reply = some r) (streams : s.call.streams r = true) (e : Client.EventStream) :
    Client.throughLast (e.outlook s.items s.isOver) <+:
      Client.throughLast (c.outlookAfter e n closes) := by
  cases h with
  | waiting unreplied =>
    rw [unreplied] at replied
    cases replied
  | answered r' replied' outcome single =>
    obtain rfl := Option.some.inj (replied'.symm.trans replied)
    rw [single] at streams
    cases streams
  | hearing heard left whole replied' split items going =>
    rw [going, items, Client.EventStream.outlook, Conversation.outlookAfter, split, List.map_map,
      if_neg Bool.false_ne_true, List.append_nil, List.map_append, List.append_assoc]
    exact Client.throughLast_prefix _ _
  | heard whole replied' few stopped all =>
    have same : Client.throughLast (e.outlook s.items s.isOver) =
        Client.throughLast (c.outlookAfter e n closes) := by rw [stopped, all e]
    exact same ▸ List.prefix_rfl

/-- A client that has got all octets and cannot go on has heard all. -/
theorem settled (h : Attends c n closes [] s) (fits : ∀ content ∈ c.contents, Fits content)
    (stuck : s.step? closes = none) :
    s.reply = c.replyAfter n closes ∧
      ∀ r, s.reply = some r → s.call.streams r = true → ∀ e : Client.EventStream,
        Client.throughLast (e.outlook s.items s.isOver) =
          Client.throughLast (c.outlookAfter e n closes) := by
  have last : closes = true → ([] : Bytes) = [] ∧ closes = true := fun closes => ⟨rfl, closes⟩
  cases h with
  | waiting unreplied nothing going reader =>
    rcases step_waiting fits last unreplied nothing going reader with ⟨-, isOpen, none⟩ | ⟨s', some, -⟩
    · refine ⟨?_, fun r replied => ?_⟩
      · rw [unreplied, Conversation.replyAfter, none rfl, isOpen]
        rfl
      · rw [unreplied] at replied
        cases replied
    · rw [stuck] at some
      cases some
  | answered r replied outcome single =>
    refine ⟨replied.trans outcome.symm, fun r' replied' streams => ?_⟩
    obtain rfl := Option.some.inj (replied.symm.trans replied')
    rw [single] at streams
    cases streams
  | hearing heard left whole replied split items going reader =>
    rcases step_hearing last whole replied split items going reader with
      ⟨-, isOpen, none⟩ | ⟨s', some, -⟩
    · refine ⟨?_, fun _ _ _ e => ?_⟩
      · rw [replied, Conversation.replyAfter, if_pos whole]
      · rw [going, items, Client.EventStream.outlook, Conversation.outlookAfter, split, none rfl,
          isOpen, List.append_nil, List.map_map]
        rfl
    · rw [stuck] at some
      cases some
  | heard whole replied few stopped all =>
    refine ⟨?_, fun _ _ _ e => ?_⟩
    · rw [replied, Conversation.replyAfter, if_pos whole]
    · rw [stopped, all e]

end Attends

end Connection

end DevicePairing
