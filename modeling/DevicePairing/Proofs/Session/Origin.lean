import DevicePairing.Proofs.Session.Senders

set_option autoImplicit false
set_option relaxedAutoImplicit false

namespace DevicePairing.Session

open DevicePairing
open DevicePairing.Clock

def Entry.ended (e : Entry) (state : State) : Entry := { e with state := state, sender := none }

/-- What can become of an entry without its session being opened anew: nothing, or its session
comes to an end and gives up its sender. -/
inductive Entry.Goes (e : Entry) : Entry → Prop where
  | nowhere : e.Goes e
  | toEnd {state : State} (unfinished : e.state.isFinal = false) (final : state.isFinal = true) :
      e.Goes (e.ended state)

namespace Entry.Goes

variable {e e' e'' : Entry}

theorem trans (h : e.Goes e') (h' : e'.Goes e'') : e.Goes e'' := by
  cases h with
  | nowhere => exact h'
  | toEnd unfinished final =>
    cases h' with
    | nowhere => exact .toEnd unfinished final
    | toEnd unfinished' _ =>
      rw [Entry.ended, final] at unfinished'
      cases unfinished'

private theorem request (h : e.Goes e') : e'.request = e.request := by cases h <;> rfl

private theorem exchangePayload (h : e.Goes e') : e'.exchangePayload = e.exchangePayload := by
  cases h <;> rfl

private theorem openedAt (h : e.Goes e') : e'.openedAt = e.openedAt := by cases h <;> rfl

end Entry.Goes

namespace Service

def Keeps (s s' : Service) : Prop :=
  ∀ session e', s'.sessions.get? session = some e' →
    ∃ e, s.sessions.get? session = some e ∧ e.Goes e'

private theorem Keeps.of_sessions {s s' : Service} (same : s'.sessions = s.sessions) :
    Keeps s s' := by
  intro session e entry
  rw [same] at entry
  exact ⟨e, entry, .nowhere⟩

private theorem Keeps.trans {s s' s'' : Service} (h : Keeps s s') (h' : Keeps s' s'') :
    Keeps s s'' := by
  intro session e'' entry''
  obtain ⟨e', entry', goes'⟩ := h' session e'' entry''
  obtain ⟨e, entry, goes⟩ := h session e' entry'
  exact ⟨e, entry, goes.trans goes'⟩

variable (s : Service)

private theorem Keeps.releaseSender (sender : Option Nat) : Keeps s (s.releaseSender sender) :=
  .of_sessions (sessions_releaseSender s sender)

private theorem Keeps.ending {session : String} {e : Entry}
    (entry : s.sessions.get? session = some e)
    (unfinished : e.state.isFinal = false) {state : State} (final : state.isFinal = true) :
    Keeps s (s.ending session e state) := by
  intro session' e' entry'
  rw [Service.ending, putEntry, Table.get?_put] at entry'
  split at entry'
  · rename_i same
    cases entry'
    exact ⟨e, same ▸ entry, .toEnd unfinished final⟩
  · exact ⟨e', entry', .nowhere⟩

theorem Keeps.remove (session : String) : Keeps s (s.remove session) := by
  intro session' e' entry'
  rw [sessions_remove, Table.get?_erase] at entry'
  split at entry'
  · cases entry'
  · exact ⟨e', entry', .nowhere⟩

private theorem Keeps.decide (session : String) (r : Resolution) (outcome : Key → Outcome) :
    Keeps s (s.decide session r outcome).2 := by
  rw [decide_eq]
  cases entry : s.sessions.get? session with
  | none => exact .of_sessions rfl
  | some e =>
    simp only
    split
    · exact .of_sessions rfl
    · exact .of_sessions rfl
    · rename_i state _
      exact (Keeps.ending s entry (by rw [state]; rfl) rfl).trans (.of_sessions rfl)
    · exact .of_sessions rfl
    · rename_i undecided unexpired
      have unfinished : e.state.isFinal = false := by
        cases state : e.state with
        | resolved r => exact absurd state (undecided r)
        | expired => exact absurd state unexpired
        | _ => rfl
      exact (Keeps.ending s entry unfinished rfl).trans (.releaseSender _ e.sender)

private theorem Keeps.stopWatching (v : Supervisor) (cause : Cause) :
    Keeps s (s.stopWatching v cause) := by
  have released : Keeps s (s.releaseSender (some v.channel)) := .releaseSender s _
  rw [stopWatching_eq]
  cases entry : s.sessions.get? v.session with
  | none => exact released
  | some e =>
    simp only
    split
    · rename_i mayExpire
      have unfinished : e.state.isFinal = false := by
        cases final : e.state.isFinal with
        | false => rfl
        | true =>
          rw [State.not_mayFollow_of_isFinal final] at mayExpire
          cases mayExpire
      have ended : Keeps s ((s.releaseSender (some v.channel)).ending v.session e .expired) :=
        released.trans (.ending _ entry unfinished rfl)
      cases e.sender with
      | none => exact ended
      | some i =>
        refine Keeps.trans ?_ (.releaseSender _ (some i))
        split
        · exact ended.trans (.of_sessions rfl)
        · exact ended
    · exact released

private theorem Keeps.superviseStep (moment : Moment) (prefer : Cause) (i : Nat) :
    Keeps s ((s.superviseStep moment prefer i).getD s) := by
  unfold Service.superviseStep
  split
  · exact .of_sessions rfl
  · split
    · exact .of_sessions rfl
    · split
      · exact .of_sessions rfl
      · exact Keeps.trans (.stopWatching s _ _) (.of_sessions rfl)
    · split
      · exact Keeps.trans (.remove s _) (.of_sessions rfl)
      · exact .of_sessions rfl
    · exact .of_sessions rfl

end Service

def Action.Enters (w : World) (a : Action) (session : String) (e : Entry) : Prop :=
  a = .openSession e.request ∧ session = Service.nextName w.entropy ∧
    e.exchangePayload = Exchange.payload session

theorem Action.entry_cases {w : World} {a : Action} {session : String} {e' : Entry}
    (entry' : (a.perform w).2.system.sessions.get? session = some e') :
    (∃ e, w.system.sessions.get? session = some e ∧ e.Goes e') ∨ a.Enters w session e' := by
  have effect := a.effect w
  generalize (a.perform w).2.system = s' at effect entry'
  cases effect with
  | calm channels supervisors sessions =>
    exact .inl (Service.Keeps.of_sessions sessions session e' entry')
  | decided h d asked =>
    exact .inl (Service.Keeps.decide _ d.session d.resolution d.outcome session e' entry')
  | supervised moment woken prefer i =>
    exact .inl (Service.Keeps.superviseStep _ moment prefer i session e' entry')
  | opened r =>
    simp only [Service.accept, Table.get?_put] at entry'
    split at entry'
    · rename_i same
      cases entry'
      exact .inr ⟨rfl, same.symm, congrArg Exchange.payload same⟩
    · exact .inl (Service.Keeps.remove _ (Service.nextName w.entropy) session e' entry')
  | received i => exact .inl ⟨e', entry', .nowhere⟩
  | departed i => exact .inl ⟨e', entry', .nowhere⟩

theorem entry_origin {b : Beginning} {as : List Action} {session : String} {e : Entry}
    (entry : (run b.world as).system.sessions.get? session = some e) :
    ∃ before a later, as = before ++ a :: later ∧ a.Enters (run b.world before) session e := by
  induction as using List.reverseRecOn generalizing e with
  | nil => cases entry
  | append_singleton as a ih =>
    rw [run_snoc] at entry
    rcases Action.entry_cases entry with ⟨e₀, entry₀, goes⟩ | enters
    · obtain ⟨before, a₀, later, rfl, opens, named, same⟩ := ih entry₀
      refine ⟨before, a₀, later ++ [a], by rw [List.append_assoc, List.cons_append], ?_, named, ?_⟩
      · rw [opens, goes.request]
      · rw [goes.exchangePayload, same]
    · exact ⟨as, a, [], rfl, enters⟩

/-- What the opening of a session sends at once. -/
def Action.Greets (w : World) (a : Action) (x : StreamItem) : Prop :=
  ∃ r, a = .openSession r ∧ x ∈ Life.prelude r.version (Service.nextName w.entropy)

private theorem Service.Evolves.sent_cases {held : Nat → Prop} {kind : StreamItem → Prop}
    {s s' : Service}
    (h : Evolves held kind s s') {i : Nat} {c' : Channel} (at_i' : s'.channels[i]? = some c')
    {x : StreamItem} (member : x ∈ c'.sent) :
    (∃ c, s.channels[i]? = some c ∧ x ∈ c.sent) ∨ kind x := by
  obtain ⟨inside, -⟩ := List.getElem?_eq_some_iff.mp at_i'
  rw [h.length] at inside
  obtain ⟨c'', at_i'', evolves⟩ := h.channel i _ (List.getElem?_eq_getElem inside)
  obtain rfl := Option.some.inj (at_i'.symm.trans at_i'')
  obtain ⟨more, sent, kinds, -⟩ := evolves.sent
  rw [sent] at member
  rcases List.mem_append.mp member with old | new
  · exact .inl ⟨_, List.getElem?_eq_getElem inside, old⟩
  · exact .inr (kinds x new)

private theorem sent_of_modify {s : Service} {j : Nat} {f : Channel → Channel}
    (kept : ∀ c, (f c).sent = c.sent) {i : Nat} {c' : Channel}
    (at_i' : (s.modifyChannel j f).channels[i]? = some c') {x : StreamItem} (member : x ∈ c'.sent) :
    ∃ c, s.channels[i]? = some c ∧ x ∈ c.sent := by
  rw [Service.modifyChannel, List.getElem?_modify] at at_i'
  obtain ⟨c, at_i, changed⟩ := Option.map_eq_some_iff.mp at_i'
  refine ⟨c, at_i, ?_⟩
  split at changed
  · rwa [← changed, kept] at member
  · rwa [← changed] at member

private theorem Action.sent_cases {w : World} {a : Action} {i : Nat} {c' : Channel}
    (at_i' : (a.perform w).2.system.channels[i]? = some c') {x : StreamItem}
    (member : x ∈ c'.sent) :
    (∃ c, w.system.channels[i]? = some c ∧ x ∈ c.sent) ∨ a.Sends w x ∨ a.Greets w x := by
  have effect := a.effect w
  generalize (a.perform w).2.system = s' at effect at_i'
  cases effect with
  | calm channels =>
    rw [channels] at at_i'
    exact .inl ⟨c', at_i', member⟩
  | decided h d asked =>
    exact ((Service.Evolves.decision asked).sent_cases at_i' member).imp_right .inl
  | supervised moment woken prefer j =>
    exact ((Service.Evolves.supervision _ moment prefer j).sent_cases at_i' member).imp_right .inl
  -- the sender of an older session of the same name is released before the new channel is added
  | opened r =>
    have left : Service.Evolves w.system.Holds (Action.Sends w (.openSession r)) w.system
        (w.system.remove (Service.nextName w.entropy)) := .remove _ _
    simp only [Service.accept] at at_i'
    rcases Nat.lt_or_ge i (w.system.remove (Service.nextName w.entropy)).channels.length with
      inside | outside
    · rw [List.getElem?_append_left inside] at at_i'
      exact (left.sent_cases at_i' member).imp_right .inl
    · rw [List.getElem?_append_right outside] at at_i'
      obtain rfl := List.mem_singleton.mp (List.mem_of_getElem? at_i')
      exact .inr (.inr ⟨r, rfl, member⟩)
  | received j => exact .inl (sent_of_modify Channel.sent_receive at_i' member)
  | departed j => exact .inl (sent_of_modify (f := Channel.dropReceiver) (fun _ => rfl) at_i' member)

theorem sent_origin {b : Beginning} {as : List Action} {i : Nat} {c : Channel}
    (at_i : (run b.world as).system.channels[i]? = some c) {x : StreamItem} (member : x ∈ c.sent) :
    ∃ before a later, as = before ++ a :: later ∧
      (a.Sends (run b.world before) x ∨ a.Greets (run b.world before) x) := by
  induction as using List.reverseRecOn generalizing c with
  | nil => cases at_i
  | append_singleton as a ih =>
    rw [run_snoc] at at_i
    rcases Action.sent_cases at_i member with ⟨c₀, at_i₀, member₀⟩ | new
    · obtain ⟨before, a₀, later, rfl, sent⟩ := ih at_i₀ member₀
      exact ⟨before, a₀, later ++ [a], by rw [List.append_assoc, List.cons_append], sent⟩
    · exact ⟨as, a, [], rfl, new⟩

end DevicePairing.Session
