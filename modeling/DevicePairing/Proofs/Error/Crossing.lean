import DevicePairing.Error.Wire
import DevicePairing.Proofs.Text.Numeral

set_option autoImplicit false
set_option relaxedAutoImplicit false

/-!
Errors on the other side of a connection. Two kinds of errors have no code of their own and arrive
as errors of coding; all others arrive as they were. Whatever a peer sends, what is rebuilt from it
crosses any further connection unchanged, and only the code decides whether a new attempt may
succeed.
-/

namespace DevicePairing.PairingError

def Crosses (e : PairingError) : Prop := ofWire e.toWire = e

def crossed : PairingError → PairingError
  | .config cause => .codec cause.message
  | .malformedExchangePayload payload => .codec payload
  | e => e

private theorem octetOf?_write (b : UInt8) :
    octetOf? (Text.Numeral.write b.toNat).toList = some b := by
  have small : b.toNat ≤ 255 := Nat.le_of_lt_succ b.toNat_lt
  rw [octetOf?, Text.Numeral.read?_write small, Option.map_some, UInt8.ofNat_toNat]

private theorem crosses_unknownFrameType (tag : UInt8) :
    (PairingError.unknownFrameType tag).Crosses := by
  simp only [Crosses, toWire, ofWire, octetOf?_write]

theorem crosses_protocolMismatch (requested offered : ProtocolVersion) :
    (PairingError.protocolMismatch requested offered).Crosses := by
  cases requested <;> cases offered <;> rfl

private theorem ofWire_toWire (e : PairingError) : ofWire e.toWire = e.crossed := by
  cases e with
  | unknownFrameType tag => exact crosses_unknownFrameType tag
  | protocolMismatch requested offered => exact crosses_protocolMismatch requested offered
  | _ => rfl

private theorem isRetryable_crossed (e : PairingError) : e.crossed.isRetryable = e.isRetryable := by
  cases e <;> rfl

private theorem protocolMismatch_of_mismatchOf? {message : String} {e : PairingError}
    (h : mismatchOf? message = some e) :
    ∃ requested offered, e = .protocolMismatch requested offered := by
  simp only [mismatchOf?, Option.bind_eq_bind, Option.bind_eq_some_iff] at h
  obtain ⟨_, -, requested, -, offered, -, same⟩ := h
  exact ⟨requested, offered, (Option.some.inj same).symm⟩

private theorem rebuilt_mismatch (message : String) :
    (∃ requested offered,
        ofWire ⟨.protocolMismatch, message⟩ = .protocolMismatch requested offered) ∨
      ofWire ⟨.protocolMismatch, message⟩ = .codec ("protocol mismatch: " ++ message) := by
  cases told : mismatchOf? message with
  | none =>
    right
    simp only [ofWire, told, Option.getD_none]
  | some e =>
    left
    obtain ⟨requested, offered, rfl⟩ := protocolMismatch_of_mismatchOf? told
    exact ⟨requested, offered, by simp only [ofWire, told, Option.getD_some]⟩

private theorem rebuilt_tag (message : String) :
    (∃ tag, ofWire ⟨.unknownFrameType, message⟩ = .unknownFrameType tag) ∨
      ofWire ⟨.unknownFrameType, message⟩ = .malformedFrame message := by
  cases spelt : octetOf? message.toList with
  | none =>
    right
    simp only [ofWire, spelt]
  | some tag =>
    left
    exact ⟨tag, by simp only [ofWire, spelt]⟩

private theorem crossed_ofWire (w : WireError) : (ofWire w).crossed = ofWire w := by
  obtain ⟨code, message⟩ := w
  cases code with
  | unknownFrameType =>
    rcases rebuilt_tag message with ⟨tag, rebuilt⟩ | rebuilt <;> rw [rebuilt] <;> rfl
  | protocolMismatch =>
    rcases rebuilt_mismatch message with ⟨requested, offered, rebuilt⟩ | rebuilt <;>
      rw [rebuilt] <;> rfl
  | _ => rfl

private theorem isRetryable_ofWire (w : WireError) :
    (ofWire w).isRetryable = true ↔ w.code = .transport ∨ w.code = .timeout := by
  obtain ⟨code, message⟩ := w
  cases code with
  | unknownFrameType =>
    rcases rebuilt_tag message with ⟨tag, rebuilt⟩ | rebuilt <;> simp [rebuilt, isRetryable]
  | protocolMismatch =>
    rcases rebuilt_mismatch message with ⟨requested, offered, rebuilt⟩ | rebuilt <;>
      simp [rebuilt, isRetryable]
  | _ => simp [ofWire, isRetryable]

/-- Errors keep what they are across connections, but for two kinds that become errors of coding,
and a new attempt may succeed on one side exactly if it may on the other. Whatever a peer sends,
the code alone decides this, and what is rebuilt stays the same on any further connection. -/
theorem errors_survive_crossing :
    (∀ e : PairingError, ofWire e.toWire = e.crossed ∧
      (ofWire e.toWire).isRetryable = e.isRetryable) ∧
    ∀ w : WireError,
      ((ofWire w).isRetryable = true ↔ w.code = .transport ∨ w.code = .timeout) ∧
        ofWire (ofWire w).toWire = ofWire w := by
  refine ⟨fun e => ⟨ofWire_toWire e, ?_⟩, fun w => ⟨isRetryable_ofWire w, ?_⟩⟩
  · rw [ofWire_toWire, isRetryable_crossed]
  · rw [ofWire_toWire, crossed_ofWire]

end DevicePairing.PairingError
