import DevicePairing.Bytes

set_option autoImplicit false
set_option relaxedAutoImplicit false

namespace DevicePairing

/-- A source of random octets, of which some requests have been answered. -/
structure Entropy where
  octet : (request position : Nat) → UInt8
  requests : Nat

namespace Entropy

/-- The answer to the next request, for `n` octets. -/
def draw (e : Entropy) (n : Nat) : Bytes × Entropy :=
  ((List.range n).map (e.octet e.requests), ⟨e.octet, e.requests + 1⟩)

@[simp] theorem length_draw (e : Entropy) (n : Nat) : (e.draw n).1.length = n := by
  simp [draw]

def drawKey (e : Entropy) : Key × Entropy :=
  (⟨(e.draw 32).1, length_draw e 32⟩, (e.draw 32).2)

end Entropy

/-- The time of issue that goes with the wall clock: the seconds since the beginning of the
epoch, none before it. -/
def issueTime (seconds : Int) : UInt64 := UInt64.ofNat seconds.toNat

end DevicePairing
