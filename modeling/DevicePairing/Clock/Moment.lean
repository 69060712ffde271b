set_option autoImplicit false
set_option relaxedAutoImplicit false

/-!
What tasks can tell of the time. A caller can move the time on; a task that waits for a time is
then not woken before the tasks that are ready went on, so these already see the new time while
the others still wait.
-/

namespace DevicePairing.Clock

/-- What tasks can tell of the time. -/
structure Moment where
  now : Nat
  woken : Nat

namespace Moment

/-- The moment at which all tasks were woken that wait for a time that has come. -/
def settled (time : Nat) : Moment := ⟨time, time⟩

/-- The moment after `ms` milliseconds at which no other task was woken yet. -/
def moved (time ms : Nat) : Moment := ⟨time + ms, time⟩

end Moment

end DevicePairing.Clock
