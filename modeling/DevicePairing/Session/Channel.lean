import DevicePairing.Error.Basic

set_option autoImplicit false
set_option relaxedAutoImplicit false

/-!
The channel from a session to its new device. It is first in, first out; what is in it outlives
the senders, and nothing can be sent once the receiver is gone. A channel keeps all that was ever
sent, so that its history can be read off it.
-/

namespace DevicePairing.Session

open DevicePairing (Bytes PairingError)

/-- What is sent to a new device: the octets of a frame, or the error that ends its stream. -/
abbrev StreamItem := Except PairingError Bytes

structure Channel where
  capacity : Nat
  sent : List StreamItem
  taken : Nat
  senders : Nat
  receiving : Bool

inductive Receipt where
  | item (x : StreamItem)
  | pending
  | closed

namespace Channel

def create (capacity : Nat) : Channel := ⟨capacity, [], 0, 1, true⟩

def queued (c : Channel) : List StreamItem := c.sent.drop c.taken

def isFull (c : Channel) : Bool := c.capacity ≤ c.queued.length

/-- The channel after an item was sent, unless the receiver is gone. -/
def send? (c : Channel) (x : StreamItem) : Option Channel :=
  if c.receiving then some { c with sent := c.sent ++ [x] } else none

/-- The channel after an item was sent without waiting, or why that is not possible. -/
def sendNow (c : Channel) (x : StreamItem) : Except String Channel :=
  if !c.receiving then .error "channel closed"
  else if c.isFull then .error "no available capacity"
  else .ok { c with sent := c.sent ++ [x] }

def addSender (c : Channel) : Channel := { c with senders := c.senders + 1 }

def dropSender (c : Channel) : Channel := { c with senders := c.senders - 1 }

def dropReceiver (c : Channel) : Channel := { c with receiving := false }

def receive (c : Channel) : Receipt × Channel :=
  match c.queued with
  | x :: _ => (.item x, { c with taken := c.taken + 1 })
  | [] => (if c.senders = 0 then .closed else .pending, c)

end Channel

end DevicePairing.Session
