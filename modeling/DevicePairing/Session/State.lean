import DevicePairing.Error.Basic

set_option autoImplicit false
set_option relaxedAutoImplicit false

namespace DevicePairing.Session

/-- How a session was decided. -/
inductive Resolution where
  | approved
  | rejected
  deriving DecidableEq

inductive State where
  | created
  | awaitingApproval
  | resolved (r : Resolution)
  | expired
  deriving DecidableEq

namespace State

def name : State → String
  | .created => "created"
  | .awaitingApproval => "awaiting-approval"
  | .resolved .approved => "approved"
  | .resolved .rejected => "rejected"
  | .expired => "expired"

def mayFollow : (next : State) → (current : State) → Bool
  | .awaitingApproval, .created => true
  | .resolved _, .awaitingApproval => true
  | .expired, .created => true
  | .expired, .awaitingApproval => true
  | _, _ => false

def transition (current next : State) : Except PairingError State :=
  if next.mayFollow current then .ok next
  else
    .error (.invalidState ("invalid pairing transition " ++ current.name ++ " -> " ++ next.name))

def isFinal : State → Bool
  | .resolved _ => true
  | .expired => true
  | _ => false

def isOpen : State → Bool
  | .awaitingApproval => true
  | _ => false

theorem not_mayFollow_of_isFinal {current : State} (h : current.isFinal = true) (next : State) :
    next.mayFollow current = false := by
  cases current <;> cases next <;> simp_all [isFinal, mayFollow]

end State

end DevicePairing.Session
