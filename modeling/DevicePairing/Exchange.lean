import DevicePairing.Error.Basic
import DevicePairing.Text.Blank
import DevicePairing.Text.Split

set_option autoImplicit false
set_option relaxedAutoImplicit false

namespace DevicePairing

open DevicePairing.Text

/-- The name of a session: a random universally unique identifier in its usual text, hexadecimal
with hyphens. Version and variant are fixed; the other bits are the given random octets, the last
one first. -/
def sessionName (random : Bytes) : String :=
  let octets := random.reverse.zipIdx.map fun (x, i) =>
    if i = 6 then (x &&& 0x4F) ||| 0x40
    else if i = 8 then (x &&& 0xBF) ||| 0x80
    else x
  let group (start length : Nat) : String := Bytes.toHex ((octets.drop start).take length)
  "-".intercalate [group 0 4, group 4 2, group 6 2, group 8 2, group 10 6]

namespace Exchange

def scheme : String := "pairing"

def payload (session : String) : String := scheme ++ ":" ++ session

/-- The session that an exchange payload names. White space around the payload does not count. -/
def session (payload : String) : Except PairingError String :=
  match Split.atFirst? ':' (Blank.trim payload.toList) with
  | some (before, c :: after) =>
    if before = scheme.toList then .ok (String.ofList (c :: after))
    else .error (.malformedExchangePayload payload)
  | _ => .error (.malformedExchangePayload payload)

end Exchange

end DevicePairing
