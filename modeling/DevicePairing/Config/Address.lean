import DevicePairing.Error.Basic
import DevicePairing.Text.Blank
import DevicePairing.Text.Split

set_option autoImplicit false
set_option relaxedAutoImplicit false

namespace DevicePairing.Address

open DevicePairing.Text

def scheme : List Char := "tcp://".toList

def isHostAndPort (s : List Char) : Bool :=
  match Split.atLast? ':' s with
  | some (host, port) => !host.isEmpty && (Numeral.read? 65535 port).isSome
  | none => false

/-- The address without the white space around it and without its scheme. -/
def normalize (raw : String) : Except ConfigError String :=
  let trimmed := Blank.trim raw.toList
  let address := (Split.after? scheme trimmed).getD trimmed
  if isHostAndPort address then .ok (String.ofList address) else .error (.invalidUri raw)

def fallback : String := "127.0.0.1:2601"

def environmentVariable : String := "PAIRING_SERVER_URI"

end DevicePairing.Address
