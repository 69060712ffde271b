import DevicePairing.Cbor.Choice

set_option autoImplicit false
set_option relaxedAutoImplicit false

namespace DevicePairing

open DevicePairing.Cbor

inductive ProtocolVersion where
  | v1
  | v2
  deriving DecidableEq

namespace ProtocolVersion

def latest : ProtocolVersion := .v2

def code : ProtocolVersion → UInt8
  | .v1 => 1
  | .v2 => 2

def ofCode? (n : UInt8) : Option ProtocolVersion :=
  if n = 1 then some .v1 else if n = 2 then some .v2 else none

def name : ProtocolVersion → String
  | .v1 => "V1"
  | .v2 => "V2"

def all : List ProtocolVersion := [.v1, .v2]

def ofName? (s : String) : Option ProtocolVersion := all.find? fun v => v.name == s

def codec : Codec ProtocolVersion :=
  Codec.choice (all.map fun v => .constant v.name v) fun v => writeText v.name

private theorem ofCode?_code (v : ProtocolVersion) : ofCode? v.code = some v := by cases v <;> rfl

end ProtocolVersion

end DevicePairing
