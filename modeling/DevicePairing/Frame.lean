import DevicePairing.Message.Basic

set_option autoImplicit false
set_option relaxedAutoImplicit false

namespace DevicePairing

open DevicePairing.Text

/-- A frame of a pairing stream. -/
inductive Frame where
  | response (r : PairResponse)
  | info (text : String)
  deriving DecidableEq

namespace Frame

def responseTag : UInt8 := 1

def infoTag : UInt8 := 2

def tag : Frame → UInt8
  | .response _ => responseTag
  | .info _ => infoTag

def isTerminal : Frame → Bool
  | .response _ => true
  | .info _ => false

def tagTable : ProtocolVersion → List UInt8
  | .v1 => [responseTag, infoTag]
  | .v2 => [responseTag]

def encode : Frame → Bytes
  | .response r => responseTag :: PairResponse.codec.write r
  | .info text => infoTag :: Utf8.ofString text

def decodeResponse (payload : Bytes) : Except FrameError Frame :=
  match PairResponse.codec.decode payload with
  | .ok r => .ok (.response r)
  | .error e => .error (.payload ("pair device response: " ++ e.message))

def decodeInfo (payload : Bytes) : Except FrameError Frame :=
  match Utf8.toString payload with
  | .ok text => .ok (.info text)
  | .error f => .error (.payload ("info text: " ++ f.message))

/-- The frame that the octets hold under a version. -/
def decode (version : ProtocolVersion) : Bytes → Except FrameError Frame
  | [] => .error .empty
  | tag :: payload =>
    if tag ∉ tagTable version then .error (.unknownType tag)
    else if tag = responseTag then decodeResponse payload
    else decodeInfo payload

end Frame

end DevicePairing
