import DevicePairing.Text.Utf8

set_option autoImplicit false
set_option relaxedAutoImplicit false

namespace DevicePairing.Cbor

open DevicePairing (Bytes)
open DevicePairing.Text

/-- The head of an item of the given major type with the argument `n`, in the fewest octets. -/
def head (major n : Nat) : Bytes :=
  let initial (k : Nat) : UInt8 := UInt8.ofNat (32 * major + k)
  if n < 24 then [initial n]
  else if n < 1 <<< 8 then initial 24 :: Bytes.bigEndian 1 n
  else if n < 1 <<< 16 then initial 25 :: Bytes.bigEndian 2 n
  else if n < 1 <<< 32 then initial 26 :: Bytes.bigEndian 4 n
  else initial 27 :: Bytes.bigEndian 8 n

def writeNull : Bytes := [0xF6]

def writeText (s : String) : Bytes :=
  let b := Utf8.ofString s
  head 3 b.length ++ b

def writeOctets (b : Bytes) : Bytes :=
  head 4 b.length ++ b.flatMap fun x => head 0 x.toNat

end DevicePairing.Cbor
