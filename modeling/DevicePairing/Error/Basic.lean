import DevicePairing.Text.Numeral
import DevicePairing.Version

set_option autoImplicit false
set_option relaxedAutoImplicit false

namespace DevicePairing

/-- Why a configuration is not usable. -/
inductive ConfigError where
  | pem (detail : String)
  | missingCertificate
  | missingKey
  | io (detail : String)
  | parse (detail : String)
  | invalidUri (address : String)
  deriving DecidableEq

def ConfigError.message : ConfigError → String
  | .pem detail => "pem: " ++ detail
  | .missingCertificate => "no certificate found in pem input"
  | .missingKey => "no private key found in pem input"
  | .io detail => "io: " ++ detail
  | .parse detail => "parse: " ++ detail
  | .invalidUri address => "invalid server uri: " ++ address

/-- Why a pairing, or one call of it, failed. -/
inductive PairingError where
  | transport (detail : String)
  | malformedFrame (detail : String)
  | unknownFrameType (tag : UInt8)
  | sessionNotFound (session : String)
  | sessionAlreadyResolved (session : String)
  | unauthorized (detail : String)
  | timeout
  | protocolMismatch (requested offered : ProtocolVersion)
  | rejected (reason : String)
  | codec (detail : String)
  | config (cause : ConfigError)
  | malformedExchangePayload (payload : String)
  | invalidState (detail : String)
  deriving DecidableEq

namespace PairingError

def message : PairingError → String
  | .transport detail => "transport error: " ++ detail
  | .malformedFrame detail => "malformed frame: " ++ detail
  | .unknownFrameType tag => "unknown frame type " ++ Text.Numeral.write tag.toNat
  | .sessionNotFound session => "session not found: " ++ session
  | .sessionAlreadyResolved session => "session already resolved: " ++ session
  | .unauthorized detail => "unauthorized: " ++ detail
  | .timeout => "pairing timed out"
  | .protocolMismatch requested offered =>
    "protocol mismatch: requested " ++ requested.name ++ ", server answered " ++ offered.name
  | .rejected reason => "pairing rejected: " ++ reason
  | .codec detail => "codec error: " ++ detail
  | .config cause => "configuration error: " ++ cause.message
  | .malformedExchangePayload payload => "malformed exchange payload: " ++ payload
  | .invalidState detail => "invalid session state: " ++ detail

/-- Whether a new session over a new connection may succeed. -/
def isRetryable : PairingError → Bool
  | .transport _ => true
  | .timeout => true
  | _ => false

end PairingError

/-- Why octets are no frame. -/
inductive FrameError where
  | empty
  | unknownType (tag : UInt8)
  | payload (detail : String)
  deriving DecidableEq

namespace FrameError

def message : FrameError → String
  | .empty => "empty frame"
  | .unknownType tag => "unknown frame type " ++ Text.Numeral.write tag.toNat
  | .payload detail => "payload: " ++ detail

def toPairingError : FrameError → PairingError
  | .empty => .malformedFrame "empty frame"
  | .unknownType tag => .unknownFrameType tag
  | .payload detail => .malformedFrame detail

end FrameError

end DevicePairing
