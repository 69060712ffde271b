import DevicePairing.Text.Numeral

set_option autoImplicit false
set_option relaxedAutoImplicit false

namespace DevicePairing.Pem.Base64

/-- Why octets are no Base64. -/
inductive Fault where
  | invalidCharacter (x : UInt8)
  | prematurePadding
  /-- An end that neither fills a group of four nor is padded to one. -/
  | invalidTrailingPadding
  deriving DecidableEq

def Fault.message : Fault → String
  | .invalidCharacter x => "InvalidCharacter(" ++ Text.Numeral.write x.toNat ++ ")"
  | .prematurePadding => "PrematurePadding"
  | .invalidTrailingPadding => "InvalidTrailingPadding"

/-- What an octet stands for. -/
inductive Symbol where
  | digit (n : Nat)
  | padding
  deriving DecidableEq

def isBlank (x : UInt8) : Bool := (9 ≤ x && x ≤ 13) || x = 32

def symbol? (x : UInt8) : Option Symbol :=
  if 65 ≤ x ∧ x ≤ 90 then some (.digit (x.toNat - 65))
  else if 97 ≤ x ∧ x ≤ 122 then some (.digit (x.toNat - 71))
  else if 48 ≤ x ∧ x ≤ 57 then some (.digit (x.toNat + 4))
  else if x = 43 then some (.digit 62)
  else if x = 47 then some (.digit 63)
  else if x = 61 then some .padding
  else none

/-- The six bits of every symbol, unless padding is among them. -/
def digits? : List Symbol → Option (List Nat)
  | [] => some []
  | .digit n :: s => (digits? s).map (n :: ·)
  | .padding :: _ => none

def octetsOfFour (a b c d : Nat) : List UInt8 :=
  [UInt8.ofNat (a * 4 + b / 16), UInt8.ofNat (b * 16 + c / 4), UInt8.ofNat (c * 64 + d)]

def octetsOfDigits : List Nat → List UInt8
  | a :: b :: c :: d :: rest => octetsOfFour a b c d ++ octetsOfDigits rest
  | _ => []

/-- The octets of four symbols or fewer that end a text. -/
def decodeEnd : List Symbol → Except Fault (List UInt8)
  | [] => .ok []
  | [.digit a, .digit b, .digit c, .digit d] => .ok (octetsOfFour a b c d)
  | [.digit a, .digit b, .digit c, .padding] => .ok ((octetsOfFour a b c 0).take 2)
  | [.digit a, .digit b, .digit c] => .ok ((octetsOfFour a b c 0).take 2)
  | [.digit a, .digit b, .padding, .padding] => .ok ((octetsOfFour a b 0 0).take 1)
  | [.digit a, .digit b] => .ok ((octetsOfFour a b 0 0).take 1)
  | _ => .error .invalidTrailingPadding

def decodeInner (s : List Symbol) : Except Fault (List UInt8) :=
  match digits? s with
  | some ds => .ok (octetsOfDigits ds)
  | none => .error .prematurePadding

def decodeLast (s : List Symbol) : Except Fault (List UInt8) := do
  if s.length ≤ 4 then decodeEnd s
  else
    let front ← decodeInner (s.take 4)
    let back ← decodeEnd (s.drop 4)
    .ok (front ++ back)

/-- The octets of a text of which the symbols in `held`, at most eight, are read but not
decoded. -/
def decodeFrom (held : List Symbol) : List UInt8 → Except Fault (List UInt8)
  | [] => decodeLast held
  | x :: rest =>
    if isBlank x then decodeFrom held rest
    else
      match symbol? x with
      | none => .error (.invalidCharacter x)
      | some s =>
        if held.length < 8 then decodeFrom (held ++ [s]) rest
        else do
          let front ← decodeInner held
          let back ← decodeFrom [s] rest
          .ok (front ++ back)

def decode (b : List UInt8) : Except Fault (List UInt8) := decodeFrom [] b

end DevicePairing.Pem.Base64
