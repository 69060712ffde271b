set_option autoImplicit false
set_option relaxedAutoImplicit false

namespace DevicePairing.Ed25519.Field

def prime : Nat := (1 <<< 255) - 19

def add (a b : Nat) : Nat := (a + b) % prime

def neg (a : Nat) : Nat := (prime - a % prime) % prime

def sub (a b : Nat) : Nat := add a (neg b)

def mul (a b : Nat) : Nat := a * b % prime

def sq (a : Nat) : Nat := mul a a

def bits : (width : Nat) → (n : Nat) → List Bool
  | 0, _ => []
  | width + 1, n => n.testBit width :: bits width n

def pow (a n : Nat) : Nat :=
  (bits 256 n).foldl (fun r bit => if bit then mul (sq r) a else sq r) 1

def inv (a : Nat) : Nat := pow a (prime - 2)

def rootOfMinusOne : Nat :=
  0x2B8324804FC1DF0B2B4D00993DFBD7A72F431806AD2FE478C4EE1B274A0EA0B0

/-- The even square root of `u / v`, if there is one. -/
def sqrtRatio? (u v : Nat) : Option Nat :=
  let v3 := mul (sq v) v
  let v7 := mul (sq v3) v
  let r := mul (mul u v3) (pow (mul u v7) ((prime - 5) / 8))
  let check := mul v (sq r)
  let even (x : Nat) : Nat := if x % 2 = 0 then x else neg x
  if check = u % prime then some (even r)
  else if check = neg u then some (even (mul r rootOfMinusOne))
  else none

end DevicePairing.Ed25519.Field
