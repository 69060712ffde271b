set_option autoImplicit false
set_option relaxedAutoImplicit false

namespace DevicePairing.Text.Numeral

def write (n : Nat) : String := String.ofList (Nat.toDigits 10 n)

/-- The number that continues `n` by the digits, unless another character is among them. -/
def readDigits (n : Nat) : List Char → Option Nat
  | [] => some n
  | c :: s => if c.isDigit then readDigits (10 * n + (c.toNat - 48)) s else none

def read? (bound : Nat) (s : List Char) : Option Nat :=
  let digits := if s.head? = some '+' then s.tail else s
  if digits.isEmpty then none
  else (readDigits 0 digits).bind fun n => if n ≤ bound then some n else none

end DevicePairing.Text.Numeral
