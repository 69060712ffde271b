import DevicePairing.Text.Escaped

set_option autoImplicit false
set_option relaxedAutoImplicit false

namespace DevicePairing.Text.Quoted

/-- The hexadecimal digits of a number, lower-case and without leading zeros. -/
def hexDigits (n : Nat) : List Char := Nat.toDigits 16 n

def escapeByNumber (c : Char) : List Char :=
  ['\\', 'u', Char.ofNat 0x7B] ++ hexDigits c.toNat ++ [Char.ofNat 0x7D]

def escape (c : Char) : List Char :=
  if c.toNat = 0 then ['\\', '0']
  else if c.toNat = 0x09 then ['\\', 't']
  else if c.toNat = 0x0A then ['\\', 'n']
  else if c.toNat = 0x0D then ['\\', 'r']
  else if c.toNat = 0x22 then ['\\', '"']
  else if c.toNat = 0x5C then ['\\', '\\']
  else if c.toNat < 0x20 || c.toNat = 0x7F then escapeByNumber c
  else if c.toNat < 0x80 then [c]
  else if Escaped.isEscaped c then escapeByNumber c
  else [c]

def quote (s : String) : String :=
  String.ofList (['"'] ++ s.toList.flatMap escape ++ ['"'])

end DevicePairing.Text.Quoted
