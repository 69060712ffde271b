import DevicePairing.Text.Numeral
import DevicePairing.Text.Quoted

set_option autoImplicit false
set_option relaxedAutoImplicit false

namespace DevicePairing.Text.Outline

def record (name : String) (fields : List (String × String)) : String :=
  name ++ " \x7b " ++ ", ".intercalate (fields.map fun (k, v) => k ++ ": " ++ v) ++ " \x7d"

def partialRecord (name : String) (fields : List (String × String)) : String :=
  name ++ " \x7b " ++ ", ".intercalate (fields.map fun (k, v) => k ++ ": " ++ v) ++ ", .. \x7d"

def wrapped (name content : String) : String := name ++ "(" ++ content ++ ")"

def text (s : String) : String := Quoted.quote s

def number (n : Nat) : String := Numeral.write n

def bool (b : Bool) : String := if b then "true" else "false"

def octets (b : List UInt8) : String :=
  "[" ++ ", ".intercalate (b.map fun x => Numeral.write x.toNat) ++ "]"

def optionalText : Option String → String
  | none => "None"
  | some s => wrapped "Some" (text s)

end DevicePairing.Text.Outline
