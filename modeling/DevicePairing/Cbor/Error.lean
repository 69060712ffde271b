import DevicePairing.Text.Binary64
import DevicePairing.Text.Numeral
import DevicePairing.Text.Quoted

set_option autoImplicit false
set_option relaxedAutoImplicit false

namespace DevicePairing.Cbor

open DevicePairing.Text (Binary64)

/-- The ways in which octets fail to be data items of the expected extent. -/
inductive Malformation where
  | endInValue
  | endInArray
  | endInMap
  | unassigned
  /-- A break, or a chunk of the wrong kind, in the place of an item. -/
  | unexpectedCode
  | lengthOutOfRange
  | invalidUtf8
  | trailingData
  | arrayTooShort
  /-- A choice written as an array that lacks the null of a variant without content. -/
  | arrayTooLong
  | tooDeep
  deriving DecidableEq

def Malformation.message : Malformation → String
  | .endInValue => "EOF while parsing a value"
  | .endInArray => "EOF while parsing an array"
  | .endInMap => "EOF while parsing a map"
  | .unassigned => "unassigned type"
  | .unexpectedCode => "unexpected code"
  | .lengthOutOfRange => "length out of range"
  | .invalidUtf8 => "invalid UTF-8"
  | .trailingData => "trailing data"
  | .arrayTooShort => "array too short"
  | .arrayTooLong => "array too long"
  | .tooDeep => "recursion limit exceeded"

/-- What stands in the place of the item that was asked for. -/
inductive Found where
  | unsigned (n : Nat)
  | negative (n : Nat)
  | bool (b : Bool)
  | float (x : Binary64)
  | text (s : String)
  | octets
  | null
  | array
  | map
  | bareVariant
  deriving DecidableEq

/-- How what was found is called. Integers below all of sixty-four bits are marked by the width
that holds them. -/
def Found.message : Found → String
  | .unsigned n => "integer `" ++ Text.Numeral.write n ++ "`"
  | .negative n =>
    "integer `-" ++ Text.Numeral.write (n + 1) ++ "`" ++ (if n < 1 <<< 63 then "" else " as i128")
  | .bool b => "boolean `" ++ (if b then "true" else "false") ++ "`"
  | .float x => "floating point `" ++ x.text ++ "`"
  | .text s => "string " ++ Text.Quoted.quote s
  | .octets => "byte array"
  | .null => "null"
  | .array => "sequence"
  | .map => "map"
  | .bareVariant => "unit variant"

/-- Why octets do not decode. -/
inductive DecodeError where
  | malformed (cause : Malformation) (offset : Nat)
  | wrongType (found : Found) (expected : String)
  /-- An item of the right type with a value outside the expected range. -/
  | wrongValue (found : Found) (expected : String)
  | wrongLength (length : Nat) (expected : String)
  | missingField (name : String)
  | duplicateField (name : String)
  | unknownVariant (name : String) (known : List String)
  deriving DecidableEq

def alternatives : List String → String
  | [] => "there are no variants"
  | [a] => "expected `" ++ a ++ "`"
  | [a, b] => "expected `" ++ a ++ "` or `" ++ b ++ "`"
  | names => "expected one of " ++ ", ".intercalate (names.map fun a => "`" ++ a ++ "`")

/-- The wording of a decoding error. A place is given unless it is the very beginning. -/
def DecodeError.message : DecodeError → String
  | .malformed cause offset =>
    if offset = 0 then cause.message
    else cause.message ++ " at offset " ++ Text.Numeral.write offset
  | .wrongType found expected =>
    "invalid type: " ++ found.message ++ ", expected " ++ expected
  | .wrongValue found expected =>
    "invalid value: " ++ found.message ++ ", expected " ++ expected
  | .wrongLength length expected =>
    "invalid length " ++ Text.Numeral.write length ++ ", expected " ++ expected
  | .missingField name => "missing field `" ++ name ++ "`"
  | .duplicateField name => "duplicate field `" ++ name ++ "`"
  | .unknownVariant name known => "unknown variant `" ++ name ++ "`, " ++ alternatives known

end DevicePairing.Cbor
