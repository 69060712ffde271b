import DevicePairing.Json.Document
import DevicePairing.Text.Numeral

set_option autoImplicit false
set_option relaxedAutoImplicit false

namespace DevicePairing.Json

open DevicePairing.Bytes (hexDigit)

/-- A character as it is written in a string: quotes, backslashes and controls by escapes. -/
def escape (c : Char) : Chars :=
  if c = '"' then ['\\', '"']
  else if c = '\\' then ['\\', '\\']
  else if c.toNat = 8 then ['\\', 'b']
  else if c.toNat = 9 then ['\\', 't']
  else if c.toNat = 10 then ['\\', 'n']
  else if c.toNat = 12 then ['\\', 'f']
  else if c.toNat = 13 then ['\\', 'r']
  else if c.toNat < 32 then
    ['\\', 'u', '0', '0', hexDigit (c.toNat / 16), hexDigit (c.toNat % 16)]
  else [c]

def printString (s : String) : Chars := '"' :: s.toList.flatMap escape ++ ['"']

mutual

/-- The text of a document. A number or a string that is not kept by value is written as null. -/
def Document.print : Document → Chars
  | .null => ['n', 'u', 'l', 'l']
  | .bool true => ['t', 'r', 'u', 'e']
  | .bool false => ['f', 'a', 'l', 's', 'e']
  | .natural n => (Text.Numeral.write n).toList
  | .otherNumber => ['n', 'u', 'l', 'l']
  | .string none => ['n', 'u', 'l', 'l']
  | .string (some s) => printString s
  | .array xs => '[' :: printElements xs ++ [']']
  | .object ms => '{' :: printMembers ms ++ ['}']

def printElements : List Document → Chars
  | [] => []
  | [x] => x.print
  | x :: y :: xs => x.print ++ ',' :: printElements (y :: xs)

def printMembers : List (Option String × Document) → Chars
  | [] => []
  | [(name, x)] => printString (name.getD "") ++ ':' :: x.print
  | (name, x) :: m :: ms =>
    printString (name.getD "") ++ ':' :: x.print ++ ',' :: printMembers (m :: ms)

end

def Document.toText (d : Document) : String := String.ofList d.print

end DevicePairing.Json
