import DevicePairing.Bytes
import DevicePairing.Text.Split

set_option autoImplicit false
set_option relaxedAutoImplicit false

/-!
JSON documents: the strict grammar, and the compact text of a document. Numbers are kept as far
as a configuration needs them: naturals by value, all others as such. A string whose escapes do
not pair up to characters is well-formed but names no text.
-/

namespace DevicePairing.Json

open DevicePairing.Bytes (hexValue?)
open DevicePairing.Text.Split (after?)

inductive Document where
  | null
  | bool (b : Bool)
  | natural (n : Nat)
  | otherNumber
  | string (text : Option String)
  | array (elements : List Document)
  | object (members : List (Option String × Document))

abbrev Chars := List Char

def isBlank (c : Char) : Bool := c = ' ' || c = '\n' || c = '\t' || c = '\r'

def skipBlank (s : Chars) : Chars := s.dropWhile isBlank

def codeUnit? (a b c d : Char) : Option Nat := do
  let a ← hexValue? a
  let b ← hexValue? b
  let c ← hexValue? c
  let d ← hexValue? d
  some (((a * 16 + b) * 16 + c) * 16 + d)

def shortEscape? (c : Char) : Option Char :=
  match c with
  | '"' => some '"'
  | '\\' => some '\\'
  | '/' => some '/'
  | 'b' => some (Char.ofNat 8)
  | 'f' => some (Char.ofNat 12)
  | 'n' => some '\n'
  | 'r' => some '\r'
  | 't' => some '\t'
  | _ => none

/-- The code units of a string after its opening quote, up to and with the closing one. A
character beyond the sixteen-bit ones is one unit here. -/
def readUnits : Chars → Option (List Nat × Chars)
  | [] => none
  | '"' :: s => some ([], s)
  | '\\' :: 'u' :: a :: b :: c :: d :: s => do
    let u ← codeUnit? a b c d
    let (us, s) ← readUnits s
    some (u :: us, s)
  | '\\' :: c :: s => do
    let x ← shortEscape? c
    let (us, s) ← readUnits s
    some (x.toNat :: us, s)
  | c :: s =>
    if c.toNat < 0x20 ∨ c = '\\' then none
    else do
      let (us, s) ← readUnits s
      some (c.toNat :: us, s)

/-- The characters of code units, surrogates being paired; none if one is left alone. -/
def charsOfUnits : List Nat → Option (List Char)
  | [] => some []
  | [u] => if 0xD800 ≤ u ∧ u < 0xE000 then none else some [Char.ofNat u]
  | u :: v :: us =>
    if 0xD800 ≤ u ∧ u < 0xDC00 then
      if 0xDC00 ≤ v ∧ v < 0xE000 then
        (charsOfUnits us).map
          (Char.ofNat (0x10000 + (u - 0xD800) * 0x400 + (v - 0xDC00)) :: ·)
      else none
    else if 0xDC00 ≤ u ∧ u < 0xE000 then none
    else (charsOfUnits (v :: us)).map (Char.ofNat u :: ·)

def readString (s : Chars) : Option (Option String × Chars) := do
  let (us, s) ← readUnits s
  some ((charsOfUnits us).map String.ofList, s)

def readDigits (s : Chars) : Chars × Chars := (s.takeWhile Char.isDigit, s.dropWhile Char.isDigit)

def skipFraction (s : Chars) : Option Chars :=
  match s with
  | '.' :: s =>
    let (ds, s) := readDigits s
    if ds.isEmpty then none else some s
  | s => some s

def skipExponent (s : Chars) : Option Chars :=
  match s with
  | c :: s =>
    if c = 'e' ∨ c = 'E' then
      let (ds, s) := readDigits (if s.head? = some '+' ∨ s.head? = some '-' then s.tail else s)
      if ds.isEmpty then none else some s
    else some (c :: s)
  | [] => some []

def naturalOfDigits (ds : Chars) : Nat := ds.foldl (fun n c => 10 * n + (c.toNat - 48)) 0

def isFractional (s : Chars) : Bool :=
  match s with
  | c :: _ => c = '.' || c = 'e' || c = 'E'
  | [] => false

def readNumber (s : Chars) : Option (Document × Chars) := do
  let negative := s.head? = some '-'
  let (ds, rest) := readDigits (if negative then s.tail else s)
  if ds.isEmpty ∨ (ds.head? = some '0' ∧ 1 < ds.length) then none
  let afterFraction ← skipFraction rest
  let afterAll ← skipExponent afterFraction
  if negative ∨ isFractional rest then some (.otherNumber, afterAll)
  else some (.natural (naturalOfDigits ds), afterAll)

mutual

/-- The document that a text begins with. The fuel bounds the number of steps. -/
def readValue : (fuel : Nat) → Chars → Option (Document × Chars)
  | 0, _ => none
  | fuel + 1, s =>
    match skipBlank s with
    | [] => none
    | '"' :: s => (readString s).map fun (text, s) => (.string text, s)
    | '[' :: s =>
      match skipBlank s with
      | ']' :: s => some (.array [], s)
      | s => (readElements fuel s).map fun (xs, s) => (.array xs, s)
    | '{' :: s =>
      match skipBlank s with
      | '}' :: s => some (.object [], s)
      | s => (readMembers fuel s).map fun (xs, s) => (.object xs, s)
    | 'n' :: s => (after? ['u', 'l', 'l'] s).map fun s => (.null, s)
    | 't' :: s => (after? ['r', 'u', 'e'] s).map fun s => (.bool true, s)
    | 'f' :: s => (after? ['a', 'l', 's', 'e'] s).map fun s => (.bool false, s)
    | s => readNumber s

def readElements : (fuel : Nat) → Chars → Option (List Document × Chars)
  | 0, _ => none
  | fuel + 1, s => do
    let (x, s) ← readValue fuel s
    match skipBlank s with
    | ',' :: s => do
      let (xs, s) ← readElements fuel s
      some (x :: xs, s)
    | ']' :: s => some ([x], s)
    | _ => none

def readMembers : (fuel : Nat) → Chars → Option (List (Option String × Document) × Chars)
  | 0, _ => none
  | fuel + 1, s =>
    match skipBlank s with
    | '"' :: s => do
      let (name, s) ← readString s
      match skipBlank s with
      | ':' :: s => do
        let (x, s) ← readValue fuel s
        match skipBlank s with
        | ',' :: s => do
          let (xs, s) ← readMembers fuel s
          some ((name, x) :: xs, s)
        | '}' :: s => some ([(name, x)], s)
        | _ => none
      | _ => none
    | _ => none

end

def Document.parse? (text : String) : Option Document := do
  let s := text.toList
  let (x, rest) ← readValue (2 * s.length + 2) s
  if (skipBlank rest).isEmpty then some x else none

end DevicePairing.Json
