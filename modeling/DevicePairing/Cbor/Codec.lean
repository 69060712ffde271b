import DevicePairing.Cbor.Head
import DevicePairing.Cbor.Token

set_option autoImplicit false
set_option relaxedAutoImplicit false

namespace DevicePairing.Cbor

open DevicePairing (Bytes Key)
open DevicePairing.Text

/-- A reader of one item, given the budget of nested containers. -/
abbrev Reader (α : Type) := (depth : Nat) → Cursor → Except DecodeError (α × Cursor)

/-- How a type is written and read. -/
structure Codec (α : Type) where
  write : α → Bytes
  read : Reader α
  absent : Option α

namespace Codec

def decode {α : Type} (k : Codec α) (b : Bytes) : Except DecodeError α := do
  let (a, c) ← k.read maxDepth (Cursor.start b)
  match c.rest with
  | [] => .ok a
  | _ :: rest => .error ((c.advance 1 rest).fault .trailingData)

def convert {α β : Type} (k : Codec α) (make : α → β) (view : β → α) : Codec β where
  write := fun b => k.write (view b)
  read := fun depth c => do
    let (a, c) ← k.read depth c
    .ok (make a, c)
  absent := k.absent.map make

def textOfToken (t : Token) : Except DecodeError String :=
  match t with
  | .text s => .ok s
  | .octets b =>
    match Utf8.toString b with
    | .ok s => .ok s
    | .error _ => .error (.wrongValue .octets "a string")
  | t => t.refuse "a string"

def text : Codec String where
  write := writeText
  read := fun depth c => do
    let (t, _, c) ← Token.read depth c
    let s ← textOfToken t
    .ok (s, c)
  absent := none

def numberOfToken (bound : Nat) (expected : String) (t : Token) : Except DecodeError Nat :=
  match t with
  | .unsigned n => if n ≤ bound then .ok n else .error (.wrongValue (.unsigned n) expected)
  | .negative n =>
    if n < 1 <<< 63 then .error (.wrongValue (.negative n) expected) else t.refuse expected
  | t => t.refuse expected

def readNumber (bound : Nat) (expected : String) : Reader Nat := fun depth c => do
  let (t, _, c) ← Token.read depth c
  let n ← numberOfToken bound expected t
  .ok (n, c)

def readOctet : Reader UInt8 := fun depth c => do
  let (n, c) ← readNumber 255 "u8" depth c
  .ok (UInt8.ofNat n, c)

def uint64 : Codec UInt64 where
  write := fun n => head 0 n.toNat
  read := fun depth c => do
    let (n, c) ← readNumber ((1 <<< 64) - 1) "u64" depth c
    .ok (UInt64.ofNat n, c)
  absent := none

/-- The octets of the rest of an array, at most `limit` of them, with what is left of the array.
The fuel bounds the number of elements. -/
def readOctets : (fuel : Nat) → (limit : Nat) → (depth : Nat) → Extent → Cursor →
    Except DecodeError (Bytes × Extent × Cursor)
  | 0, _, _, _, c => .error (c.faultAtEnd .endInValue)
  | _ + 1, 0, _, x, c => .ok ([], x, c)
  | fuel + 1, limit + 1, depth, x, c => do
    match ← x.step .endInArray c with
    | none => .ok ([], x, c)
    | some next => do
      let (b, c) ← readOctet depth c
      let (bs, x, c) ← readOctets fuel limit depth next c
      .ok (b :: bs, x, c)

/-- Strings of octets, written as arrays of small numbers. -/
def octets : Codec Bytes where
  write := writeOctets
  read := fun depth c => do
    let (t, inside, c) ← Token.read depth c
    match t with
    | .array x => do
      let fuel := c.rest.length + 1
      let (b, x, c) ← readOctets fuel fuel inside x c
      let c ← x.close .endInArray c
      .ok (b, c)
    | t => t.refuse "a sequence"
  absent := none

/-- Keys, written as arrays of thirty-two small numbers. -/
def key : Codec Key where
  write := fun k => writeOctets k.octets
  read := fun depth c => do
    let (t, inside, c) ← Token.read depth c
    match t with
    | .array x => do
      let (b, x, c) ← readOctets (c.rest.length + 1) 32 inside x c
      match Key.ofBytes? b with
      | none => .error (.wrongLength b.length "an array of length 32")
      | some k => do
        let c ← x.close .endInArray c
        .ok (k, c)
    | t => t.refuse "an array of length 32"
  absent := none

def optional {α : Type} (k : Codec α) : Codec (Option α) where
  write := fun a =>
    match a with
    | none => writeNull
    | some a => k.write a
  read := fun depth c =>
    match c.rest with
    | 0xF6 :: rest => .ok (none, c.advance 1 rest)
    | _ => do
      let (a, c) ← k.read depth c
      .ok (some a, c)
  absent := some none

end Codec

end DevicePairing.Cbor
