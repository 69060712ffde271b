import DevicePairing.Cbor.Error
import DevicePairing.Text.Utf8

set_option autoImplicit false
set_option relaxedAutoImplicit false

/-!
Reading data items one token at a time. A token is a whole item, or the head of an array or a map
whose contents follow. Tags are passed over. A budget of containers and tags that may still be
opened inside one another is handed down; the one that would exhaust it is refused.
-/

namespace DevicePairing.Cbor

open DevicePairing (Bytes)
open DevicePairing.Text

/-- A place in the input: what follows it and how many octets are before it. -/
structure Cursor where
  rest : Bytes
  offset : Nat

namespace Cursor

def start (b : Bytes) : Cursor := ⟨b, 0⟩

/-- The place after `n` octets more, the octets after it being given. -/
def advance (c : Cursor) (n : Nat) (rest : Bytes) : Cursor := ⟨rest, c.offset + n⟩

def fault (c : Cursor) (cause : Malformation) : DecodeError := .malformed cause c.offset

def faultAtEnd (c : Cursor) (cause : Malformation) : DecodeError :=
  .malformed cause (c.offset + c.rest.length)

def next (c : Cursor) : Except DecodeError (UInt8 × Cursor) :=
  match c.rest with
  | [] => .error (c.faultAtEnd .endInValue)
  | x :: rest => .ok (x, c.advance 1 rest)

def take (c : Cursor) (n : Nat) : Except DecodeError (Bytes × Cursor) :=
  match Bytes.split? n c.rest with
  | none => .error (c.faultAtEnd .endInValue)
  | some (b, rest) => .ok (b, c.advance n rest)

def number (c : Cursor) (n : Nat) : Except DecodeError (Nat × Cursor) := do
  let (b, c) ← c.take n
  .ok (Bytes.toNatBE b, c)

/-- The argument that the low five bits of a head announce: the bits themselves or the number in
one, two, four or eight octets more. Nothing for the bits of an open length. -/
def argument (c : Cursor) (info : Nat) : Except DecodeError (Option Nat × Cursor) :=
  if info < 24 then .ok (some info, c)
  else if info ≤ 27 then do
    let (n, c) ← c.number (1 <<< (info - 24))
    .ok (some n, c)
  else if info = 31 then .ok (none, c)
  else .error (c.fault .unassigned)

end Cursor

/-- How much of a container is still to come. -/
inductive Extent where
  | definite (n : Nat)
  | untilBreak
  deriving DecidableEq

namespace Extent

def ofArgument : Option Nat → Extent
  | some n => .definite n
  | none => .untilBreak

/-- The extent after one element more, or nothing at the end of the container. The malformation
is the one of an input that ends here. -/
def step (x : Extent) (atEnd : Malformation) (c : Cursor) :
    Except DecodeError (Option Extent) :=
  match x with
  | .definite 0 => .ok none
  | .definite (n + 1) => .ok (some (.definite n))
  | .untilBreak =>
    match c.rest with
    | [] => .error (c.faultAtEnd atEnd)
    | 0xFF :: _ => .ok none
    | _ => .ok (some .untilBreak)

def close (x : Extent) (atEnd : Malformation) (c : Cursor) : Except DecodeError Cursor :=
  match x with
  | .definite 0 => .ok c
  | .definite _ => .error (c.fault .trailingData)
  | .untilBreak =>
    match c.rest with
    | [] => .error (c.faultAtEnd atEnd)
    | 0xFF :: rest => .ok (c.advance 1 rest)
    | _ :: rest => .error ((c.advance 1 rest).fault .trailingData)

end Extent

/-- A data item, or the head of a container. -/
inductive Token where
  | unsigned (n : Nat)
  | negative (n : Nat)
  | octets (b : Bytes)
  | text (s : String)
  | array (x : Extent)
  | map (x : Extent)
  | bool (b : Bool)
  | null
  | float (x : Binary64)

namespace Token

def found : Token → Found
  | .unsigned n => .unsigned n
  | .negative n => .negative n
  | .octets _ => .octets
  | .text s => .text s
  | .array _ => .array
  | .map _ => .map
  | .bool b => .bool b
  | .null => .null
  | .float x => .float x

def refuse {α : Type} (t : Token) (expected : String) : Except DecodeError α :=
  .error (.wrongType t.found expected)

def readChunks (major : Nat) : (fuel : Nat) → Cursor → Except DecodeError (Bytes × Cursor)
  | 0, c => .error (c.faultAtEnd .endInValue)
  | fuel + 1, c => do
    let (x, c) ← c.next
    if x = 0xFF then .ok ([], c)
    else if x.toNat / 32 = major ∧ x.toNat % 32 ≤ 27 then do
      let (n, c) ← c.argument (x.toNat % 32)
      let (b, c) ← c.take (n.getD 0)
      let (more, c) ← readChunks major fuel c
      .ok (b ++ more, c)
    else .error (c.fault .unexpectedCode)

/-- A string of the given major type, the argument of whose head has been read. -/
def readString (major : Nat) (length : Option Nat) (c : Cursor) :
    Except DecodeError (Bytes × Cursor) :=
  match length with
  | some n => c.take n
  | none => readChunks major (c.rest.length + 1) c

def toText (b : Bytes) (c : Cursor) : Except DecodeError String :=
  match Utf8.toString b with
  | .ok s => .ok s
  | .error f => .error (.malformed .invalidUtf8 (c.offset - (b.length - f.validUpTo)))

/-- A token of major type seven, whose low five bits are given. -/
def readSimple (info : Nat) (c : Cursor) : Except DecodeError (Token × Cursor) :=
  match info with
  | 20 => .ok (.bool false, c)
  | 21 => .ok (.bool true, c)
  | 22 => .ok (.null, c)
  | 23 => .ok (.null, c)
  | 25 => do
    let (n, c) ← c.number 2
    .ok (.float (Binary64.ofHalf n), c)
  | 26 => do
    let (n, c) ← c.number 4
    .ok (.float (Binary64.ofSingle n), c)
  | 27 => do
    let (n, c) ← c.number 8
    .ok (.float (Binary64.ofDouble n), c)
  | 31 => .error (c.fault .unexpectedCode)
  | _ => .error (c.fault .unassigned)

/-- The budget inside a container or a tag that is opened at a place. -/
def descend (depth : Nat) (c : Cursor) : Except DecodeError Nat :=
  if depth ≤ 1 then .error (c.fault .tooDeep) else .ok (depth - 1)

/-- The next token, with the budget inside it and the place after it. -/
def read : (depth : Nat) → Cursor → Except DecodeError (Token × Nat × Cursor)
  | 0, c => .error (c.fault .tooDeep)
  | depth + 1, c => do
    let (x, c) ← c.next
    let major := x.toNat / 32
    let info := x.toNat % 32
    if major = 7 then do
      let (t, c) ← readSimple info c
      .ok (t, depth + 1, c)
    else if info = 31 ∧ (major ≤ 1 ∨ major = 6) then .error (c.fault .unassigned)
    else do
      let (n, c) ← c.argument info
      match major with
      | 0 => .ok (.unsigned (n.getD 0), depth + 1, c)
      | 1 => .ok (.negative (n.getD 0), depth + 1, c)
      | 2 => do
        let (b, c) ← readString 2 n c
        .ok (.octets b, depth + 1, c)
      | 3 => do
        if 1 <<< 64 ≤ c.offset + n.getD 0 then .error (c.fault .lengthOutOfRange)
        let (b, c) ← readString 3 n c
        let s ← toText b c
        .ok (.text s, depth + 1, c)
      | 4 => do
        let inside ← descend (depth + 1) c
        .ok (.array (Extent.ofArgument n), inside, c)
      | 5 => do
        let inside ← descend (depth + 1) c
        .ok (.map (Extent.ofArgument n), inside, c)
      | _ => do
        let _ ← descend (depth + 1) c
        read depth c

end Token

/-- The number of containers and tags that may be opened inside one another, and one more. -/
def maxDepth : Nat := 128

mutual

/-- The place after the next item, whatever it is. The fuel bounds the number of steps; every token
has an octet of its own, so that twice the number of octets left is enough. -/
def skip : (fuel : Nat) → (depth : Nat) → Cursor → Except DecodeError Cursor
  | 0, _, c => .error (c.faultAtEnd .endInValue)
  | fuel + 1, depth, c => do
    let (t, inside, c) ← Token.read depth c
    match t with
    | .array x => skipElements fuel inside x c
    | .map x => skipEntries fuel inside x c
    | _ => .ok c

def skipElements : (fuel : Nat) → (depth : Nat) → Extent → Cursor → Except DecodeError Cursor
  | 0, _, _, c => .error (c.faultAtEnd .endInValue)
  | fuel + 1, depth, x, c => do
    match ← x.step .endInArray c with
    | none => x.close .endInArray c
    | some x => do
      let c ← skip fuel depth c
      skipElements fuel depth x c

def skipEntries : (fuel : Nat) → (depth : Nat) → Extent → Cursor → Except DecodeError Cursor
  | 0, _, _, c => .error (c.faultAtEnd .endInValue)
  | fuel + 1, depth, x, c => do
    match ← x.step .endInMap c with
    | none => x.close .endInMap c
    | some x => do
      let c ← skip fuel depth c
      let c ← skip fuel depth c
      skipEntries fuel depth x c

end

end DevicePairing.Cbor
