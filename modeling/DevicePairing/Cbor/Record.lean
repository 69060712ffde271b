import DevicePairing.Cbor.Codec

set_option autoImplicit false
set_option relaxedAutoImplicit false

/-!
Records: maps from field names to items. A record is written with its fields in the order of
their declaration. It is read from a map in any order, by name or by number, other entries being
passed over, or from an array of the fields in their order.
-/

namespace DevicePairing.Cbor

open DevicePairing (Bytes)
open DevicePairing.Text

/-- The fields of a record, in the order of their declaration. -/
inductive Fields : List Type → Type 1 where
  | none : Fields []
  | field {α : Type} {αs : List Type} (name : String) (codec : Codec α) (more : Fields αs) :
      Fields (α :: αs)

def Tuple : List Type → Type
  | [] => Unit
  | α :: αs => α × Tuple αs

def Draft : List Type → Type
  | [] => Unit
  | α :: αs => Option α × Draft αs

namespace Fields

def names {αs : List Type} : Fields αs → List String
  | .none => []
  | .field name _ more => name :: more.names

def blank {αs : List Type} : Fields αs → Draft αs
  | .none => ()
  | .field _ _ more => (Option.none, more.blank)

def write {αs : List Type} : Fields αs → Tuple αs → Bytes
  | .none, _ => []
  | .field name codec more, (a, as) => writeText name ++ codec.write a ++ more.write as

/-- Reads the item of the field with the given number into its place. -/
def readAt {αs : List Type} : Fields αs → (index : Nat) → Draft αs → Reader (Draft αs)
  | .none, _, d, _, c => .ok (d, c)
  | .field name codec _, 0, (slot, d), depth, c =>
    match slot with
    | some _ => .error (.duplicateField name)
    | Option.none => do
      let (a, c) ← codec.read depth c
      .ok ((some a, d), c)
  | .field _ _ more, index + 1, (slot, d), depth, c => do
    let (d, c) ← more.readAt index d depth c
    .ok ((slot, d), c)

/-- The values of a draft, the first field that lacks one being refused unless it may be absent. -/
def finish {αs : List Type} : Fields αs → Draft αs → Except DecodeError (Tuple αs)
  | .none, _ => .ok ()
  | .field name codec more, (slot, d) => do
    let a ←
      match slot, codec.absent with
      | some a, _ => .ok a
      | Option.none, some a => .ok a
      | Option.none, Option.none => .error (.missingField name)
    let as ← more.finish d
    .ok (a, as)

/-- Reads the fields from the elements of an array, `index` being the number of the first one. -/
def readInOrder {αs : List Type} (tooShort : Nat → DecodeError) :
    Fields αs → (index : Nat) → (depth : Nat) → Extent → Cursor →
      Except DecodeError (Tuple αs × Extent × Cursor)
  | .none, _, _, x, c => .ok ((), x, c)
  | .field _ codec more, index, depth, x, c => do
    match ← x.step .endInArray c with
    | Option.none => .error (tooShort index)
    | some x => do
      let (a, c) ← codec.read depth c
      let (as, x, c) ← more.readInOrder tooShort (index + 1) depth x c
      .ok ((a, as), x, c)

end Fields

def fieldOfToken (names : List String) (t : Token) : Except DecodeError (Option Nat) :=
  match t with
  | .unsigned n => .ok (if n < names.length then some n else none)
  | .text s => .ok (names.findIdx? (· == s))
  | .octets b => .ok (names.findIdx? fun name => Utf8.ofString name == b)
  | t => t.refuse "field identifier"

/-- Reads the rest of a map into a draft. The fuel is more than the number of octets left, so that
twice as much bounds the steps in which an item is passed over. -/
def readEntries {αs : List Type} (fields : Fields αs) : (fuel : Nat) → (depth : Nat) →
    Extent → Draft αs → Cursor → Except DecodeError (Draft αs × Extent × Cursor)
  | 0, _, _, _, c => .error (c.faultAtEnd .endInValue)
  | fuel + 1, depth, x, d, c => do
    match ← x.step .endInMap c with
    | none => .ok (d, x, c)
    | some x => do
      let (t, _, c) ← Token.read depth c
      match ← fieldOfToken fields.names t with
      | none => do
        let c ← skip (2 * fuel + 2) depth c
        readEntries fields fuel depth x d c
      | some index => do
        let (d, c) ← fields.readAt index d depth c
        readEntries fields fuel depth x d c

namespace Codec

def elementCount (n : Nat) : String :=
  if n = 1 then "1 element" else Text.Numeral.write n ++ " elements"

/-- Records with the given fields, expected under the given title. -/
def record {αs : List Type} (title : String) (fields : Fields αs) : Codec (Tuple αs) where
  write := fun as => head 5 fields.names.length ++ fields.write as
  read := fun depth c => do
    let (t, inside, c) ← Token.read depth c
    match t with
    | .map x => do
      let (d, x, c) ← readEntries fields (c.rest.length + 1) inside x fields.blank c
      let as ← fields.finish d
      let c ← x.close .endInMap c
      .ok (as, c)
    | .array x => do
      let tooShort := fun n =>
        .wrongLength n (title ++ " with " ++ elementCount fields.names.length)
      let (as, x, c) ← fields.readInOrder tooShort 0 inside x c
      let c ← x.close .endInArray c
      .ok (as, c)
    | t => t.refuse title
  absent := none

end Codec

end DevicePairing.Cbor
