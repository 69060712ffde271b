import DevicePairing.Cbor.Codec

set_option autoImplicit false
set_option relaxedAutoImplicit false

namespace DevicePairing.Cbor

open DevicePairing (Bytes)
open DevicePairing.Text

/-- One alternative of a choice. -/
inductive Variant (α : Type) where
  | constant (name : String) (value : α)
  /-- The values that a content makes; `form` is what is expected where the content is lacking. -/
  | carrying (name : String) (form : String) (content : Reader α)

namespace Variant

def name {α : Type} : Variant α → String
  | .constant name _ => name
  | .carrying name _ _ => name

def wrapping {α β : Type} (name : String) (content : Codec β) (make : β → α) : Variant α :=
  .carrying name "newtype variant" fun depth c => do
    let (b, c) ← content.read depth c
    .ok (make b, c)

def withFields {α β : Type} (name : String) (content : Codec β) (make : β → α) : Variant α :=
  .carrying name "struct variant" fun depth c => do
    let (b, c) ← content.read depth c
    .ok (make b, c)

end Variant

def writeVariant (name : String) (content : Bytes) : Bytes := head 5 1 ++ writeText name ++ content

def variantOfToken {α : Type} (variants : List (Variant α)) (t : Token) :
    Except DecodeError (Variant α) :=
  let names := variants.map Variant.name
  match t with
  | .unsigned n =>
    match variants[n]? with
    | some v => .ok v
    | none =>
      .error (.wrongValue (.unsigned n)
        ("variant index 0 <= i < " ++ Text.Numeral.write variants.length))
  | .text s =>
    match variants.find? (fun v => v.name == s) with
    | some v => .ok v
    | none => .error (.unknownVariant s names)
  | .octets b =>
    match variants.find? (fun v => Utf8.ofString v.name == b) with
    | some v => .ok v
    | none => .error (.unknownVariant (String.ofList (Utf8.decodeLossy b)) names)
  | t => t.refuse "variant identifier"

def readVariant {α : Type} (variants : List (Variant α)) : Reader (Variant α) :=
  fun depth c => do
    let (t, _, c) ← Token.read depth c
    let v ← variantOfToken variants t
    .ok (v, c)

/-- Reads the null that stands for the content of a variant without one. -/
def readUnit : Reader Unit := fun depth c => do
  let (t, _, c) ← Token.read depth c
  match t with
  | .null => .ok ((), c)
  | t => t.refuse "unit"

def readContent {α : Type} (v : Variant α) : Reader α := fun depth c =>
  match v with
  | .constant _ value => do
    let ((), c) ← readUnit depth c
    .ok (value, c)
  | .carrying _ _ content => content depth c

/-- Reads the elements of an array that holds a variant and its content. -/
def readPair {α : Type} (variants : List (Variant α)) (x : Extent) : Reader α :=
  fun depth c => do
    match ← x.step .endInArray c with
    | none => .error (c.fault .arrayTooShort)
    | some x => do
      let (v, c) ← readVariant variants depth c
      match ← x.step .endInArray c with
      | none =>
        match v with
        | .constant _ _ => .error (c.fault .arrayTooLong)
        | .carrying _ _ _ => .error (c.fault .arrayTooShort)
      | some x => do
        let (a, c) ← readContent v depth c
        let c ← x.close .endInArray c
        .ok (a, c)

namespace Codec

def choice {α : Type} (variants : List (Variant α)) (write : α → Bytes) : Codec α where
  write := write
  read := fun depth c =>
    match c.rest with
    | [] => .error (c.faultAtEnd .endInValue)
    | x :: rest =>
      if x.toNat / 32 = 4 then do
        let (n, c) ← (c.advance 1 rest).argument (x.toNat % 32)
        let inside ← Token.descend depth c
        readPair variants (Extent.ofArgument n) inside c
      else if x = 0xA1 then do
        let c := c.advance 1 rest
        let inside ← Token.descend depth c
        let (v, c) ← readVariant variants inside c
        readContent v inside c
      else do
        let (v, c) ← readVariant variants depth c
        match v with
        | .constant _ value => .ok (value, c)
        | .carrying _ form _ => .error (.wrongType .bareVariant form)
  absent := none

end Codec

end DevicePairing.Cbor
