import DevicePairing.Bytes

set_option autoImplicit false
set_option relaxedAutoImplicit false

namespace DevicePairing.Text.Utf8

open DevicePairing (Bytes)

def encodeChar (c : Char) : Bytes :=
  let n := c.toNat
  if n < 0x80 then [UInt8.ofNat n]
  else if n < 0x800 then
    [UInt8.ofNat (0xC0 + n / 64), UInt8.ofNat (0x80 + n % 64)]
  else if n < 0x10000 then
    [UInt8.ofNat (0xE0 + n / 4096), UInt8.ofNat (0x80 + n / 64 % 64),
      UInt8.ofNat (0x80 + n % 64)]
  else
    [UInt8.ofNat (0xF0 + n / 262144), UInt8.ofNat (0x80 + n / 4096 % 64),
      UInt8.ofNat (0x80 + n / 64 % 64), UInt8.ofNat (0x80 + n % 64)]

def encode (s : List Char) : Bytes := s.flatMap encodeChar

/-- Why octets are not UTF-8. -/
structure Fault where
  validUpTo : Nat
  /-- The octets of the offending sequence, or none where the text ends inside a character. -/
  badLength : Option Nat
  deriving DecidableEq

def Fault.message (f : Fault) : String :=
  match f.badLength with
  | some n => s!"invalid utf-8 sequence of {n} bytes from index {f.validUpTo}"
  | none => s!"incomplete utf-8 byte sequence from index {f.validUpTo}"

def isTail (b : UInt8) : Bool := 0x80 ≤ b && b ≤ 0xBF

/-- The second octets that keep a character of three octets in shortest form and off the
surrogates. -/
def isSecondOfThree (a b : UInt8) : Bool :=
  if a = 0xE0 then 0xA0 ≤ b && b ≤ 0xBF
  else if a = 0xED then 0x80 ≤ b && b ≤ 0x9F
  else isTail b

/-- The second octets that keep a character of four octets in shortest form and below the last
scalar value. -/
def isSecondOfFour (a b : UInt8) : Bool :=
  if a = 0xF0 then 0x90 ≤ b && b ≤ 0xBF
  else if a = 0xF4 then 0x80 ≤ b && b ≤ 0x8F
  else isTail b

def charOfTwo (a b : UInt8) : Char :=
  Char.ofNat ((a.toNat - 0xC0) * 64 + (b.toNat - 0x80))

def charOfThree (a b c : UInt8) : Char :=
  Char.ofNat ((a.toNat - 0xE0) * 4096 + (b.toNat - 0x80) * 64 + (c.toNat - 0x80))

def charOfFour (a b c d : UInt8) : Char :=
  Char.ofNat ((a.toNat - 0xF0) * 262144 + (b.toNat - 0x80) * 4096 + (c.toNat - 0x80) * 64 +
    (d.toNat - 0x80))

/-- What a non-empty text starts with. -/
inductive Step where
  | char (c : Char) (width : Nat)
  /-- No character, with the length of the offending sequence unless the text ends inside it. -/
  | bad (length : Option Nat)

def step (a : UInt8) (rest : Bytes) : Step :=
  if a < 0x80 then .char (Char.ofNat a.toNat) 1
  else if a < 0xC2 then .bad (some 1)
  else if a < 0xE0 then
    match rest with
    | [] => .bad none
    | b :: _ => if isTail b then .char (charOfTwo a b) 2 else .bad (some 1)
  else if a < 0xF0 then
    match rest with
    | [] => .bad none
    | b :: rest =>
      if isSecondOfThree a b then
        match rest with
        | [] => .bad none
        | c :: _ => if isTail c then .char (charOfThree a b c) 3 else .bad (some 2)
      else .bad (some 1)
  else if a < 0xF5 then
    match rest with
    | [] => .bad none
    | b :: rest =>
      if isSecondOfFour a b then
        match rest with
        | [] => .bad none
        | c :: rest =>
          if isTail c then
            match rest with
            | [] => .bad none
            | d :: _ => if isTail d then .char (charOfFour a b c d) 4 else .bad (some 3)
          else .bad (some 2)
      else .bad (some 1)
  else .bad (some 1)

/-- The characters of a text of which `offset` octets have been read. -/
def decodeFrom (offset : Nat) : Bytes → Except Fault (List Char)
  | [] => .ok []
  | a :: rest =>
    match step a rest with
    | .char c width => (decodeFrom (offset + width) (rest.drop (width - 1))).map (c :: ·)
    | .bad length => .error ⟨offset, length⟩
  termination_by b => b.length
  decreasing_by simp only [List.length_drop, List.length_cons]; omega

def decode (b : Bytes) : Except Fault (List Char) := decodeFrom 0 b

/-- The character put for a sequence that spells none. -/
def replacement : Char := Char.ofNat 0xFFFD

/-- The characters that the octets spell, with one replacement character for every offending
sequence. -/
def decodeLossy : Bytes → List Char
  | [] => []
  | a :: rest =>
    match step a rest with
    | .char c width => c :: decodeLossy (rest.drop (width - 1))
    | .bad (some length) => replacement :: decodeLossy (rest.drop (length - 1))
    | .bad none => [replacement]
  termination_by b => b.length
  decreasing_by all_goals simp only [List.length_drop, List.length_cons]; omega

def ofString (s : String) : Bytes := encode s.toList

def toString (b : Bytes) : Except Fault String := (decode b).map String.ofList

end DevicePairing.Text.Utf8
