import DevicePairing.Error.Basic
import DevicePairing.Pem.Base64
import DevicePairing.Text.Utf8

set_option autoImplicit false
set_option relaxedAutoImplicit false

namespace DevicePairing.Pem

open DevicePairing (Bytes)
open DevicePairing.Text

/-- The kinds of sections that are decoded. -/
inductive Kind where
  | certificate
  | publicKey
  | rsaPrivateKey
  | privateKey
  | ecPrivateKey
  | revocationList
  | certificateRequest
  | clientHelloConfig
  deriving DecidableEq

namespace Kind

def label : Kind → String
  | .certificate => "CERTIFICATE"
  | .publicKey => "PUBLIC KEY"
  | .rsaPrivateKey => "RSA PRIVATE KEY"
  | .privateKey => "PRIVATE KEY"
  | .ecPrivateKey => "EC PRIVATE KEY"
  | .revocationList => "X509 CRL"
  | .certificateRequest => "CERTIFICATE REQUEST"
  | .clientHelloConfig => "ECHCONFIG"

def all : List Kind :=
  [.certificate, .publicKey, .rsaPrivateKey, .privateKey, .ecPrivateKey, .revocationList,
    .certificateRequest, .clientHelloConfig]

def ofLabel? (b : Bytes) : Option Kind := all.find? fun k => Utf8.ofString k.label == b

def isPrivateKey : Kind → Bool
  | .rsaPrivateKey => true
  | .privateKey => true
  | .ecPrivateKey => true
  | _ => false

end Kind

/-- Why a text is no PEM. -/
inductive Fault where
  | illegalSectionStart (line : Bytes)
  | missingSectionEnd (label : Bytes)
  | base64 (cause : Base64.Fault)
  deriving DecidableEq

def Fault.message : Fault → String
  | .illegalSectionStart line =>
    "illegal section start: " ++ Quoted.quote (String.ofList (Utf8.decodeLossy line))
  | .missingSectionEnd label =>
    "section end " ++ Quoted.quote (String.ofList (Utf8.decodeLossy label)) ++ " missing"
  | .base64 cause => cause.message

def isLineEnd (x : UInt8) : Bool := x = 0x0A || x = 0x0D

def lines : Bytes → List Bytes
  | [] => []
  | x :: rest =>
    if isLineEnd x then [x] :: lines rest
    else
      match lines rest with
      | [] => [[x]]
      | line :: more => (x :: line) :: more

def beginMark : Bytes := Utf8.ofString "-----BEGIN "

def endMark (label : Bytes) : Bytes :=
  Utf8.ofString "-----END " ++ label ++ Utf8.ofString "-----"

/-- The dashes that a reversed line begins with, line ends and spaces between them not counting,
and what is left of the reversed line after the last of them. -/
def trailingDashes : Bytes → Nat × Bytes
  | [] => (0, [])
  | x :: rest =>
    let (n, left) := trailingDashes rest
    if x = 0x2D then (n + 1, if n = 0 then rest else left)
    else if isLineEnd x || x = 0x20 then (n, if n = 0 then x :: rest else left)
    else (0, x :: rest)

def sectionLabel (line : Bytes) : Except Fault Bytes :=
  let (dashes, before) := trailingDashes line.reverse
  if dashes = 5 then .ok (before.reverse.drop beginMark.length)
  else .error (.illegalSectionStart line)

def content (line : Bytes) : Bytes :=
  (line.reverse.dropWhile fun x => isLineEnd x || x = 0x20).reverse

structure Section where
  kind : Kind
  octets : Bytes
  deriving DecidableEq

/-- The next decoded section of the lines and the lines after it. `label` is the label of the
section that is being read, if any, and `held` what it holds so far. -/
def nextSection (label : Option Bytes) (held : Bytes) :
    List Bytes → Except Fault (Option (Section × List Bytes))
  | [] =>
    match label with
    | some l => .error (.missingSectionEnd l)
    | none => .ok none
  | line :: rest =>
    if beginMark.isPrefixOf line then do
      let l ← sectionLabel line
      nextSection (some l) held rest
    else
      match label with
      | none => nextSection none held rest
      | some l =>
        if (endMark l).isPrefixOf line then
          match Kind.ofLabel? l with
          | none => nextSection none [] rest
          | some kind =>
            match Base64.decode held with
            | .ok b => .ok (some (⟨kind, b⟩, rest))
            | .error e => .error (.base64 e)
        else nextSection label (held ++ content line) rest

/-- The decoded sections of the lines. The fuel bounds their number. -/
def sectionsOf : (fuel : Nat) → List Bytes → Except Fault (List Section)
  | 0, _ => .ok []
  | fuel + 1, ls => do
    match ← nextSection none [] ls with
    | none => .ok []
    | some (s, rest) => do
      let more ← sectionsOf fuel rest
      .ok (s :: more)

def certificates (b : Bytes) : Except Fault (List Bytes) := do
  let ls := lines b
  let sections ← sectionsOf (ls.length + 1) ls
  .ok ((sections.filter fun s => s.kind = .certificate).map Section.octets)

/-- The first private key among the lines; nothing after it is looked at. The fuel bounds the
number of sections. -/
def firstPrivateKey : (fuel : Nat) → List Bytes → Except Fault (Option Bytes)
  | 0, _ => .ok none
  | fuel + 1, ls => do
    match ← nextSection none [] ls with
    | none => .ok none
    | some (s, rest) =>
      if s.kind.isPrivateKey then .ok (some s.octets) else firstPrivateKey fuel rest

def privateKey (b : Bytes) : Except Fault (Option Bytes) :=
  let ls := lines b
  firstPrivateKey (ls.length + 1) ls

end DevicePairing.Pem
