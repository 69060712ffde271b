import DevicePairing.Json.Document
import DevicePairing.Version

set_option autoImplicit false
set_option relaxedAutoImplicit false

namespace DevicePairing.Json

def namedMembers : List (Option String × Document) → Option (List (String × Document))
  | [] => some []
  | (none, _) :: _ => none
  | (some name, x) :: ms => (namedMembers ms).map ((name, x) :: ·)

def member? (ms : List (String × Document)) (name : String) : Option (Option Document) :=
  match ms.filter fun m => m.1 == name with
  | [] => some none
  | [m] => some (some m.2)
  | _ => none

def fieldsOf? (names : List String) : Document → Option (List (Option Document))
  | .object ms => do
    let ms ← namedMembers ms
    names.mapM (member? ms)
  | .array xs =>
    if xs.length ≤ names.length then
      some (xs.map some ++ List.replicate (names.length - xs.length) none)
    else none
  | _ => none

def orElse {α : Type} (read : Document → Option α) (default : α) : Option Document → Option α
  | none => some default
  | some x => read x

def text? : Document → Option String
  | .string s => s
  | _ => none

def optionalText? : Document → Option (Option String)
  | .null => some none
  | x => (text? x).map some

/-- The value of a document that is a natural of sixty-four bits. -/
def uint64? : Document → Option UInt64
  | .natural n => if n < 1 <<< 64 then some (UInt64.ofNat n) else none
  | _ => none

/-- The version that a document names: by its name, or by its name with null for content. -/
def version? : Document → Option ProtocolVersion
  | .string (some s) => ProtocolVersion.ofName? s
  | .object [(some s, .null)] => ProtocolVersion.ofName? s
  | _ => none

def versions? : Document → Option (List ProtocolVersion)
  | .array xs => xs.mapM version?
  | _ => none

end DevicePairing.Json
