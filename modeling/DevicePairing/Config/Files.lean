import DevicePairing.Text.Utf8

set_option autoImplicit false
set_option relaxedAutoImplicit false

namespace DevicePairing

/-- What a path leads to. -/
inductive FileEntry where
  | file (content : Bytes)
  | directory
  deriving DecidableEq

/-- Why a path leads nowhere. -/
inductive PathFault where
  | notFound
  | notDirectory
  | tooLong
  | zeroCharacter
  deriving DecidableEq

def PathFault.message : PathFault → String
  | .notFound => "No such file or directory (os error 2)"
  | .notDirectory => "Not a directory (os error 20)"
  | .tooLong => "File name too long (os error 36)"
  | .zeroCharacter => "file name contained an unexpected NUL byte"

abbrev Files := String → Except PathFault FileEntry

namespace Files

def isFile (f : Files) (path : String) : Bool :=
  match f path with
  | .ok (.file _) => true
  | _ => false

/-- The text of the file under a path, or why there is none. -/
def readText (f : Files) (path : String) : Except String String :=
  match f path with
  | .error fault => .error fault.message
  | .ok .directory => .error "Is a directory (os error 21)"
  | .ok (.file content) =>
    (Text.Utf8.toString content).mapError fun _ => "stream did not contain valid UTF-8"

end Files

end DevicePairing
