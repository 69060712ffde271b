import DevicePairing.Bytes

set_option autoImplicit false
set_option relaxedAutoImplicit false

namespace DevicePairing.Connection

open DevicePairing

def maxRecordLength : Nat := 65536

/-- What can go wrong with the records of a connection. -/
inductive RecordFault where
  | tooLong
  | truncated
  deriving DecidableEq

def RecordFault.message : RecordFault → String
  | .tooLong => "frame size too big"
  | .truncated => "bytes remaining on stream"

def writeRecord (content : Bytes) : Except RecordFault Bytes :=
  if content.length ≤ maxRecordLength then .ok (Bytes.bigEndian 4 content.length ++ content)
  else .error .tooLong

inductive Finding where
  | record (content : Bytes)
  | pending
  | ended
  | fault (f : RecordFault)
  deriving DecidableEq

structure RecordReader where
  buffer : Bytes
  expected : Option Nat
  failed : Bool
  deriving DecidableEq

namespace RecordReader

def fresh : RecordReader := ⟨[], none, false⟩

def push (r : RecordReader) (segment : Bytes) : RecordReader :=
  { r with buffer := r.buffer ++ segment }

def takeHead (r : RecordReader) : Except RecordFault RecordReader :=
  match r.expected, Bytes.split? 4 r.buffer with
  | none, some (front, rest) =>
    if Bytes.toNatBE front ≤ maxRecordLength then .ok ⟨rest, some (Bytes.toNatBE front), r.failed⟩
    else .error .tooLong
  | _, _ => .ok r

def takeContent? (r : RecordReader) : Option (Bytes × RecordReader) :=
  match r.expected with
  | none => none
  | some n => (Bytes.split? n r.buffer).map fun (content, rest) => (content, ⟨rest, none, r.failed⟩)

/-- What the reader finds next; `ended` tells that no more octets will come. The head of a record
without its content is not counted as part of a record at the end. -/
def next (r : RecordReader) (ended : Bool) : Finding × RecordReader :=
  if r.failed then (.ended, r)
  else
    match r.takeHead with
    | .error f => (.fault f, { r with failed := true })
    | .ok r =>
      match r.takeContent? with
      | some (content, r) => (.record content, r)
      | none =>
        if !ended then (.pending, r)
        else if r.buffer.isEmpty then (.ended, r)
        else (.fault .truncated, { r with failed := true })

end RecordReader

end DevicePairing.Connection
