import DeltaQuery.Failure

namespace DeltaQuery

structure Writer where
  room : Option Nat := none
  -- What it says when it is full; none if it just takes nothing.
  fullText : Option String := none
  -- What it says when it is flushed; none if flushing works.
  flushText : Option String := none
  taken : Array UInt8 := #[]

namespace Writer

def accepted (writer : Writer) (bytes : List UInt8) : Nat :=
  match writer.room with
  | none => bytes.length
  | some room => min room bytes.length

def take (writer : Writer) (bytes : List UInt8) : Writer :=
  { writer with
    room := writer.room.map (· - bytes.length)
    taken := writer.taken ++ bytes }

-- How a full writer fails, when taking nothing is this fault.
def fault (writer : Writer) (nothing : WriteFault) : WriteFault :=
  match writer.fullText with
  | some text => .refused text
  | none => nothing

-- One byte in one write, which is not repeated.
def byte (writer : Writer) (byte : UInt8) : Except WriteFault Unit × Writer :=
  if writer.accepted [byte] = 1 then (.ok (), writer.take [byte]) else (.error (writer.fault .short), writer)

def all (writer : Writer) (bytes : List UInt8) : Except WriteFault Unit × Writer :=
  let count := writer.accepted bytes
  if count = bytes.length then (.ok (), writer.take bytes)
  else (.error (writer.fault .exhausted), writer.take (bytes.take count))

def flush (writer : Writer) : Except WriteFault Unit × Writer :=
  match writer.flushText with
  | none => (.ok (), writer)
  | some text => (.error (.refused text), writer)

end Writer

end DeltaQuery
