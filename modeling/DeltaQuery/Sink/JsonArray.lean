import DeltaQuery.Sink
import DeltaQuery.Sink.Writer
import DeltaQuery.Value.Json

namespace DeltaQuery

def Delimiter.byte : Delimiter → UInt8
  | .opening => '['.toUInt8
  | .separating => ','.toUInt8
  | .closing => ']'.toUInt8

def Record.jsonBytes (record : Record) : List UInt8 := record.toJson.render.toUTF8.toList

-- A record counts as written when all of it has been taken, and nothing is taken after a close.
structure JsonArray where
  writer : Writer := {}
  written : Nat := 0
  closed : Bool := false

namespace JsonArray

abbrev Progress := Except Failure Unit × Writer

-- The next part of a write; none is tried after one that failed.
def next (progress : Progress) (action : SinkAction) (part : Writer → Except WriteFault Unit × Writer) :
    Progress :=
  match progress with
  | (.error failure, writer) => (.error failure, writer)
  | (.ok (), writer) =>
    let (result, writer) := part writer
    (failing (result.mapError (Cause.sink action)), writer)

def delimit (progress : Progress) (delimiter : Delimiter) : Progress :=
  next progress (.delimiting delimiter) fun writer => writer.byte delimiter.byte

def write (array : JsonArray) (record : Record) : Except Failure Unit × JsonArray :=
  if array.closed then (.error (Failure.of .writtenAfterClose), array)
  else
    let progress := delimit (.ok (), array.writer) (if array.written = 0 then .opening else .separating)
    let progress := next progress .encoding fun writer => writer.all record.jsonBytes
    let (result, writer) := next progress .terminating fun writer => writer.all ['\n'.toUInt8]
    match result with
    | .error failure => (.error failure, { array with writer })
    | .ok () => (.ok (), { array with writer, written := array.written + 1 })

def close (array : JsonArray) : Except Failure Unit × JsonArray :=
  if array.closed then (.error (Failure.of .closedTwice), array)
  else
    let start : Progress := (.ok (), array.writer)
    let progress := if array.written = 0 then delimit start .opening else start
    let (result, writer) := next (delimit progress .closing) .flushing Writer.flush
    (result, { array with writer, closed := true })

def sink : Sink JsonArray := { write, close }

end JsonArray

end DeltaQuery
