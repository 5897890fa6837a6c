import StreamRecords.Rpc.Response

/-!
What a dialogue with a node is worth noting of: the lines of a log.
-/

namespace StreamRecords

open Rpc

inductive Level where
  | debug
  | info
  | warn
  deriving DecidableEq, Repr

def Level.name : Level → String
  | .debug => "DEBUG"
  | .info => "INFO"
  | .warn => "WARN"

/-- **Something worth noting.** -/
inductive Event where
  /-- A node is about to be spoken to. -/
  | connecting (endpoint : String)
  /-- A request is about to be sent. -/
  | invoking (id : RequestId) (command : Command)
  /-- An answer has the identifier of another request. -/
  | idMismatch (sent : RequestId) (received : String)
  /-- The node reports an error. -/
  | nodeError (command : Command) (error : ErrorInfo)
  /-- The items under a key are about to be asked for. -/
  | listing (stream : StreamName) (key : RecordKey)
  /-- There are several items under a key. -/
  | severalRecords (stream : StreamName) (key : RecordKey) (count : Nat)
  /-- The one item under a key has no data, and passes for none. -/
  | emptyRecord (stream : StreamName) (key : RecordKey)
  /-- The node does not publish an entity. -/
  | publishRejected (stream : StreamName) (key : RecordKey) (code : Int64)
  /-- An entity is published. -/
  | published (stream : StreamName) (key : RecordKey) (bytes : Nat)

namespace Event

def level : Event → Level
  | .connecting .. | .invoking .. | .nodeError .. | .listing .. | .emptyRecord .. => .debug
  | .published .. => .info
  | .idMismatch .. | .severalRecords .. | .publishRejected .. => .warn

def message : Event → String
  | .connecting .. => "connecting"
  | .invoking .. => "invoking rpc command"
  | .idMismatch .. => "rpc response id does not match request"
  | .nodeError .. => "node reported error"
  | .listing .. => "listing items for key"
  | .severalRecords .. => "multiple records for key"
  | .emptyRecord .. => "record has empty data, treating as absent"
  | .publishRejected .. => "publish rejected by node"
  | .published .. => "entity published"

/-- The details of an event, each with its name. -/
def fields : Event → List (String × String)
  | .connecting endpoint => [("endpoint", endpoint)]
  | .invoking id command => [("id", id.text), ("method", command.method)]
  | .idMismatch sent received => [("sent", sent.text), ("received", received)]
  | .nodeError command error =>
    [("method", command.method), ("code", toString error.code.toInt),
      ("error_message", error.message)]
  | .listing stream key | .emptyRecord stream key =>
    [("stream", stream.text), ("key", key.text)]
  | .severalRecords stream key count =>
    [("stream", stream.text), ("key", key.text), ("count", toString count)]
  | .publishRejected stream key code =>
    [("stream", stream.text), ("key", key.text), ("code", toString code.toInt)]
  | .published stream key bytes =>
    [("stream", stream.text), ("key", key.text), ("bytes", toString bytes)]

end Event
end StreamRecords
