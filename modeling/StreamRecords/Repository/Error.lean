import StreamRecords.Client.Config
import StreamRecords.Item
import StreamRecords.Rpc.Response

/-!
What can go wrong when entities are stored and looked up.
-/

namespace StreamRecords

open Rpc

/-- **Why an entity and its data do not correspond.** -/
inductive CodecError where
  | invalidHex (detail : String)
  | utf8 (detail : String)
  | json (detail : String)
  deriving DecidableEq, Repr

def CodecError.message : CodecError → String
  | .invalidHex detail => s!"invalid hex: {detail}"
  | .utf8 detail => s!"entity data is not UTF-8: {detail}"
  | .json detail => s!"JSON error: {detail}"

/-- The broad kinds of failures. -/
inductive ErrorKind where
  /-- An argument or a setting is senseless. -/
  | input
  /-- The node was not reached, or did not answer as a node does. -/
  | transport
  /-- The node reports an error. -/
  | remote
  /-- A key is missing, taken, or taken more than once. -/
  | integrity
  /-- A message or a record cannot be understood or made. -/
  | decoding
  deriving DecidableEq, Repr

def ErrorKind.name : ErrorKind → String
  | .input => "input"
  | .transport => "transport"
  | .remote => "remote"
  | .integrity => "integrity"
  | .decoding => "decoding"

def Rpc.ProtocolError.kind : ProtocolError → ErrorKind
  | .invalidParams _ | .unknownMethod _ => .input
  | .serialization _ | .deserialization _ | .malformedError _ => .decoding

def ClientError.kind : ClientError → ErrorKind
  | .invalidConfig _ | .config _ => .input
  | .http _ | .status _ _ | .io _ => .transport
  | .protocol e => e.kind

/-- **Why storing or looking up an entity fails.** -/
inductive RepositoryError where
  | invalidInput (error : InputError)
  | missingKey (stream : String)
  | duplicateKey (stream key : String)
  | incorrectResultSize (expected actual : Nat)
  | emptyRecord (stream key : String)
  | retrieval (error : ErrorInfo)
  | write (error : ErrorInfo)
  | codec (error : CodecError)
  | protocol (error : ProtocolError)
  | client (error : ClientError)
  deriving DecidableEq

namespace RepositoryError

def message : RepositoryError → String
  | .invalidInput e => s!"invalid input: {e.message}"
  | .missingKey stream => s!"no key available for entity in stream {stream}"
  | .duplicateKey stream key => s!"key {key} already exists in stream {stream}"
  | .incorrectResultSize expected actual =>
    s!"incorrect result size: expected {expected}, got {actual}"
  | .emptyRecord stream key => s!"record {key} in stream {stream} has no data"
  | .retrieval e => s!"retrieval failed: {e.summary}"
  | .write e => s!"write failed: {e.summary}"
  | .codec e => s!"codec error: {e.message}"
  | .protocol e => s!"protocol error: {e.message}"
  | .client e => s!"client error: {e.message}"

def kind : RepositoryError → ErrorKind
  | .invalidInput _ => .input
  | .missingKey _ | .duplicateKey _ _ | .incorrectResultSize _ _ | .emptyRecord _ _ => .integrity
  | .retrieval _ | .write _ => .remote
  | .codec _ => .decoding
  | .protocol e => e.kind
  | .client e => e.kind

/-- The error that the node reports, if it does. -/
def remote? : RepositoryError → Option ErrorInfo
  | .retrieval e | .write e => some e
  | _ => none

end RepositoryError
end StreamRecords
