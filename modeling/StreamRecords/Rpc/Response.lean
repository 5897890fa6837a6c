import StreamRecords.Json.Format.OfValue
import StreamRecords.Rpc.Request

/-!
Answers of a node, and their bodies on the wire.
-/

namespace StreamRecords.Rpc

open Json

/-- An error that a node reports. -/
structure ErrorInfo where
  code : Int64
  message : String
  deriving DecidableEq

namespace ErrorInfo

def summary (e : ErrorInfo) : String := s!"code={e.code.toInt}, message={e.message}"

def format : Format ErrorInfo :=
  (Format.record "ErrorInfo" <|
    .cons (.required "code") .int64 <| .cons (.required "message") .text .nil).iso
    (fun (code, message, ()) => ⟨code, message⟩) fun e => (e.code, e.message, ())

def toValue (e : ErrorInfo) : Value :=
  .object [("code", .number (.ofInt64 e.code)), ("message", .string e.message)]

/-- **The error that `v` is**: an object with an integer as its code and a string as its message. -/
def ofValue (v : Value) : Except ProtocolError ErrorInfo :=
  match v with
  | .object _ =>
    match ((v.get? "code").bind Value.asNumber?).bind Number.toInt64? with
    | none => .error (.malformedError "missing integer `code`")
    | some code =>
      match (v.get? "message").bind Value.asString? with
      | none => .error (.malformedError "missing string `message`")
      | some message => .ok ⟨code, message⟩
  | v => .error (.malformedError s!"expected object, got {v.compact}")

end ErrorInfo

/-- **An answer**: an error or a result of `α`, or neither, and the identifier of the request. -/
structure Response (α : Type) where
  id : String
  error : Option ErrorInfo
  result : Option α

namespace Response

variable {α : Type}

def success (id : String) (result : α) : Response α := ⟨id, none, some result⟩

def failure (id : String) (error : ErrorInfo) : Response α := ⟨id, some error, none⟩

def isOk (r : Response α) : Bool := r.error.isNone

/-- The error of `r`, or else its result, if there is one. -/
def outcome (r : Response α) : Except ErrorInfo (Option α) :=
  match r.error with
  | some e => .error e
  | none => .ok r.result

/-- **The body of the answer `r`.** What is absent is written as `null`. -/
def encode (format : Format α) (r : Response α) : Except ProtocolError Bytes := do
  let result ← ((Format.option format).toValue r.result).mapError .serialization
  return (Value.object [("id", .string r.id),
    ("error", r.error.elim .null ErrorInfo.toValue), ("result", result)]).bytes

/-- What the body of an answer may hold. -/
def envelope : Format (Option Value × Option Value × Option Value × Unit) :=
  .record "IncomingResponse" <|
    .cons (.withDefault "id" none) (.option .value) <|
    .cons (.withDefault "error" none) (.option .value) <|
    .cons (.withDefault "result" none) (.option .value) .nil

/-- **The answer that `body` spells**, with a result of `format`. `null` stands for an absent error
or result. -/
def decode (format : Format α) (body : Bytes) : Except ProtocolError (Response α) := do
  let (id, error, result, ()) ← (envelope.parse body).mapError fun e =>
    .deserialization e.message
  let error ← error.mapM ErrorInfo.ofValue
  let result ← result.mapM fun v =>
    (format.ofValue v).mapError fun e => .deserialization e.message
  return ⟨idText id, error, result⟩

end Response
end StreamRecords.Rpc
