import StreamRecords.Item
import StreamRecords.Json.Format
import StreamRecords.Json.Format.Read
import StreamRecords.Text.Decimal

/-!
Requests to a node, and their bodies on the wire. A request is a command, to list the items under a
key or to publish one, with its parameters and an identifier that the answer repeats.
-/

namespace StreamRecords

/-! ### Identifiers -/

/-- **The identifier of a request.** -/
structure RequestId where
  text : String
  deriving DecidableEq, Repr

namespace RequestId

def digits : Nat := 32

/-- The identifier of the number `bits`, in hexadecimal. -/
def ofBits (bits : BitVec 128) : RequestId :=
  ⟨.ofList (Text.padLeft digits (Nat.toDigits 16 bits.toNat))⟩

/-- `id` has the form of an identifier of the program's own making. -/
def isGenerated (id : RequestId) : Bool :=
  id.text.length = digits && id.text.toList.all fun c => c.isDigit || ('a' ≤ c && c ≤ 'f')

def summary (id : RequestId) : String := s!"RequestId({id.text})"

def format : Json.Format RequestId := Json.Format.text.iso RequestId.mk RequestId.text

end RequestId

namespace Rpc

/-! ### Messages that cannot be understood or made -/

/-- **Why a message cannot be understood or made.** -/
inductive ProtocolError where
  | unknownMethod (name : String)
  | invalidParams (reason : String)
  | serialization (reason : String)
  | deserialization (reason : String)
  | malformedError (reason : String)
  deriving DecidableEq, Repr

def ProtocolError.message : ProtocolError → String
  | .unknownMethod name => s!"unknown method: {name}"
  | .invalidParams reason => s!"invalid request parameters: {reason}"
  | .serialization reason => s!"serialization error: {reason}"
  | .deserialization reason => s!"deserialization error: {reason}"
  | .malformedError reason => s!"malformed error object: {reason}"

/-! ### Commands -/

/-- **A command to a node.** -/
inductive Command where
  | listItems
  | publish
  deriving DecidableEq, Repr

namespace Command

def method : Command → String
  | .listItems => "liststreamkeyitems"
  | .publish => "publish"

def parse (name : String) : Except ProtocolError Command :=
  if name = listItems.method then .ok .listItems
  else if name = publish.method then .ok .publish
  else .error (.unknownMethod name)

def index : Command → Nat
  | .listItems => 0
  | .publish => 1

end Command

/-- The most items that are asked for at a time: enough to tell one from several. -/
def listLimit : Nat := 2

structure PerCommand (α : Type) where
  listItems : α
  publish : α
  deriving DecidableEq, Repr

namespace PerCommand

variable {α : Type}

def all (a : α) : PerCommand α := ⟨a, a⟩

def get (p : PerCommand α) : Command → α
  | .listItems => p.listItems
  | .publish => p.publish

def set (p : PerCommand α) (c : Command) (a : α) : PerCommand α :=
  match c with
  | .listItems => { p with listItems := a }
  | .publish => { p with publish := a }

@[simp] theorem get_set (p : PerCommand α) (c d : Command) (a : α) :
    (p.set c a).get d = if c = d then a else p.get d := by
  cases c <;> cases d <;> rfl

end PerCommand

/-! ### Requests -/

open Json

/-- **A request**: a command with its parameters, and an identifier for the answer. -/
structure Request where
  id : RequestId
  command : Command
  params : List Value

def version : String := "1.0"

/-- The text of an identifier that may be any value: of a string its text, of none or `null`
nothing, of another value its compact text. -/
def idText : Option Value → String
  | none | some .null => ""
  | some (.string s) => s
  | some v => v.compact

namespace Request

/-- The request for the items under `key`, not verbose and at most `listLimit` of them. -/
def list (id : RequestId) (stream : StreamName) (key : RecordKey) : Request where
  id := id
  command := .listItems
  params := [.string stream.text, .string key.text, .bool false,
    .number (.int listLimit (by decide))]

/-- The request to publish `data` under `key`. There must be some. -/
def publish (id : RequestId) (stream : StreamName) (key : RecordKey) (data : Encoding) :
    Except ProtocolError Request :=
  if data.isEmpty then .error (.invalidParams "data must not be blank")
  else .ok ⟨id, .publish, [.string stream.text, .string key.text, .string data.text]⟩

/-- The parameter number `i`, if it is a string. -/
def stringParam? (r : Request) (i : Nat) : Option String := r.params[i]?.bind Value.asString?

/-- The parameter number `i`, if it is a natural number of 64 bits. -/
def natParam? (r : Request) (i : Nat) : Option Nat :=
  (r.params[i]?.bind Value.asNumber?).bind Number.toNat?

def same (r q : Request) : Bool :=
  r.id = q.id && r.command = q.command && Value.sameItems r.params q.params

def toValue (r : Request) : Value :=
  .object [("jsonrpc", .string version), ("id", .string r.id.text),
    ("method", .string r.command.method), ("params", .list r.params)]

/-- **The body of the request `r`.** -/
def encode (r : Request) : Bytes := r.toValue.bytes

/-- What the body of a request may hold: an identifier of any kind, a method, and parameters. -/
def envelope : Format (Option Value × String × Option (List Value) × Unit) :=
  .record "IncomingRequest" <|
    .cons (.withDefault "id" none) (.option .value) <|
    .cons (.required "method") .text <|
    .cons (.withDefault "params" none) (.option (.list .value)) .nil

/-- **The request that `body` spells.** -/
def decode (body : Bytes) : Except ProtocolError Request := do
  let (id, method, params, ()) ← (envelope.parse body).mapError fun e =>
    .deserialization e.message
  let command ← Command.parse method
  return ⟨⟨idText id⟩, command, params.getD []⟩

end Request
end Rpc
end StreamRecords
