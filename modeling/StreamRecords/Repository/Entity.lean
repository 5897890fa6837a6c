import StreamRecords.Item
import StreamRecords.Json.Format
import StreamRecords.Json.Format.Read
import StreamRecords.Json.Text
import StreamRecords.Repository.Error
import StreamRecords.Text.Blank
import StreamRecords.Text.Lowercase

/-!
Entities: types whose values are stored as records. Each has a stream of its own, and each of its
values may have a key. The data of an entity are the UTF-8 bytes of its compact JSON text.
-/

namespace StreamRecords

/-! ### Streams and keys -/

open Json

/-- The characters before the first `<`. -/
def beforeArguments (cs : List Char) : List Char := cs.takeWhile (· ≠ '<')

/-- The characters before the first `::`. -/
def beforeColons : List Char → List Char
  | [] => []
  | [c] => [c]
  | c :: d :: cs => if c = ':' ∧ d = ':' then [] else c :: beforeColons (d :: cs)

/-- **The stream of a type that names none**: the last part of its name, without arguments, in
lowercase. -/
def defaultStreamName (typeName : String) : String :=
  let path := beforeArguments typeName.toList
  Text.lowercase (.ofList (beforeColons path.reverse).reverse)

/-- **A type of entities**: its format, the key of each value, its name, and the stream that it asks
for, if it asks for one. -/
structure Entity (α : Type) where
  format : Format α
  key : α → Option String
  typeName : String
  declaredStream : Option String

/-- The stream that `e` asks for, or else the one of its name. -/
def Entity.streamName {α : Type} (e : Entity α) : String :=
  e.declaredStream.getD (defaultStreamName e.typeName)

/-- **Where the values of a type are stored**: a stream, and the key of each value. -/
structure Metadata (α : Type) where
  stream : StreamName
  key : α → Option String

namespace Metadata

def ofEntity {α : Type} (e : Entity α) : Except InputError (Metadata α) :=
  (StreamName.parse e.streamName).map fun stream => ⟨stream, e.key⟩

/-- The text of the member `field` of `v`, if it is a string or a number. -/
def fieldText? (field : String) (v : Value) : Option String :=
  match v.get? field with
  | some (.string s) => some s
  | some (.number n) => some (.ofList n.text)
  | _ => none

/-- The metadata of documents that have their keys in `field`. Without a field, none has a key. -/
def ofField (stream : StreamName) (field : Option String) : Metadata Value :=
  ⟨stream, fun v => field.bind (fieldText? · v)⟩

end Metadata

/-! ### Data -/

namespace Codec

variable {α : Type}

/-- **The data of `a`.** -/
def serialize (format : Format α) (a : α) : Except CodecError Encoding :=
  match format.write a with
  | .ok bytes => .ok ⟨bytes⟩
  | .error reason => .error (.json reason)

/-- **The entity of `data`.** No data are of no entity. -/
def deserializeEncoding (format : Format α) (data : Encoding) : Except CodecError (Option α) :=
  if data.isEmpty then .ok none
  else
    match Utf8.decode data.bytes with
    | .error e => .error (.utf8 e.message)
    | .ok _ =>
      match format.parse data.bytes with
      | .ok a => .ok (some a)
      | .error e => .error (.json e.message)

/-- The bytes of a hexadecimal text of either case. -/
def hexDecode (s : String) : Except CodecError Bytes :=
  (Hex.decode s).mapError fun e => .invalidHex e.message

def hexEncode (bs : Bytes) : String := .ofList (Hex.encode bs)

/-- The entity of data in hexadecimal, with blanks around it or not. A blank text is of no entity.
-/
def deserialize (format : Format α) (s : String) : Except CodecError (Option α) :=
  let digits := Text.trim s
  if digits = "" then .ok none
  else do
    let bytes ← hexDecode digits
    deserializeEncoding format ⟨bytes⟩

end Codec
end StreamRecords
