import StreamRecords.Client.Invoke
import StreamRecords.Item
import StreamRecords.Repository.Entity

/-!
A repository stores each entity once, as the only item under its key. Whether there is one is asked
before a new one is published; the node itself would take any number.
-/

namespace StreamRecords

open Json Rpc

/-- What a lookup makes of a record without data. -/
inductive EmptyDataPolicy where
  /-- There is no record. -/
  | absent
  /-- The record is refused. -/
  | reject
  deriving DecidableEq, Repr

def EmptyDataPolicy.name : EmptyDataPolicy → String
  | .absent => "Absent"
  | .reject => "Reject"

/-- **A repository** of the values of `α`. -/
structure Repository (α : Type) where
  format : Format α
  metadata : Metadata α
  emptyData : EmptyDataPolicy

namespace Repository

variable {α : Type}

def stream (r : Repository α) : StreamName := r.metadata.stream

/-- The text of the key of `a`, unless it is blank. -/
def keyText? (r : Repository α) (a : α) : Option String :=
  (r.metadata.key a).filter fun s => Text.trim s ≠ ""

/-- The key of `a`, unless it is blank. -/
def key? (r : Repository α) (a : α) : Option RecordKey :=
  (r.metadata.key a).bind fun s => (RecordKey.parse s).toOption

/-- The items under `key`, or some of them if there are several. -/
def fetchItems (r : Repository α) (key : RecordKey) : Attempt RepositoryError (List Item) := do
  .always (.log (.listing r.stream key))
  let id ← .always .newId
  let response ← (invoke (.list itemFormat) (.list id r.stream key)).mapError .client
  match response.outcome with
  | .error e => throw (.retrieval e)
  | .ok items => return items.getD []

/-- The entity under `key`, if there is one. -/
def lookup (r : Repository α) (key : RecordKey) : Attempt RepositoryError (Option α) := do
  match ← r.fetchItems key with
  | [] => return none
  | [item] =>
    if item.data.isEmpty then
      match r.emptyData with
      | .absent =>
        .always (.log (.emptyRecord r.stream key))
        return none
      | .reject => throw (.emptyRecord r.stream.text key.text)
    else
      .ofExcept ((Codec.deserializeEncoding r.format item.data).mapError .codec)
  | items =>
    .always (.log (.severalRecords r.stream key items.length))
    throw (.incorrectResultSize 1 items.length)

def parseKey (s : String) : Attempt RepositoryError RecordKey :=
  .ofExcept ((RecordKey.parse s).mapError .invalidInput)

/-- **The entity under the text `key`** without the blanks at its ends, if there is one. -/
def find (r : Repository α) (key : String) : Attempt RepositoryError (Option α) := do
  let key ← parseKey key
  r.lookup key

/-- **Whether there is an entity under a key.** -/
def exists? (r : Repository α) (key : String) : Attempt RepositoryError Bool := do
  let key ← parseKey key
  let found ← r.lookup key
  return found.isSome

/-- **Stores `a` under its key**, which must not be taken. An item without data takes it too. -/
def save (r : Repository α) (a : α) : Attempt RepositoryError α := do
  let some s := r.keyText? a | throw (.missingKey r.stream.text)
  let key ← parseKey s
  let items ← r.fetchItems key
  if !items.isEmpty then
    throw (.duplicateKey r.stream.text key.text)
  let data ← .ofExcept ((Codec.serialize r.format a).mapError .codec)
  let id ← .always .newId
  let request ← .ofExcept ((Request.publish id r.stream key data).mapError .protocol)
  let response ← (invoke .value request).mapError .client
  match response.error with
  | some e =>
    .always (.log (.publishRejected r.stream key e.code))
    throw (.write e)
  | none =>
    .always (.log (.published r.stream key data.byteLength))
    return a

/-- **Stores entities one after the other**, until one fails. -/
def saveAll (r : Repository α) : List α → Attempt RepositoryError (List α)
  | [] => return []
  | a :: as => do
    let a ← r.save a
    let as ← r.saveAll as
    return a :: as

end Repository
end StreamRecords
