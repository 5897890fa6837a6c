import StreamRecords.Dialogue.Run
import StreamRecords.Ledger.Basic

/-!
A ledger as a node: what it answers to requests, and to bodies on the wire.
-/

namespace StreamRecords

open Json Rpc Time

/-- What a ledger answers when it does what is asked. -/
inductive Answer where
  /-- The items that were asked for. -/
  | listed (items : List Item)
  /-- The identifier of the transaction that publishes an item. -/
  | published (txid : String)

def Item.document (i : Item) : Value :=
  let time : List (String × Value) :=
    match i.time with
    | some t => [("blocktime", IntRange.toValue (timestampOfInstant t))]
    | none => []
  .object (time ++
    [("data", .string i.data.text), ("key", .string i.key), ("txid", .string i.txid)])

def Answer.document : Answer → Value
  | .listed items => .list (items.map Item.document)
  | .published txid => .string txid

namespace Ledger

def streamNotFound : Int64 := -708

def invalidParameter : Int64 := -8

def missingStream : ErrorInfo := ⟨streamNotFound, "Stream with this name not found"⟩

/-- The number of items that are listed when the request does not say how many. -/
def defaultCount : Nat := 10

/-- The stream and the key that `r` is about, and the items of the stream. -/
def target (l : Ledger) (r : Request) : Except ErrorInfo (String × String × List Item) :=
  match r.stringParam? 0 with
  | none => .error ⟨invalidParameter, "stream name must be a string"⟩
  | some stream =>
    match r.stringParam? 1 with
    | none => .error ⟨invalidParameter, "key must be a string"⟩
    | some key =>
      match l.stream? stream with
      | none => .error missingStream
      | some items => .ok (stream, key, items)

/-- The data that `r` carries, in hexadecimal of either case. -/
def dataOf (r : Request) : Except ErrorInfo Encoding :=
  match r.stringParam? 2 with
  | none => .error ⟨invalidParameter, "data must be a hex string"⟩
  | some s => (Encoding.parse s).mapError fun e => ⟨invalidParameter, e.message⟩

/-- **What a ledger does about the request `r`.** A call is counted even if it fails. -/
def handle (now : Instant) (r : Request) (l : Ledger) : Except ErrorInfo Answer × Ledger :=
  let l := { l with calls := l.calls.set r.command (l.calls.get r.command + 1) }
  match l.failures.get r.command with
  | some error => (.error error, l)
  | none =>
    match l.target r with
    | .error error => (.error error, l)
    | .ok (stream, key, items) =>
      match r.command with
      | .listItems =>
        let count := (r.natParam? 3).getD defaultCount
        (.ok (.listed ((items.filter (·.key = key)).take count)), l)
      | .publish =>
        match dataOf r with
        | .error error => (.error error, l)
        | .ok data =>
          match l.append now stream key data with
          | (some txid, l) => (.ok (.published txid), l)
          | (none, l) => (.error missingStream, l)

/-- The answer to `r` on the wire. -/
def responseTo (r : Request) : Except ErrorInfo Answer → Response Value
  | .ok answer => .success r.id.text answer.document
  | .error error => .failure r.id.text error

/-- **What a ledger does about `body`.** A body that is no request changes nothing. -/
def post (now : Instant) (body : Bytes) (l : Ledger) : Reply × Ledger :=
  match Request.decode body with
  | .error e => (.error (.protocol e), l)
  | .ok r =>
    let (outcome, l) := l.handle now r
    (((responseTo r outcome).encode .value).mapError .protocol, l)

/-- **A ledger as a node**, where `clock` tells when each transaction is made. -/
def node (clock : UInt64 → Instant) : Node Ledger := fun l body => l.post (clock l.lastTx) body

end Ledger
end StreamRecords
