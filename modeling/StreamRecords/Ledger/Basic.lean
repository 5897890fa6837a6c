import StreamRecords.Item
import StreamRecords.Rpc.Response

/-!
A ledger that is kept in memory. Its streams only ever grow: an item is put behind all others of its
stream, whether there is one with its key or not, under the next number of a counter.
-/

namespace StreamRecords

open Rpc Time

/-- **A ledger**: its streams by name, the number of calls of each command, the error that each
command is made to fail with, and the number of the last transaction. -/
structure Ledger where
  streams : List (String × List Item)
  calls : PerCommand Nat
  failures : PerCommand (Option ErrorInfo)
  lastTx : UInt64

namespace Ledger

def empty : Ledger := ⟨[], .all 0, .all none, 0⟩

/-- The items of the stream `name`, if there is such a stream. -/
def stream? (l : Ledger) (name : String) : Option (List Item) := Dict.get? name l.streams

/-- `l` with a stream `name`, which is empty if it is new. -/
def createStream (name : String) (l : Ledger) : Ledger :=
  match l.stream? name with
  | some _ => l
  | none => { l with streams := Dict.insert name [] l.streams }

/-- The ledger with streams of the `names`, all empty. -/
def withStreams (names : List String) : Ledger :=
  names.foldl (fun l name => l.createStream name) empty

def txidDigits : Nat := 64

/-- The identifier of the transaction number `n`: its number in hexadecimal. -/
def txid (n : UInt64) : String := .ofList (Text.padLeft txidDigits (Nat.toDigits 16 n.toNat))

/-- **Puts an item behind the others of a stream**, at the second of `now`. The number of the
transaction is used up even if there is no such stream. -/
def append (now : Instant) (stream key : String) (data : Encoding) (l : Ledger) :
    Option String × Ledger :=
  let l := { l with lastTx := l.lastTx + 1 }
  match l.stream? stream with
  | none => (none, l)
  | some items =>
    let item : Item := ⟨txid l.lastTx, key, some now.floor, data⟩
    (some item.txid, { l with streams := Dict.insert stream (items ++ [item]) l.streams })

/-- Makes `command` fail with `error` from now on. -/
def failWith (command : Command) (error : ErrorInfo) (l : Ledger) : Ledger :=
  { l with failures := l.failures.set command (some error) }

def clearFailures (l : Ledger) : Ledger := { l with failures := .all none }

/-- The items under `key` in `stream`, oldest first. -/
def items (l : Ledger) (stream key : String) : List Item :=
  ((l.stream? stream).getD []).filter (·.key = key)

def streamLength (l : Ledger) (stream : String) : Nat := ((l.stream? stream).getD []).length

def callCount (l : Ledger) (command : Command) : Nat := l.calls.get command

def totalCalls (l : Ledger) : Nat := l.calls.listItems + l.calls.publish

end Ledger
end StreamRecords
