import StreamRecords.Ledger.Answer
import StreamRecords.Repository.Operation

/-!
What repositories promise to those who use them one after the other: a catalog, which holds at most
one entity under each key of each stream and never gives one up.
-/

namespace StreamRecords

/-- **A catalog**: the streams that there are, and the entity under each key of each stream. -/
structure Catalog (α : Type) where
  streams : List String
  entities : List ((String × String) × α)

/-- **What is done to a ledger**: a stream is created, or a repository performs an operation. -/
inductive Action (α : Type) where
  | create (stream : String)
  | perform (metadata : Metadata α) (emptyData : EmptyDataPolicy) (operation : Operation α)

namespace Catalog

variable {α : Type}

/-- The catalog of `streams`, all empty. -/
def withStreams (streams : List String) : Catalog α := ⟨streams, []⟩

/-- The entity under `key` in `stream`. -/
def entity? (stream key : String) (c : Catalog α) : Option α := c.entities.lookup (stream, key)

/-- `c` with one more stream, unless there is one of this name. -/
def createStream (stream : String) (c : Catalog α) : Catalog α :=
  { c with streams := stream :: c.streams }

/-- `c` with `a` under a key that is free. -/
def insert (stream key : String) (a : α) (c : Catalog α) : Catalog α :=
  { c with entities := ((stream, key), a) :: c.entities }

/-- The entity under `key` in `stream`, which must have been created. -/
def lookup (stream key : String) (c : Catalog α) : Except RepositoryError (Option α) :=
  if stream ∈ c.streams then .ok (c.entity? stream key)
  else .error (.retrieval Ledger.missingStream)

/-- **The entity under the key `s`** without the blanks at its ends, which must not be all of it. -/
def find (stream s : String) (c : Catalog α) : Except RepositoryError (Option α) :=
  if Text.trim s = "" then .error (.invalidInput .blankKey) else c.lookup stream (Text.trim s)

/-- The key of `a` without the blanks at its ends, unless nothing is left of it. -/
def keyOf (metadata : Metadata α) (a : α) : Option String :=
  ((metadata.key a).map Text.trim).filter (· ≠ "")

/-- Stores `a` under `key`, which must be free. -/
def store (stream key : String) (a : α) (c : Catalog α) : Except RepositoryError α × Catalog α :=
  match c.lookup stream key with
  | .error e => (.error e, c)
  | .ok (some _) => (.error (.duplicateKey stream key), c)
  | .ok none => (.ok a, c.insert stream key a)

/-- **Stores `a` under its own key.** -/
def save (metadata : Metadata α) (a : α) (c : Catalog α) :
    Except RepositoryError α × Catalog α :=
  match keyOf metadata a with
  | none => (.error (.missingKey metadata.stream.text), c)
  | some key => c.store metadata.stream.text key a

/-- Stores entities one after the other, until one cannot be stored. -/
def saveAll (metadata : Metadata α) :
    List α → Catalog α → Except RepositoryError (List α) × Catalog α
  | [], c => (.ok [], c)
  | a :: as, c =>
    match c.save metadata a with
    | (.error e, c) => (.error e, c)
    | (.ok a, c) =>
      let (stored, c) := c.saveAll metadata as
      (stored.map (a :: ·), c)

/-- **What an operation gives on `c`, and the catalog that it leaves.** -/
def perform (metadata : Metadata α) (c : Catalog α) :
    Operation α → Except RepositoryError (Outcome α) × Catalog α
  | .exists s => (((c.find metadata.stream.text s).map Option.isSome).map .exists, c)
  | .find s => ((c.find metadata.stream.text s).map .found, c)
  | .save a =>
    let (saved, c) := c.save metadata a
    (saved.map .saved, c)
  | .saveAll as =>
    let (saved, c) := c.saveAll metadata as
    (saved.map .savedAll, c)

end Catalog

namespace Action

variable {α σ : Type}

/-- What `c` gives for an action; there is no answer to the creation of a stream. -/
def onCatalog (c : Catalog α) :
    Action α → Option (Except RepositoryError (Outcome α)) × Catalog α
  | .create stream => (none, c.createStream stream)
  | .perform metadata _ operation =>
    let (outcome, c) := c.perform metadata operation
    (some outcome, c)

/-- What comes of an action on the ledger of `t`, over the wire. -/
def onLedger (format : Json.Format α) (setting : Setting Ledger) (t : Trace Ledger) :
    Action α → Option (Except RepositoryError (Outcome α)) × Trace Ledger
  | .create stream => (none, { t with state := t.state.createStream stream })
  | .perform metadata emptyData operation =>
    let (outcome, t) := (operation.attempt ⟨format, metadata, emptyData⟩).dialogue.run setting t
    (some outcome, t)

/-- **The answers to actions**, one after the other. -/
def answers (on : σ → Action α → Option (Except RepositoryError (Outcome α)) × σ) :
    σ → List (Action α) → List (Option (Except RepositoryError (Outcome α)))
  | _, [] => []
  | s, action :: actions =>
    let (answer, s) := on s action
    answer :: answers on s actions

def entities : Action α → List α
  | .perform _ _ (.save a) => [a]
  | .perform _ _ (.saveAll as) => as
  | _ => []

end Action
end StreamRecords
