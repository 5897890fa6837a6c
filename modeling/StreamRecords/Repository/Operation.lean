import StreamRecords.Repository.Basic

/-!
The operations of a repository as data, with the number of exchanges that each makes at most.
-/

namespace StreamRecords

/-- **An operation of a repository.** -/
inductive Operation (α : Type) where
  | exists (key : String)
  | find (key : String)
  | save (entity : α)
  | saveAll (entities : List α)

/-- What an operation gives when it succeeds. -/
inductive Outcome (α : Type) where
  | exists (found : Bool)
  | found (entity : Option α)
  | saved (entity : α)
  | savedAll (entities : List α)

namespace Operation

variable {α : Type}

def attempt (r : Repository α) : Operation α → Attempt RepositoryError (Outcome α)
  | .exists key => .exists <$> r.exists? key
  | .find key => .found <$> r.find key
  | .save entity => .saved <$> r.save entity
  | .saveAll entities => .savedAll <$> r.saveAll entities

/-- The most exchanges that an operation makes: one to look up a key, and another to publish. -/
def mostExchanges : Operation α → Nat
  | .exists _ | .find _ => 1
  | .save _ => 2
  | .saveAll entities => 2 * entities.length

end Operation
end StreamRecords
