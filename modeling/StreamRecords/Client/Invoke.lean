import StreamRecords.Dialogue.Basic

/-!
One request and its answer, as a dialogue that an error may end on its way.
-/

namespace StreamRecords

/-! ### Attempts -/

/-- A dialogue with a value of `α` at its end, or an error of `ε`. -/
abbrev Attempt (ε α : Type) : Type := ExceptT ε Dialogue α

namespace Attempt

variable {ε α : Type}

def dialogue (a : Attempt ε α) : Dialogue (Except ε α) := a.run

/-- A step that no error can end. -/
def always (d : Dialogue α) : Attempt ε α := ExceptT.lift d

def ofDialogue (d : Dialogue (Except ε α)) : Attempt ε α := ExceptT.mk d

def ofExcept (e : Except ε α) : Attempt ε α := ExceptT.mk (.done e)

def mapError {ε' : Type} (f : ε → ε') (a : Attempt ε α) : Attempt ε' α :=
  .ofDialogue (a.dialogue.bind fun r => .done (r.mapError f))

end Attempt

/-! ### One request -/

open Json Rpc

variable {α : Type}

/-- **Sends `request` and understands the answer**, with a result of `format`. An error of the node
is a part of the answer. -/
def invoke (format : Format α) (request : Request) : Attempt ClientError (Response α) := do
  .always (.log (.invoking request.id request.command))
  let reply ← .ofDialogue (.send request.encode)
  let response ← .ofExcept ((Response.decode format reply).mapError .protocol)
  if response.id ≠ "" ∧ response.id ≠ request.id.text then
    .always (.log (.idMismatch request.id response.id))
  if let some error := response.error then
    .always (.log (.nodeError request.command error))
  return response

end StreamRecords
