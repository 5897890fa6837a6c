import StreamRecords.Client.Config
import StreamRecords.Dialogue.Event

/-!
Dialogues with a node: what is sent, and how it goes on with each answer. A dialogue fixes nothing
about the node, so whatever holds of it holds with every node.
-/

namespace StreamRecords

/-- What comes back when a body is sent to a node. -/
abbrev Reply : Type := Except ClientError Bytes

/-- **A dialogue** that ends with a value. -/
inductive Dialogue (α : Type) where
  /-- The end. -/
  | done (a : α)
  /-- Asks for an identifier that was not used before. -/
  | fresh (next : RequestId → Dialogue α)
  /-- Notes an event. -/
  | note (event : Event) (next : Dialogue α)
  /-- Sends a body to the node, and goes on with the reply. -/
  | post (body : Bytes) (next : Reply → Dialogue α)

namespace Dialogue

variable {α β γ : Type}

/-- A dialogue followed by another that depends on its value. -/
def bind : Dialogue α → (α → Dialogue β) → Dialogue β
  | done a, f => f a
  | fresh next, f => fresh fun id => (next id).bind f
  | note event next, f => note event (next.bind f)
  | post body next, f => post body fun reply => (next reply).bind f

instance : Monad Dialogue where
  pure := done
  bind := bind

@[simp] theorem bind_done (d : Dialogue α) : d.bind done = d := by
  induction d with
  | done a => rfl
  | fresh next ih => exact congrArg fresh (funext ih)
  | note event next ih => exact congrArg (note event) ih
  | post body next ih => exact congrArg (post body) (funext ih)

@[simp] theorem bind_assoc (d : Dialogue α) (f : α → Dialogue β) (g : β → Dialogue γ) :
    (d.bind f).bind g = d.bind fun a => (f a).bind g := by
  induction d with
  | done a => rfl
  | fresh next ih => exact congrArg fresh (funext ih)
  | note event next ih => exact congrArg (note event) ih
  | post body next ih => exact congrArg (post body) (funext ih)

instance : LawfulMonad Dialogue :=
  LawfulMonad.mk' Dialogue bind_done (fun _ _ => rfl) bind_assoc

/-- An identifier that was not used before. -/
def newId : Dialogue RequestId := fresh done

def log (event : Event) : Dialogue Unit := note event (done ())

/-- Sends `body` to the node. -/
def send (body : Bytes) : Dialogue Reply := post body done

end Dialogue
end StreamRecords
