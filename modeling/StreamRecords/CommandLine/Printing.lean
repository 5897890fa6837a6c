import StreamRecords.CommandLine.Execute
import StreamRecords.Dialogue.Run

/-!
Commands that print as they go. What is printed stays printed, also when an error ends a command
later on, so it shows here when a command prints.
-/

namespace StreamRecords.CommandLine

/-- How an attempt that prints has ended: with a value or an error, with all that is printed, and
with what is left behind. -/
structure Ended (σ ε α : Type) where
  result : Except ε α
  printed : Bytes
  left : Trace σ

/-- An attempt that may print on its way: the output is handed on from step to step, and kept when
an error ends the attempt. -/
abbrev Printing (ε α : Type) : Type := ExceptT ε (StateT Bytes Dialogue) α

namespace Printing

variable {ε α : Type}

def ofAttempt (a : Attempt ε α) : Printing ε α :=
  ExceptT.mk fun out => a.dialogue.bind fun r => .done (r, out)

/-- Prints `s` behind all that is printed so far. -/
def print (s : String) : Printing ε Unit :=
  ExceptT.mk fun out => .done (.ok (), out ++ Text.bytes s)

/-- **Runs `p` to its end**, behind the output `out`. -/
def runOn {σ : Type} (p : Printing ε α) (setting : Setting σ) (out : Bytes) (t : Trace σ) :
    Ended σ ε α :=
  let ((result, printed), left) := (p.run.run out).run setting t
  ⟨result, printed, left⟩

end Printing

/-- **Carries out a command, and prints what it gives.** -/
def Command.executeOn (d : Display) : Command → Printing Failure Unit
  | .find stream key => do
    let stream ← .ofAttempt (parseStream stream)
    let key := Text.trim key
    let found ← .ofAttempt (lookUp stream key Repository.find)
    .print (line (recordText d stream key found))
  | .exists stream key => do
    let stream ← .ofAttempt (parseStream stream)
    let key := Text.trim key
    let found ← .ofAttempt (lookUp stream key Repository.exists?)
    .print (line (presenceText d stream key found))
  | .publish stream keyField document => do
    let doc ← .ofAttempt (.ofExcept (parseDocument document))
    let stream ← .ofAttempt (parseStream stream)
    let repository := documents stream (some keyField)
    let key := Text.trim ((repository.metadata.key doc).getD "")
    let _ ← .ofAttempt
      ((repository.save doc).mapError (.during s!"publishing to stream {stream.text}"))
    .print (line (publishedText d stream key))

end StreamRecords.CommandLine
