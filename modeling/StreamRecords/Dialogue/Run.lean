import StreamRecords.Dialogue.Basic

/-!
Running dialogues against a node, one by one or several at a time. What counts is the order in which
bodies reach the node: a schedule says which of the dialogues makes each exchange.
-/

namespace StreamRecords

/-- **A node** with states in `σ`: a state and a body give a reply and the next state. -/
abbrev Node (σ : Type) : Type := σ → Bytes → Reply × σ

/-- The surroundings of dialogues: a node, and the identifiers that it hands out, by number. -/
structure Setting (σ : Type) where
  node : Node σ
  ids : Nat → RequestId

/-- **What dialogues leave behind**: the state of the node, how many identifiers are handed out, and
the bodies and events so far, oldest first. -/
structure Trace (σ : Type) where
  state : σ
  drawn : Nat
  sent : List Bytes
  events : List Event

/-- A trace without bodies and events. -/
def Trace.start {σ : Type} (state : σ) (drawn : Nat) : Trace σ := ⟨state, drawn, [], []⟩

namespace Dialogue

variable {σ α : Type}

/-- Sends `body` within `setting`. -/
def exchange (setting : Setting σ) (body : Bytes) (t : Trace σ) : Reply × Trace σ :=
  let (reply, state) := setting.node t.state body
  (reply, { t with state := state, sent := t.sent ++ [body] })

/-- **Runs a dialogue to its end.** -/
def run (setting : Setting σ) : Dialogue α → Trace σ → α × Trace σ
  | done a, t => (a, t)
  | fresh next, t => (next (setting.ids t.drawn)).run setting { t with drawn := t.drawn + 1 }
  | note event next, t => next.run setting { t with events := t.events ++ [event] }
  | post body next, t =>
    let (reply, t) := exchange setting body t
    (next reply).run setting t

/-- Runs a dialogue until it is about to send a body, or has ended. -/
def advance (setting : Setting σ) : Dialogue α → Trace σ → Dialogue α × Trace σ
  | done a, t => (done a, t)
  | fresh next, t => (next (setting.ids t.drawn)).advance setting { t with drawn := t.drawn + 1 }
  | note event next, t => next.advance setting { t with events := t.events ++ [event] }
  | post body next, t => (post body next, t)

/-- Makes the exchange that `d` is about to make, if it is about to make one, and runs it on until
the next. -/
def step (setting : Setting σ) (d : Dialogue α) (t : Trace σ) : Dialogue α × Trace σ :=
  match d with
  | post body next =>
    let (reply, t) := exchange setting body t
    (next reply).advance setting t
  | d => (d, t)

def value? : Dialogue α → Option α
  | done a => some a
  | _ => none

def advanceAll (setting : Setting σ) : List (Dialogue α) → Trace σ → List (Dialogue α) × Trace σ
  | [], t => ([], t)
  | d :: ds, t =>
    let (d, t) := d.advance setting t
    let (ds, t) := advanceAll setting ds t
    (d :: ds, t)

/-- Lets the dialogue number `i` of `ds` make its next exchange. -/
def stepAt (setting : Setting σ) (i : Nat) (ds : List (Dialogue α)) (t : Trace σ) :
    List (Dialogue α) × Trace σ :=
  match ds[i]? with
  | none => (ds, t)
  | some d =>
    let (d, t) := d.step setting t
    (ds.set i d, t)

/-- Lets dialogues make exchanges in the order of a schedule, a list of their places. -/
def interleave (setting : Setting σ) :
    List Nat → List (Dialogue α) → Trace σ → List (Dialogue α) × Trace σ
  | [], ds, t => (ds, t)
  | i :: schedule, ds, t =>
    let (ds, t) := stepAt setting i ds t
    interleave setting schedule ds t

/-- The schedule in which each of `dialogues` many has a turn in each of `rounds` many rounds. -/
def roundRobin (rounds dialogues : Nat) : List Nat :=
  (List.replicate rounds (List.range dialogues)).flatten

/-- **Runs the dialogues `ds` at the same time**, their exchanges in the order of `schedule`. One
that the schedule does not bring to its end has no value. -/
def runTogether (setting : Setting σ) (schedule : List Nat) (ds : List (Dialogue α))
    (t : Trace σ) : List (Option α) × Trace σ :=
  let (ds, t) := advanceAll setting ds t
  let (ds, t) := interleave setting schedule ds t
  (ds.map value?, t)

/-- Runs the dialogues `ds` at the same time in turns, each with `rounds` many exchanges at most. -/
def runInTurns (setting : Setting σ) (rounds : Nat) (ds : List (Dialogue α)) (t : Trace σ) :
    List (Option α) × Trace σ :=
  runTogether setting (roundRobin rounds ds.length) ds t

end Dialogue
end StreamRecords
