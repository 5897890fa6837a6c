import StreamRecords.Dialogue.Run

/-!
A node that answers by a script as long as there is one, and after that as another node does.
-/

namespace StreamRecords

open Rpc

inductive ScriptEntry where
  /-- A body, in which a mark stands for the identifier of the request. -/
  | reply (body : Bytes)
  /-- The status of a failure. -/
  | status (code : UInt16) (body : String)
  /-- Nothing comes back. -/
  | silence
  /-- The other node answers. -/
  | passOn

/-- A body with `id` in the place of each mark `$ID`. -/
def fillMarks (id : Bytes) : Bytes → Bytes
  | 0x24 :: 0x49 :: 0x44 :: s => id ++ fillMarks id s
  | b :: s => b :: fillMarks id s
  | [] => []

/-- The identifier of the request in `body`, if it is of the program's own making. -/
def ownId (body : Bytes) : String :=
  match Request.decode body with
  | .ok r => if r.id.isGenerated then r.id.text else ""
  | .error _ => ""

/-- **A node with a script** before it. -/
structure Scripted (σ : Type) where
  script : List ScriptEntry
  state : σ

namespace Scripted

variable {σ : Type}

/-- `s` with `entries` at the end of its script. -/
def extend (entries : List ScriptEntry) (s : Scripted σ) : Scripted σ :=
  { s with script := s.script ++ entries }

/-- What `other` answers, as a scripted node. -/
def pass (other : Node σ) (script : List ScriptEntry) (state : σ) (body : Bytes) :
    Reply × Scripted σ :=
  let (reply, state) := other state body
  (reply, ⟨script, state⟩)

/-- **A node that follows its script**, one entry for each body. -/
def node (other : Node σ) : Node (Scripted σ) := fun s body =>
  match s.script with
  | [] => pass other [] s.state body
  | entry :: script =>
    match entry with
    | .reply text => (.ok (fillMarks (Text.bytes (ownId body)) text), ⟨script, s.state⟩)
    | .status code text => (.error (.status code text), ⟨script, s.state⟩)
    | .silence => (.error (.io "no reply"), ⟨script, s.state⟩)
    | .passOn => pass other script s.state body

end Scripted
end StreamRecords
