import StreamRecords.Client.Config
import StreamRecords.Text.Utf8
import StreamRecords.Toml.Document
import StreamRecords.Toml.Writer

/-!
Settings in TOML files. Members of other names are passed over.
-/

namespace StreamRecords.ClientConfig

open Toml

/-- The string in `ms` under `key`, which must be there. -/
def stringMember (key : String) (ms : Members) : Option String :=
  match ms.get? key with
  | some (.string s) => some s
  | _ => none

/-- The integer in `ms` under `key`, which must be there and at most `greatest`. -/
def integerMember (key : String) (greatest : Nat) (ms : Members) : Option Nat :=
  match ms.get? key with
  | some (.integer n) => if 0 ≤ n ∧ n ≤ greatest then some n.toNat else none
  | _ => none

/-- The truth value in `ms` under `key`, false if there is none. -/
def booleanMember (key : String) (ms : Members) : Option Bool :=
  match ms.get? key with
  | none => some false
  | some (.boolean b) => some b
  | some _ => none

/-- The greatest integer of TOML, `2 ^ 63 - 1`. -/
def greatestInteger : Nat := 9223372036854775807

/-- The time limit in `ms`, `some none` if there is none. -/
def timeoutMember (ms : Members) : Option (Option UInt64) :=
  match ms.get? "timeout_secs" with
  | none => some none
  | some _ => (integerMember "timeout_secs" greatestInteger ms).map fun n => some (.ofNat n)

def ofMembers (ms : Members) : Option ClientConfig := do
  let host ← stringMember "host" ms
  let port ← integerMember "port" 65535 ms
  let username ← stringMember "username" ms
  let password ← stringMember "password" ms
  let secure ← booleanMember "secure" ms
  let timeout ← timeoutMember ms
  return ⟨host, .ofNat port, username, password, secure, timeout⟩

/-- The settings in the document `text`, whether they are valid or not. Whatever is wrong with it,
the refusal has one fixed text: neither the place nor the kind of a fault of TOML is kept. -/
def readToml (text : String) : Except ClientError ClientConfig :=
  match (Toml.parse text).bind ofMembers with
  | some c => .ok c
  | none => .error (.config "not a document of settings")

/-- **The settings in the document `text`**, if they are valid. -/
def ofToml (text : String) : Except ClientError ClientConfig := do
  (← readToml text).validate

/-- **The settings of a file**, where `contents` is what reading it gives. -/
def ofFile (contents : Except String Bytes) : Except ClientError ClientConfig := do
  let bytes ← contents.mapError .io
  match Utf8.decode bytes with
  | .error e => throw (.io e.message)
  | .ok cs => ofToml (.ofList cs)

/-- **The document of the settings `c`.** There is none if the time limit is no integer of TOML, and
then the refusal has a fixed text. -/
def toToml (c : ClientConfig) : Except ClientError String := do
  let timeout ← match c.timeout with
    | none => pure []
    | some n =>
      if n.toNat ≤ greatestInteger then pure (line "timeout_secs" (Text.decimal n.toNat))
      else throw (.config "time limit out of range")
  return .ofList (line "host" (stringText c.host) ++ line "port" (Text.decimal c.port.toNat)
    ++ line "username" (stringText c.username) ++ line "password" (stringText c.password)
    ++ line "secure" (booleanText c.secure) ++ timeout)

end StreamRecords.ClientConfig
