import StreamRecords.Json.Format
import StreamRecords.Rpc.Request
import StreamRecords.Text.Blank
import StreamRecords.Text.Quoted

/-!
The settings of a connection to a node, and what can go wrong between a request and its answer.
-/

namespace StreamRecords

/-! ### Errors -/

open Rpc

/-- **Why an exchange with a node fails.** Some causes come with a text of the surroundings. -/
inductive ClientError where
  /-- A setting is missing or senseless. -/
  | invalidConfig (reason : String)
  /-- A file of settings cannot be understood. -/
  | config (detail : String)
  /-- The request cannot be sent, or nothing comes back. -/
  | http (detail : String)
  /-- The answer has the status of a failure. -/
  | status (code : UInt16) (body : String)
  /-- A message cannot be understood or made. -/
  | protocol (error : ProtocolError)
  /-- A file cannot be read. -/
  | io (detail : String)
  deriving DecidableEq, Repr

namespace ClientError

def message : ClientError → String
  | .invalidConfig reason => s!"invalid client configuration: {reason}"
  | .config detail => s!"configuration error: {detail}"
  | .http detail => s!"HTTP error: {detail}"
  | .status code body => s!"HTTP status {code.toNat}: {body}"
  | .protocol error => s!"protocol error: {error.message}"
  | .io detail => s!"I/O error: {detail}"

/-- Whether the node was not reached, or did not answer as a node does. -/
def isTransport : ClientError → Bool
  | .http _ | .status _ _ | .io _ => true
  | .invalidConfig _ | .config _ | .protocol _ => false

def status? : ClientError → Option UInt16
  | .status code _ => some code
  | _ => none

end ClientError

/-! ### Settings -/

open Json Text

/-- **The settings of a connection.** -/
structure ClientConfig where
  host : String
  port : UInt16
  username : String
  password : String
  secure : Bool
  timeout : Option UInt64
  deriving DecidableEq, Repr

namespace ClientConfig

/-- The first setting of `c` that is missing: each text must hold more than blanks, and the port
must not be zero. -/
def flaw? (c : ClientConfig) : Option String :=
  if trim c.host = "" then some "host must not be blank"
  else if c.port = 0 then some "port must be greater than zero"
  else if trim c.username = "" then some "username must not be blank"
  else if trim c.password = "" then some "password must not be blank"
  else none

/-- `c` itself, if none of its settings is missing. -/
def validate (c : ClientConfig) : Except ClientError ClientConfig :=
  match c.flaw? with
  | some reason => .error (.invalidConfig reason)
  | none => .ok c

def scheme (c : ClientConfig) : String := if c.secure then "https" else "http"

def endpoint (c : ClientConfig) : String := s!"{c.scheme}://{trim c.host}:{c.port.toNat}"

/-- `c` on one line, without its password. -/
def summary (c : ClientConfig) : String :=
  let timeout := c.timeout.elim "None" fun n => s!"Some({n.toNat})"
  s!"ClientConfig \x7b host: {quoted c.host}, port: {c.port.toNat}, username: {quoted c.username}"
    ++ s!", password: \"<redacted>\", secure: {c.secure}, timeout_secs: {timeout} \x7d"

def portRange : IntRange where
  name := "u16"
  least := 0
  greatest := 65535

def portFormat : Format UInt16 :=
  (Format.int portRange).iso (fun n => .ofNat n.val.toNat)
    fun p => ⟨p.toNat, by simp only [portRange]; have := p.toNat_lt; omega⟩

def fields :
    Fields (String × UInt16 × String × String × Bool × Option UInt64 × Unit)
      (Option String × Option UInt16 × Option String × Option String × Option Bool
        × Option (Option UInt64) × Unit) :=
  .cons (.required "host") .text <|
  .cons (.required "port") portFormat <|
  .cons (.required "username") .text <|
  .cons (.required "password") .text <|
  .cons (.withDefault "secure" false) .bool <|
  .cons ⟨"timeout_secs", .default none, Option.isNone⟩ (.option .word64) .nil

def format : Format ClientConfig :=
  (Format.record "ClientConfig" fields).iso
    (fun (host, port, username, password, secure, timeout, ()) =>
      ⟨host, port, username, password, secure, timeout⟩)
    fun c => (c.host, c.port, c.username, c.password, c.secure, c.timeout, ())

end ClientConfig
end StreamRecords
