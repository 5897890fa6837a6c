import StreamRecords.Client.ConfigFile
import StreamRecords.CommandLine.Invocation
import StreamRecords.Repository.Error

/-!
The settings of the connection that a command line asks for, and the failures of commands. The file
of settings must be valid on its own; the options of the command line then replace what it holds. A
failure tells what was being done and what lies behind it.
-/

namespace StreamRecords

/-! ### Failures -/

open Rpc

/-- The texts of an error, the outermost first. -/
def ClientError.chain (e : ClientError) : List String :=
  e.message :: match e with
    | .protocol e => [e.message]
    | .config detail | .http detail | .io detail => [detail]
    | .invalidConfig _ | .status _ _ => []

def CodecError.chain (e : CodecError) : List String :=
  e.message :: match e with
    | .json detail => [detail]
    | .invalidHex _ | .utf8 _ => []

def RepositoryError.chain (e : RepositoryError) : List String :=
  e.message :: match e with
    | .invalidInput e => [e.message]
    | .codec e => e.chain
    | .protocol e => [e.message]
    | .client e => e.chain
    | _ => []

namespace CommandLine

/-- What lies behind the failure of a command. -/
inductive Cause where
  | reason (text : String)
  | input (error : InputError)
  | client (error : ClientError)
  | repository (error : RepositoryError)
  deriving DecidableEq

def Cause.chain : Cause → List String
  | .reason text => [text]
  | .input e => [e.message]
  | .client e => e.chain
  | .repository e => e.chain

/-- **A failure of a command**: what was being done, if that is known, and the cause. -/
structure Failure where
  context : Option String
  cause : Cause
  deriving DecidableEq

namespace Failure

def ofReason (text : String) : Failure := ⟨none, .reason text⟩

def ofInput (e : InputError) : Failure := ⟨none, .input e⟩

def ofClient (e : ClientError) : Failure := ⟨none, .client e⟩

/-- The failure `e` of a repository, where `context` says what was being done. -/
def during (context : String) (e : RepositoryError) : Failure := ⟨some context, .repository e⟩

/-- **The texts of a failure**, the outermost first. -/
def chain (f : Failure) : List String := f.context.toList ++ f.cause.chain

/-- The lines that report what lies behind a failure: numbered, unless there is only one. -/
def causeLines : List String → List String
  | [cause] => [s!"    {cause}"]
  | causes => causes.zipIdx.map fun (cause, i) => s!"    {i}: {cause}"

/-- The report of `f`: its outermost text, and below it what lies behind. -/
def report (f : Failure) : String :=
  match f.chain with
  | [] => "Error"
  | [text] => s!"Error: {text}"
  | text :: causes => "\n".intercalate ([s!"Error: {text}", "", "Caused by:"] ++ causeLines causes)

def kind? (f : Failure) : Option ErrorKind :=
  match f.cause with
  | .repository e => some e.kind
  | _ => none

end Failure
end CommandLine
end StreamRecords

namespace StreamRecords.CommandLine.ConnectionOptions

/-! ### Settings -/

/-- `c` with the options of `o` in the place of what it holds. A secure connection is not made
insecure. -/
def override (o : ConnectionOptions) (c : ClientConfig) : ClientConfig where
  host := o.host.getD c.host
  port := o.port.getD c.port
  username := o.user.getD c.username
  password := o.password.getD c.password
  secure := o.secure || c.secure
  timeout := o.timeout.or c.timeout

def blank : ClientConfig := ⟨"", 0, "", "", false, none⟩

/-- The settings before `o` replaces any: those of the file that it names, where `file` is what
reading it gives, or else blank ones. -/
def base (o : ConnectionOptions) (file : Except String Bytes) : Except Failure ClientConfig :=
  match o.config, o.host with
  | some path, _ =>
    (ClientConfig.ofFile file).mapError fun e => ⟨some s!"loading config from {path}", .client e⟩
  | none, some _ => .ok blank
  | none, none => .error (.ofReason "no node given: pass --config or --host (MCR_HOST)")

/-- **The settings that `o` asks for**, where `file` is what reading the file that it names gives.
-/
def settings (o : ConnectionOptions) (file : Except String Bytes) :
    Except Failure ClientConfig := do
  let c ← o.base file
  ((o.override c).validate).mapError .ofClient

end StreamRecords.CommandLine.ConnectionOptions
