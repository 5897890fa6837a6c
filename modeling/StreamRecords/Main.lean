import StreamRecords.CommandLine.Execute

/-!
The program `mcr`. It has no way of sending built in: each request fails as it does when no node can
be reached.
-/

namespace StreamRecords.CommandLine

/-- The environment variables that stand in for options. -/
def environment : IO Environment := do
  let values ← Environment.names.mapM fun name => return (name, ← IO.getEnv name)
  return fun name => (values.lookup name).join

/-- What reading the file gives that a command line names. -/
def readFile : Option String → IO (Except String Bytes)
  | none => return .error "no file is named"
  | some path => do
    try
      return .ok (← IO.FS.readBinFile path).toList
    catch e =>
      return .error (toString e)

def reportEvent (e : Event) : IO Unit := do
  let fields := String.join (e.fields.map fun (name, value) => s!" {name}={value}")
  IO.eprintln s!"{e.level.name} {e.message}{fields}"

/-- Whether an event is printed. -/
def isReported (verbose : Bool) (e : Event) : Bool :=
  verbose || e.level = .warn

/-- Carries out `i`, and gives the status that the program ends with. -/
def runInvocation (i : Invocation) : IO UInt32 := do
  let styled := (← IO.getEnv "NO_COLOR").isNone && (← (← IO.getStdout).isTty)
  let file ← readFile i.connection.config
  let seed := (← IO.getRandomBytes 16).toList.foldl (fun n b => n * 256 + b.toNat) 0
  let setting : Setting Unit := ⟨unreachable, fun n => .ofBits (.ofNat 128 (seed + n))⟩
  let (result, trace) := (i.perform styled file).dialogue.run setting (.start () 0)
  for e in trace.events.filter (isReported i.verbose) do
    reportEvent e
  match result with
  | .ok text =>
    IO.print text
    return 0
  | .error f =>
    IO.eprintln f.report
    return 1

/-- Says why a command line is not carried out, and gives the status that the program ends with. -/
def refuse (e : UsageError) : IO UInt32 := do
  if e.isAsked then IO.println e.message else IO.eprintln e.message
  return e.exitStatus

/-- **Reads the arguments of the program and carries them out.** -/
def runArguments (args : List String) : IO UInt32 := do
  match Invocation.parse (← environment) args with
  | .ok i => runInvocation i
  | .error e => refuse e

end StreamRecords.CommandLine

def main (args : List String) : IO UInt32 := StreamRecords.CommandLine.runArguments args
