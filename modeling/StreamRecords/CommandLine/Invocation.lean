import StreamRecords.CommandLine.Options

/-!
Command lines that can be carried out, and how they are read: what an argument looks like, what has
been read of the arguments before a command or after it, and what they ask for in the end. The value
of an option is looked at only when the next option or word of the command comes, or the arguments
end.
-/

namespace StreamRecords.CommandLine

/-! ### Arguments -/

/-- **The form of an argument.** -/
inductive Token where
  /-- Two dashes alone: only words follow. -/
  | divider
  /-- A name after two dashes, perhaps with a value after an equals sign. -/
  | long (name : String) (value : Option String)
  /-- Letters after one dash. -/
  | short (letters : List Char)
  /-- Anything else, a dash alone too. -/
  | word
  deriving DecidableEq, Repr

/-- The characters before the first `=`, and those after it if there is one. -/
def splitAtEquals : List Char → List Char × Option (List Char)
  | [] => ([], none)
  | c :: cs =>
    if c = '=' then ([], some cs)
    else ((c :: (splitAtEquals cs).1), (splitAtEquals cs).2)

def Token.ofChars : List Char → Token
  | ['-', '-'] => .divider
  | '-' :: '-' :: cs =>
    let (name, value) := splitAtEquals cs
    .long (.ofList name) (value.map .ofList)
  | '-' :: c :: cs => .short (c :: cs)
  | _ => .word

def Token.ofArgument (s : String) : Token := .ofChars s.toList

/-! ### Reading arguments one by one -/

/-- **What has been read** of one part of a command line. -/
structure Reading where
  options : Options
  /-- The parameter that was given last, with its value once that has come. -/
  pending : Option (Parameter × Option String)
  /-- The words that are no values of parameters. -/
  words : List String
  /-- Whether only words follow. -/
  onlyWords : Bool

namespace Reading

def start : Reading := ⟨.empty, none, [], false⟩

/-- The parameter that was given last has no value yet. -/
def awaitsValue (r : Reading) : Bool :=
  match r.pending with
  | some (_, none) => true
  | _ => false

/-- Takes the value of the parameter that was given last. -/
def settle (r : Reading) : Except UsageError Reading :=
  match r.pending with
  | none => .ok r
  | some (_, none) => .error .invalidValue
  | some (p, some s) => (r.options.give p s).map fun o => { r with options := o, pending := none }

def turnOn (r : Reading) (s : Switch) : Except UsageError Reading := do
  let r ← r.settle
  let options ← r.options.turnOn s
  return { r with options }

/-- Takes the parameter `p`, perhaps with a `value`. -/
def give (r : Reading) (p : Parameter) (value : Option String) : Except UsageError Reading := do
  let r ← r.settle
  match value with
  | none => return { r with pending := some (p, none) }
  | some s =>
    let options ← r.options.give p s
    return { r with options }

/-- Reads an option by its name, before a command (`none`) or after it. -/
def readLong (verb : Option Verb) (r : Reading) (name : String) (value : Option String) :
    Except UsageError Reading :=
  match Switch.ofName? verb name, Parameter.ofName? verb name with
  | some s, _ => if value.isSome then .error .valueNotTaken else r.turnOn s
  | none, some p => r.give p value
  | none, none => .error .unknownArgument

/-- Reads an option by its letter, before a command (`none`) or after it. -/
def readLetter (verb : Option Verb) (r : Reading) (c : Char) : Except UsageError Reading :=
  match Switch.ofLetter? verb c with
  | some s => r.turnOn s
  | none => .error .unknownArgument

/-- Reads a word that is no value of a parameter. A command has two such words; before it there is
none. -/
def readWord (verb : Option Verb) (r : Reading) (s : String) : Except UsageError Reading :=
  match verb with
  | none => .error (if r.onlyWords && isCommandName s then .unknownArgument else .unknownCommand)
  | some _ =>
    if r.words.length < 2 then r.settle.map fun r => { r with words := r.words ++ [s] }
    else .error .unknownArgument

/-- **Reads an argument**, before a command (`none`) or after it. -/
def read (verb : Option Verb) (r : Reading) (s : String) : Except UsageError Reading :=
  if r.onlyWords then r.readWord verb s
  else match Token.ofArgument s with
    | .divider => .ok { r with onlyWords := true }
    | .long name value => r.readLong verb name value
    | .short letters => letters.foldlM (readLetter verb) r
    | .word =>
      match r.pending with
      | some (p, none) => .ok { r with pending := some (p, some s) }
      | _ => r.readWord verb s

end Reading

/-! ### Whole command lines -/

/-- **A command with its words.** -/
inductive Command where
  /-- Shows the record under a key. -/
  | find (stream key : String)
  /-- Tells whether there is a record under a key. -/
  | exists (stream key : String)
  /-- Publishes a document under the key that one of its fields holds. -/
  | publish (stream keyField document : String)
  deriving DecidableEq, Repr

/-- How the node is to be reached, as far as a command line says. -/
structure ConnectionOptions where
  config : Option String
  host : Option String
  port : Option UInt16
  user : Option String
  password : Option String
  secure : Bool
  timeout : Option UInt64
  deriving DecidableEq, Repr

/-- **A command line** that can be carried out. -/
structure Invocation where
  command : Command
  format : OutputFormat
  verbose : Bool
  connection : ConnectionOptions
  deriving DecidableEq, Repr

def Options.connection (o : Options) : ConnectionOptions where
  config := o.config
  host := o.host
  port := o.port
  user := o.user
  password := o.password
  secure := o.secure.getD false
  timeout := o.timeout

/-- The field that holds the key of a document, `id` if none is named. -/
def Options.keyFieldName (o : Options) : String := o.keyField.getD "id"

def Verb.command (verb : Verb) (keyField : String) (stream word : String) : Command :=
  match verb with
  | .find => .find stream word
  | .exists => .exists stream word
  | .publish => .publish stream keyField word

namespace Invocation

def ofOptions (command : Command) (o : Options) : Invocation :=
  ⟨command, o.format.getD .text, o.verbose, o.connection⟩

/-- Reads the arguments `args` that follow `verb`. -/
def readCommand (env : Environment) (verb : Verb) (args : List String) :
    Except UsageError (Command × Options) := do
  let r ← args.foldlM (Reading.read (some verb)) .start
  let r ← r.settle
  let _ ← r.options.withEnvironment env
  match r.words with
  | [stream, word] => return (verb.command r.options.keyFieldName stream word, r.options)
  | _ => throw .missingWord

/-- The answer to the command `help`, which may have the name of a command after it. -/
def helpAnswer : List String → UsageError
  | [] => .helpAsked
  | [name] => if isCommandName name then .helpAsked else .unknownCommand
  | _ => .unknownCommand

/-- Reads a command line on from what has been read of it. -/
def readFrom (env : Environment) : Reading → List String → Except UsageError Invocation
  | r, [] => do
    let r ← r.settle
    let o ← r.options.withEnvironment env
    throw (if o = .empty then .nothingGiven else .noCommand)
  | r, arg :: args =>
    if r.onlyWords || r.awaitsValue || !isCommandName arg then do
      let r ← r.read none arg
      readFrom env r args
    else match Verb.ofName? arg with
      | none => .error (helpAnswer args)
      | some verb => do
        let (command, inner) ← readCommand env verb args
        let r ← r.settle
        let outer ← r.options.withEnvironment env
        return ofOptions command (inner.or outer)

/-- **Reads a command line.** Options after the command have precedence over those before it, and
both over environment variables. -/
def parse (env : Environment) (args : List String) : Except UsageError Invocation :=
  readFrom env .start args

end Invocation
end StreamRecords.CommandLine
