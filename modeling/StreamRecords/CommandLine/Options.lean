import StreamRecords.Text.Decimal

/-!
The options of a command line, and the command lines that are not carried out. Some options are
given with a value, others are switches; most can be given before the command and after it, and some
have an environment variable that stands in for them.
-/

namespace StreamRecords.CommandLine

/-! ### Command lines that are not carried out -/

/-- **Why a command line is not carried out.** -/
inductive UsageError where
  /-- Help is asked for. -/
  | helpAsked
  /-- The version is asked for. -/
  | versionAsked
  /-- Nothing at all is given. -/
  | nothingGiven
  /-- Options are given, but no command. -/
  | noCommand
  /-- A word stands in the place of a command and is none. -/
  | unknownCommand
  /-- An argument is no option of the command, or a word too many. -/
  | unknownArgument
  /-- A value is missing, or is none of those that there are. -/
  | invalidValue
  /-- A value that should be a number is none, or is out of range. -/
  | malformedValue
  /-- An option is given twice. -/
  | givenTwice
  /-- A switch is given a value. -/
  | valueNotTaken
  /-- A word that the command needs is missing. -/
  | missingWord
  deriving DecidableEq, Repr

namespace UsageError

def message : UsageError → String
  | .helpAsked | .nothingGiven =>
    "usage: mcr [OPTIONS] find STREAM KEY | exists STREAM KEY | publish STREAM JSON"
  | .versionAsked => "mcr 0.1.0"
  | .noCommand => "a command is needed: find, exists or publish"
  | .unknownCommand => "there is no such command"
  | .unknownArgument => "unexpected argument"
  | .invalidValue => "a value is missing or not one of those that are possible"
  | .malformedValue => "a value is not a number in range"
  | .givenTwice => "an option is given twice"
  | .valueNotTaken => "a switch takes no value"
  | .missingWord => "the command needs more words"

/-- Whether the program was asked for the text of the error. -/
def isAsked : UsageError → Bool
  | .helpAsked | .versionAsked => true
  | _ => false

def exitStatus (e : UsageError) : UInt32 := if e.isAsked then 0 else 2

end UsageError

/-! ### Options -/

open Text

inductive Verb where
  | find
  | exists
  | publish
  deriving DecidableEq, Repr

def Verb.ofName? : String → Option Verb
  | "find" => some .find
  | "exists" => some .exists
  | "publish" => some .publish
  | _ => none

/-- `s` can stand in the place of a command: a verb or `help`. -/
def isCommandName (s : String) : Bool := (Verb.ofName? s).isSome || s == "help"

/-- How results are printed. -/
inductive OutputFormat where
  /-- For people to read. -/
  | text
  /-- One JSON object on a line. -/
  | json
  deriving DecidableEq, Repr

def OutputFormat.name : OutputFormat → String
  | .text => "text"
  | .json => "json"

/-- The options that are given without a value. -/
inductive Switch where
  | help
  | version
  | verbose
  | secure
  deriving DecidableEq, Repr

/-- The options that are given with a value. -/
inductive Parameter where
  | config
  | host
  | port
  | user
  | password
  | timeout
  | format
  | keyField
  deriving DecidableEq, Repr

/-- The switch of a name, before a command (`verb` is `none`) or after it. -/
def Switch.ofName? (verb : Option Verb) : String → Option Switch
  | "help" => some .help
  | "version" => if verb = none then some .version else none
  | "verbose" => some .verbose
  | "secure" => some .secure
  | _ => none

def Switch.ofLetter? (verb : Option Verb) : Char → Option Switch
  | 'h' => some .help
  | 'V' => if verb = none then some .version else none
  | 'v' => some .verbose
  | _ => none

def Parameter.ofName? (verb : Option Verb) : String → Option Parameter
  | "config" => some .config
  | "host" => some .host
  | "port" => some .port
  | "user" => some .user
  | "password" => some .password
  | "timeout" => some .timeout
  | "format" => some .format
  | "key-field" => if verb = some .publish then some .keyField else none
  | _ => none

/-! ### Values -/

/-- The number that the digits `cs` spell. -/
def digitsValue? (cs : List Char) : Option Nat :=
  if cs.isEmpty || !cs.all Char.isDigit then none else some (ofDecimal cs)

/-- The number of a text of digits, perhaps after a `+`. -/
def naturalValue? : List Char → Option Nat
  | '+' :: cs => digitsValue? cs
  | cs => digitsValue? cs

/-- The port that `s` spells: an integer in range, perhaps after a sign. -/
def portValue? (s : String) : Option UInt16 :=
  match s.toList with
  | '-' :: cs => if digitsValue? cs = some 0 then some 0 else none
  | cs => (naturalValue? cs).bind fun n => if n < 65536 then some (.ofNat n) else none

/-- The number of seconds that `s` spells, perhaps after a `+`. -/
def secondsValue? (s : String) : Option UInt64 :=
  (naturalValue? s.toList).bind fun n => if n < 18446744073709551616 then some (.ofNat n) else none

def OutputFormat.ofName? : String → Option OutputFormat
  | "text" => some .text
  | "json" => some .json
  | _ => none

def truthValue? : String → Option Bool
  | "true" => some true
  | "false" => some false
  | _ => none

/-! ### Options that are given -/

/-- **The options that are given** in one part of a command line. -/
structure Options where
  verbose : Bool
  secure : Option Bool
  config : Option String
  host : Option String
  port : Option UInt16
  user : Option String
  password : Option String
  timeout : Option UInt64
  format : Option OutputFormat
  keyField : Option String
  deriving DecidableEq, Repr

namespace Options

def empty : Options := ⟨false, none, none, none, none, none, none, none, none, none⟩

/-- The parameter is given in `o`. -/
def has (o : Options) : Parameter → Bool
  | .config => o.config.isSome
  | .host => o.host.isSome
  | .port => o.port.isSome
  | .user => o.user.isSome
  | .password => o.password.isSome
  | .timeout => o.timeout.isSome
  | .format => o.format.isSome
  | .keyField => o.keyField.isSome

/-- `o` with the value `s` of `p`, which must have the right form. -/
def assign (o : Options) (p : Parameter) (s : String) : Except UsageError Options :=
  match p with
  | .config => if s = "" then .error .invalidValue else .ok { o with config := some s }
  | .host => .ok { o with host := some s }
  | .port =>
    match portValue? s with
    | some n => .ok { o with port := some n }
    | none => .error .malformedValue
  | .user => .ok { o with user := some s }
  | .password => .ok { o with password := some s }
  | .timeout =>
    match secondsValue? s with
    | some n => .ok { o with timeout := some n }
    | none => .error .malformedValue
  | .format =>
    match OutputFormat.ofName? s with
    | some f => .ok { o with format := some f }
    | none => .error .invalidValue
  | .keyField => .ok { o with keyField := some s }

/-- `o` with the value `s` of `p`, which must not have been given before. -/
def give (o : Options) (p : Parameter) (s : String) : Except UsageError Options :=
  if o.has p then .error .givenTwice else o.assign p s

/-- `o` with a switch that was not given before. -/
def turnOn (o : Options) : Switch → Except UsageError Options
  | .help => .error .helpAsked
  | .version => .error .versionAsked
  | .verbose => if o.verbose then .error .givenTwice else .ok { o with verbose := true }
  | .secure => if o.secure.isSome then .error .givenTwice else .ok { o with secure := some true }

/-- **Options of two parts of a command line**, those of `o` before those of `p`. -/
def or (o p : Options) : Options where
  verbose := o.verbose || p.verbose
  secure := o.secure.or p.secure
  config := o.config.or p.config
  host := o.host.or p.host
  port := o.port.or p.port
  user := o.user.or p.user
  password := o.password.or p.password
  timeout := o.timeout.or p.timeout
  format := o.format.or p.format
  keyField := o.keyField.or p.keyField

end Options

/-! ### Environment variables -/

/-- The environment variables, by name. -/
abbrev Environment : Type := String → Option String

def Environment.names : List String :=
  ["MCR_CONFIG", "MCR_HOST", "MCR_PORT", "MCR_USER", "MCR_PASSWORD", "MCR_SECURE", "MCR_TIMEOUT"]

namespace Options

/-- `o` with the value of the variable `name` for `p`, unless `p` is given. -/
def fill (env : Environment) (o : Options) (name : String) (p : Parameter) :
    Except UsageError Options :=
  if o.has p then .ok o
  else match env name with
    | some s => o.assign p s
    | none => .ok o

/-- `o` with the value of the variable `name` for the switch of secure connections, unless it is
given. -/
def fillSecure (env : Environment) (o : Options) (name : String) : Except UsageError Options :=
  if o.secure.isSome then .ok o
  else match env name with
    | some s =>
      match truthValue? s with
      | some b => .ok { o with secure := some b }
      | none => .error .invalidValue
    | none => .ok o

/-- **The options `o` with the values of environment variables** for those that are not given. -/
def withEnvironment (env : Environment) (o : Options) : Except UsageError Options := do
  let o ← o.fill env "MCR_CONFIG" .config
  let o ← o.fill env "MCR_HOST" .host
  let o ← o.fill env "MCR_PORT" .port
  let o ← o.fill env "MCR_USER" .user
  let o ← o.fill env "MCR_PASSWORD" .password
  let o ← o.fillSecure env "MCR_SECURE"
  o.fill env "MCR_TIMEOUT" .timeout

end Options
end StreamRecords.CommandLine
