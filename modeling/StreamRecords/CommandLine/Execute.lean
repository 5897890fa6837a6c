import StreamRecords.Client.HttpConnection
import StreamRecords.CommandLine.Connection
import StreamRecords.Repository.Basic

/-!
Carrying out commands. A command that fails prints nothing, so what is printed comes only with
success. What is printed for people is styled: a style is set by a code before the text and ended by
a code after it.
-/

namespace StreamRecords.CommandLine

/-! ### Styles -/

inductive Style where
  | bold
  | red
  | green
  | yellow
  | boldGreen
  deriving DecidableEq, Repr

namespace Style

/-- The parameters of the code that sets a style. -/
def parameters : Style → List Char
  | .bold => ['1']
  | .red => ['3', '1']
  | .green => ['3', '2']
  | .yellow => ['3', '3']
  | .boldGreen => ['1', ';', '3', '2']

def code (parameters : List Char) : List Char := '\x1b' :: '[' :: parameters ++ ['m']

/-- The code that ends all styles. -/
def reset : List Char := code ['0']

/-- A text in which the style that `start` sets is set again after each code that ends it. -/
def setAgain (start : List Char) : List Char → List Char
  | '\x1b' :: '[' :: '0' :: 'm' :: cs => reset ++ start ++ setAgain start cs
  | c :: cs => c :: setAgain start cs
  | [] => []

/-- **`s` in a style**, or as it is where styles are not `shown`. -/
def apply (style : Style) (shown : Bool) (s : String) : String :=
  if shown then
    let start := code style.parameters
    .ofList (start ++ setAgain start s.toList ++ reset)
  else s

end Style

/-! ### Results -/

open Json

/-- How results are shown: in which format, and with styles or without. -/
structure Display where
  format : OutputFormat
  styled : Bool
  deriving DecidableEq, Repr

def Display.stream (d : Display) (stream : StreamName) : String :=
  Style.bold.apply d.styled stream.text

def Display.key (d : Display) (key : String) : String := Style.yellow.apply d.styled key

def Display.answer (d : Display) (b : Bool) : String :=
  if b then Style.green.apply d.styled "yes" else Style.red.apply d.styled "no"

/-- `s` on a line of its own. -/
def line (s : String) : String := s ++ "\n"

/-- The repository of the documents of `stream`, which have their keys in `field` if one is named.
-/
def documents (stream : StreamName) (field : Option String) : Repository Value :=
  ⟨.value, .ofField stream field, .absent⟩

/-- What is printed of the record that is `found` under `key`. -/
def recordText (d : Display) (stream : StreamName) (key : String) (found : Option Value) : String :=
  match d.format, found with
  | .json, _ =>
    (Value.object [("key", .string key), ("record", found.getD .null),
      ("stream", .string stream.text)]).compact
  | .text, some doc => doc.pretty
  | .text, none => s!"No record {d.key key} in stream {d.stream stream}"

/-- What is printed of whether a record is `found` under `key`. -/
def presenceText (d : Display) (stream : StreamName) (key : String) (found : Bool) : String :=
  match d.format with
  | .json =>
    (Value.object [("exists", .bool found), ("key", .string key),
      ("stream", .string stream.text)]).compact
  | .text => s!"{d.stream stream}/{d.key key}: {d.answer found}"

/-- What is printed of a document that is published under `key`. -/
def publishedText (d : Display) (stream : StreamName) (key : String) : String :=
  match d.format with
  | .json =>
    (Value.object [("key", .string key), ("published", .bool true),
      ("stream", .string stream.text)]).compact
  | .text =>
    s!"{Style.boldGreen.apply d.styled checkMark} Published {d.key key} to {d.stream stream}"
where
  checkMark : String := "✓"

def parseStream (s : String) : Attempt Failure StreamName :=
  .ofExcept ((StreamName.parse s).mapError .ofInput)

/-- The document that `s` spells, which must be an object. -/
def parseDocument (s : String) : Except Failure Value :=
  match Value.parse (Text.bytes s) with
  | .error e => .error ⟨some "document is not valid JSON", .reason e.message⟩
  | .ok doc =>
    if doc.isObject then .ok doc else .error (.ofReason "document must be a JSON object")

/-- What `search` gives for `key` in the documents of `stream`. -/
def lookUp {α : Type} (stream : StreamName) (key : String)
    (search : Repository Value → String → Attempt RepositoryError α) : Attempt Failure α :=
  (search (documents stream none) key).mapError
    (.during s!"looking up {key} in stream {stream.text}")

/-- **Carries out a command.** What it gives is printed. -/
def Command.execute (d : Display) : Command → Attempt Failure String
  | .find stream key => do
    let stream ← parseStream stream
    let key := Text.trim key
    let found ← lookUp stream key Repository.find
    return line (recordText d stream key found)
  | .exists stream key => do
    let stream ← parseStream stream
    let key := Text.trim key
    let found ← lookUp stream key Repository.exists?
    return line (presenceText d stream key found)
  | .publish stream keyField document => do
    let doc ← .ofExcept (parseDocument document)
    let stream ← parseStream stream
    let repository := documents stream (some keyField)
    let _ ← (repository.save doc).mapError (.during s!"publishing to stream {stream.text}")
    return line (publishedText d stream (Text.trim ((repository.metadata.key doc).getD "")))

/-- **Carries out the command line `i`**, where `file` is what reading the file that it names gives.
-/
def Invocation.perform (i : Invocation) (styled : Bool) (file : Except String Bytes) :
    Attempt Failure String := do
  let config ← .ofExcept (i.connection.settings file)
  let connection ← .ofExcept ((HttpConnection.ofConfig config).mapError .ofClient)
  .always (.log (.connecting connection.endpoint))
  i.command.execute ⟨i.format, styled⟩

end StreamRecords.CommandLine
