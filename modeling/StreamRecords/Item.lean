import StreamRecords.Hex
import StreamRecords.Json.Format
import StreamRecords.Text.Blank
import StreamRecords.Time.Instant

/-!
Items: what a stream holds, as a node lists it, and what an item is made of. The name of a stream
and the key of a record are kept without blanks at their ends and are never blank; the data are a
byte string, shown in hexadecimal. On the wire the time of an item is a number of whole seconds, and
an item without one is not yet confirmed.
-/

namespace StreamRecords

/-! ### Arguments that no request could carry -/

/-- Why an argument is refused before anything is sent. -/
inductive InputError where
  /-- The name of a stream is blank. -/
  | blankStreamName
  /-- The key of a record is blank. -/
  | blankKey
  /-- A text that should be hexadecimal is not. -/
  | invalidHex (detail : String)
  deriving DecidableEq, Repr

def InputError.message : InputError → String
  | .blankStreamName => "stream name must not be blank"
  | .blankKey => "record key must not be blank"
  | .invalidHex detail => s!"invalid hex string: {detail}"

/-! ### Names and keys -/

/-- **The name of a stream.** -/
structure StreamName where
  text : String
  trimmed : Text.trim text = text
  nonempty : text ≠ ""
  deriving DecidableEq

/-- **The key of a record within a stream.** -/
structure RecordKey where
  text : String
  trimmed : Text.trim text = text
  nonempty : text ≠ ""
  deriving DecidableEq

/-- The name that `s` gives once the blanks at its ends are cut off. -/
def StreamName.parse (s : String) : Except InputError StreamName :=
  if h : Text.trim s = "" then .error .blankStreamName
  else .ok ⟨Text.trim s, Text.trim_trim s, h⟩

/-- The key that `s` gives once the blanks at its ends are cut off. -/
def RecordKey.parse (s : String) : Except InputError RecordKey :=
  if h : Text.trim s = "" then .error .blankKey
  else .ok ⟨Text.trim s, Text.trim_trim s, h⟩

def StreamName.summary (n : StreamName) : String := s!"StreamName({n.text})"

def RecordKey.summary (k : RecordKey) : String := s!"RecordKey({k.text})"

/-- Names are in the order of their texts, character by character. -/
def StreamName.le (a b : StreamName) : Bool := decide (a.text ≤ b.text)

def StreamName.sort (names : List StreamName) : List StreamName := names.mergeSort StreamName.le

/-! ### Data -/

/-- **The data of a record**, a byte string. Its text is the hexadecimal form, so no encoding is
without a byte string and no byte string without an encoding. -/
structure Encoding where
  bytes : Bytes
  deriving DecidableEq, Repr, Inhabited

namespace Encoding

def empty : Encoding := ⟨[]⟩

def isEmpty (e : Encoding) : Bool := e.bytes.isEmpty

def byteLength (e : Encoding) : Nat := e.bytes.length

/-- The lowercase hexadecimal text of `e`. -/
def text (e : Encoding) : String := .ofList (Hex.encode e.bytes)

/-- The bytes of `e`, read back from its text. -/
def toBytes (e : Encoding) : Except InputError Bytes :=
  (Hex.decodePairs (Text.bytes e.text)).mapError fun f => .invalidHex f.message

/-- The encoding that `s` spells in digits of either case. -/
def parse (s : String) : Except InputError Encoding :=
  match Hex.decode s with
  | .ok bs => .ok ⟨bs⟩
  | .error e => .error (.invalidHex e.message)

/-- The most digits that a summary shows in full. -/
def summaryDigits : Nat := 16

/-- `e` on one line: all its digits if they are few, else the first ones and the length. -/
def summary (e : Encoding) : String :=
  let digits := Hex.encode e.bytes
  if summaryDigits < digits.length then
    s!"EntityEncoding({String.ofList (digits.take summaryDigits)}…, {e.byteLength} bytes)"
  else s!"EntityEncoding({String.ofList digits})"

end Encoding

/-! ### Items -/

open Json Time

/-- **An item of a stream.** -/
structure Item where
  txid : String
  key : String
  time : Option Instant
  data : Encoding
  deriving DecidableEq

/-- `i` is in a block, and so has a time. -/
def Item.isConfirmed (i : Item) : Bool := i.time.isSome

/-- The numbers that a time may be written as: all that a JSON number holds. -/
def timestampRange : IntRange where
  name := "a unix timestamp in seconds"
  least := -9223372036854775808
  greatest := 18446744073709551615

/-- The instant `n` seconds after the first one of 1970, if there is such an instant. -/
def instantOfTimestamp (n : timestampRange.Member) : Except String Instant :=
  if h : IsLegal n.val then .ok (.ofSeconds n.val h)
  else .error s!"value is not a legal timestamp: {n.val}"

/-- The second in which `t` lies. -/
def timestampOfInstant (t : Instant) : timestampRange.Member :=
  ⟨t.seconds, by
    have h := t.legal
    simp only [IsLegal, minSeconds, maxSeconds] at h
    simp only [timestampRange]
    omega⟩

def timestampFormat : Format Instant :=
  (Format.int timestampRange).via instantOfTimestamp fun t => .ok (timestampOfInstant t)

/-- Encodings as texts, read in digits of either case. -/
def encodingFormat : Format Encoding :=
  Format.text.via (fun s => (Encoding.parse s).mapError InputError.message) fun e => .ok e.text

def streamNameFormat : Format StreamName :=
  Format.text.via (fun s => (StreamName.parse s).mapError InputError.message) fun n => .ok n.text

def recordKeyFormat : Format RecordKey :=
  Format.text.via (fun s => (RecordKey.parse s).mapError InputError.message) fun k => .ok k.text

def itemFields :
    Fields (String × String × Option Instant × Encoding × Unit)
      (Option String × Option String × Option (Option Instant) × Option Encoding × Unit) :=
  .cons (.required "txid") .text <|
  .cons (.required "key") .text <|
  .cons ⟨"blocktime", .default none, Option.isNone⟩ (.option timestampFormat) <|
  .cons (.withDefault "data" .empty) encodingFormat .nil

/-- **The format of items.** -/
def itemFormat : Format Item :=
  (Format.record "StreamItem" itemFields).iso (fun (txid, key, time, data, ()) =>
    ⟨txid, key, time, data⟩) fun i => (i.txid, i.key, i.time, i.data, ())

end StreamRecords
