import StreamRecords.Json.Text
import StreamRecords.Text.Quoted

/-!
Why a text, or a value, is not what its reader wants.
-/

namespace StreamRecords.Json

inductive Found where
  | null
  | bool (b : Bool)
  | number (n : Number)
  | string (s : String)
  | list
  | object

/-- **Why reading fails.** The first constructors are about the text alone, the last ones about the
form that is wanted. -/
inductive Fault where
  /-- The text ends where a value should stand. -/
  | endInValue
  | endInList
  | endInObject
  | endInString
  /-- No value starts here. -/
  | expectedValue
  /-- A word that starts like `null`, `true` or `false` goes on otherwise. -/
  | expectedWord
  | expectedColon
  | expectedListEnd
  | expectedObjectEnd
  /-- A member of an object has no name. -/
  | nameNotString
  | trailingComma
  /-- The text goes on after the value. -/
  | trailingText
  | invalidNumber
  | numberOutOfRange
  | invalidEscape
  | controlCharacter
  /-- The first half of a surrogate pair is not followed by another escape. -/
  | unfinishedPair
  /-- Half of a surrogate pair stands alone. -/
  | loneSurrogate
  /-- The bytes of a string are not UTF-8. -/
  | invalidUtf8
  | tooDeep
  /-- A value of another type than the one wanted. -/
  | wrongType (found : Found) (wanted : String)
  /-- A number outside the range wanted. -/
  | wrongValue (found : Found) (wanted : String)
  /-- A list with too few or too many items. -/
  | wrongLength (length : Nat) (wanted : String)
  | missingField (name : String)
  | duplicateField (name : String)
  /-- A value of the right form that a check refuses. -/
  | refused (reason : String)

def Found.message : Found → String
  | .null => "null"
  | .bool b => s!"boolean `{b}`"
  | .number (.int n h) => s!"integer `{String.ofList (Number.int n h).text}`"
  | .number (.float x) => s!"floating point `{String.ofList (floatText x)}`"
  | .string s => s!"string {Text.quoted s}"
  | .list => "sequence"
  | .object => "map"

/-- **The text of a fault.** It names no line and no column: where a fault stands is not kept. -/
def Fault.message : Fault → String
  | .endInValue => "EOF while parsing a value"
  | .endInList => "EOF while parsing a list"
  | .endInObject => "EOF while parsing an object"
  | .endInString => "EOF while parsing a string"
  | .expectedValue => "expected value"
  | .expectedWord => "expected ident"
  | .expectedColon => "expected `:`"
  | .expectedListEnd => "expected `,` or `]`"
  | .expectedObjectEnd => "expected `,` or `\x7d`"
  | .nameNotString => "key must be a string"
  | .trailingComma => "trailing comma"
  | .trailingText => "trailing characters"
  | .invalidNumber => "invalid number"
  | .numberOutOfRange => "number out of range"
  | .invalidEscape => "invalid escape"
  | .controlCharacter => "control character (\\u0000-\\u001F) found while parsing a string"
  | .unfinishedPair => "unexpected end of hex escape"
  | .loneSurrogate => "lone leading surrogate in hex escape"
  | .invalidUtf8 => "invalid unicode code point"
  | .tooDeep => "recursion limit exceeded"
  | .wrongType found wanted => s!"invalid type: {found.message}, expected {wanted}"
  | .wrongValue found wanted => s!"invalid value: {found.message}, expected {wanted}"
  | .wrongLength length wanted => s!"invalid length {length}, expected {wanted}"
  | .missingField name => s!"missing field `{name}`"
  | .duplicateField name => s!"duplicate field `{name}`"
  | .refused reason => reason

/-- What `v` is when it is found in the place of another value. -/
def Value.found : Value → Found
  | .null => .null
  | .bool b => .bool b
  | .number n => .number n
  | .string s => .string s
  | .list _ => .list
  | .object _ => .object

end StreamRecords.Json
