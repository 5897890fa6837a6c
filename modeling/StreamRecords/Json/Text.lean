import StreamRecords.Json.Value
import StreamRecords.Text.Decimal
import StreamRecords.Text.Utf8

/-!
The text of a JSON value: compact, or on several lines with each level indented by two spaces.
-/

namespace StreamRecords.Json

/-! ### Floating-point numbers -/

open Decimal Text

/-- How the digits of a floating-point number are laid out. -/
structure FloatLayout where
  /-- The least decimal exponent that is written in positional notation. -/
  positionalFrom : Int
  /-- The least decimal exponent above those. -/
  positionalBelow : Int
  /-- What a whole number ends in. -/
  wholeEnd : List Char
  /-- What stands between the digits and the exponent. -/
  exponentMark : List Char
  /-- What stands before an exponent that is not negative. -/
  plus : List Char

/-- **The layout of JSON numbers**: positional from `1e-5` up to below `1e16`, a whole number with
`.0`, every exponent with its sign. -/
def floatLayout : FloatLayout where
  positionalFrom := -5
  positionalBelow := 16
  wholeEnd := ['.', '0']
  exponentMark := ['e']
  plus := ['+']

namespace FloatLayout

variable (layout : FloatLayout)

/-- `digits` with the decimal point after `point` of them. -/
def positional (digits : List Char) (point : Int) : List Char :=
  if point ≤ 0 then '0' :: '.' :: (List.replicate (-point).toNat '0' ++ digits)
  else if digits.length ≤ point.toNat then
    digits ++ List.replicate (point.toNat - digits.length) '0' ++ layout.wholeEnd
  else digits.take point.toNat ++ '.' :: digits.drop point.toNat

/-- Digits with the point after the first of them, and the exponent `e` of that one. -/
def scientific (digits : List Char) (e : Int) : List Char :=
  digits.take 1 ++ (if digits.length ≤ 1 then [] else '.' :: digits.drop 1) ++ layout.exponentMark
    ++ (if 0 ≤ e then layout.plus else []) ++ decimalInt e

/-- The text of a size. -/
def magnitude (x : Magnitude) : List Char :=
  if x.mantissa = 0 then '0' :: layout.wholeEnd
  else
    let s := shortest x
    let digits := decimal s.digits
    let e := s.exponent + digits.length - 1
    if layout.positionalFrom ≤ e ∧ e < layout.positionalBelow then layout.positional digits (e + 1)
    else layout.scientific digits e

end FloatLayout

/-- The text of `x`, `null` if it is not finite. -/
def floatText (x : Float) : List Char :=
  if x.isFinite then
    (if x.toBits.toNat < 9223372036854775808 then [] else ['-'])
      ++ floatLayout.magnitude (.ofBits x.toBits)
  else "null".toList

/-! ### Values -/

open Text

/-- A character within a string: quote, backslash and control characters are escaped, all others
stand for themselves. -/
def escapeChar (c : Char) : List Char :=
  if c = '"' then ['\\', '"']
  else if c = '\\' then ['\\', '\\']
  else if c = '\x08' then ['\\', 'b']
  else if c = '\x0c' then ['\\', 'f']
  else if c = '\n' then ['\\', 'n']
  else if c = '\r' then ['\\', 'r']
  else if c = '\t' then ['\\', 't']
  else if c.toNat < 0x20 then
    ['\\', 'u', '0', '0', Nat.digitChar (c.toNat / 16), Nat.digitChar (c.toNat % 16)]
  else [c]

def stringText (s : String) : List Char := '"' :: s.toList.flatMap escapeChar ++ ['"']

def Number.text : Number → List Char
  | .int n _ => decimalInt n
  | .float x => floatText x

namespace Value

mutual

/-- **The compact text of a value**, without a blank between its parts. -/
def text : Value → List Char
  | .null => ['n', 'u', 'l', 'l']
  | .bool true => ['t', 'r', 'u', 'e']
  | .bool false => ['f', 'a', 'l', 's', 'e']
  | .number n => n.text
  | .string s => stringText s
  | .list items => '[' :: itemsText items ++ [']']
  | .object members => '\x7b' :: membersText members ++ ['\x7d']

/-- The items of a list with commas between them. -/
def itemsText : List Value → List Char
  | [] => []
  | [v] => v.text
  | v :: w :: items => v.text ++ ',' :: itemsText (w :: items)

/-- The members of an object with commas between them. -/
def membersText : List (String × Value) → List Char
  | [] => []
  | [(k, v)] => stringText k ++ ':' :: v.text
  | (k, v) :: m :: members => stringText k ++ ':' :: v.text ++ ',' :: membersText (m :: members)

end

def compact (v : Value) : String := .ofList v.text

def bytes (v : Value) : Bytes := Utf8.encode v.text

/-- A new line at the level `level` of nesting. -/
def newLine (level : Nat) : List Char := '\n' :: List.replicate (2 * level) ' '

mutual

/-- The text of a value over several lines, with `level` levels around it. -/
def prettyText (level : Nat) : Value → List Char
  | .list [] => ['[', ']']
  | .list (v :: items) =>
    '[' :: newLine (level + 1) ++ prettyItems (level + 1) (v :: items) ++ newLine level ++ [']']
  | .object [] => ['\x7b', '\x7d']
  | .object (m :: members) =>
    '\x7b' :: newLine (level + 1) ++ prettyMembers (level + 1) (m :: members) ++ newLine level
      ++ ['\x7d']
  | v => v.text

/-- The items of a list, each on a line of its own. -/
def prettyItems (level : Nat) : List Value → List Char
  | [] => []
  | [v] => prettyText level v
  | v :: w :: items => prettyText level v ++ ',' :: newLine level ++ prettyItems level (w :: items)

/-- The members of an object, each on a line of its own. -/
def prettyMembers (level : Nat) : List (String × Value) → List Char
  | [] => []
  | [(k, v)] => stringText k ++ ':' :: ' ' :: prettyText level v
  | (k, v) :: m :: members =>
    stringText k ++ ':' :: ' ' :: prettyText level v ++ ',' :: newLine level
      ++ prettyMembers level (m :: members)

end

/-- **The text of a value over several lines**, each level indented by two spaces. An empty list or
object stays on its line. -/
def pretty (v : Value) : String := .ofList (v.prettyText 0)

end Value
end StreamRecords.Json
