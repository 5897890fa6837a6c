import StreamRecords.Text.Decimal
import StreamRecords.Text.Quoted
import StreamRecords.Text.Utf8

/-!
Bytes in hexadecimal: two digits a byte, written in lowercase and read in either case. A text that
is not of this form is refused for its length first, then for its first character that is no digit.
A text can also be read pair by pair, over its bytes; it is then refused for the first byte that is
no digit.
-/

namespace StreamRecords.Hex

/-- The lowercase digit of `n`, which is below 16. -/
def digit (n : Nat) : Char := Nat.digitChar n

/-- The value of `c` as a digit of either case. -/
def digitValue? (c : Char) : Option Nat :=
  if '0' ≤ c ∧ c ≤ '9' then some (c.toNat - '0'.toNat)
  else if 'a' ≤ c ∧ c ≤ 'f' then some (c.toNat - 'a'.toNat + 10)
  else if 'A' ≤ c ∧ c ≤ 'F' then some (c.toNat - 'A'.toNat + 10)
  else none

/-- The value of the digit that is the byte `b`. -/
def byteValue? (b : UInt8) : Option Nat := digitValue? (.ofNat b.toNat)

def isDigit (c : Char) : Bool := (digitValue? c).isSome

/-- The two digits of `b`. -/
def encodeByte (b : UInt8) : List Char := [digit (b.toNat / 16), digit (b.toNat % 16)]

/-- The digits of `bs`. -/
def encode (bs : Bytes) : List Char := bs.flatMap encodeByte

/-- The bytes that pairs of digits spell. -/
def ofDigits : List Char → Bytes
  | a :: b :: cs =>
    .ofNat (16 * (digitValue? a).getD 0 + (digitValue? b).getD 0) :: ofDigits cs
  | _ => []

/-- Why a text is not hexadecimal. -/
inductive Fault where
  /-- The text has an odd number of bytes. -/
  | oddLength (length : Nat)
  /-- The first character that is no digit, and the number of bytes before it. -/
  | badDigit (c : Char) (position : Nat)
  deriving DecidableEq, Repr

def Fault.message : Fault → String
  | .oddLength length => s!"odd number of digits ({length})"
  | .badDigit c position => s!"invalid character {Text.quotedChar c} at position {position}"

/-- The first character that is no digit, and the number of bytes before it, in a text that starts
at the byte `position`. -/
def firstBadDigit? (position : Nat) : List Char → Option (Char × Nat)
  | [] => none
  | c :: cs =>
    if isDigit c then firstBadDigit? (position + c.utf8Size) cs else some (c, position)

/-- **The bytes that the hexadecimal text `s` spells.** -/
def decode (s : String) : Except Fault Bytes :=
  if Text.byteLength s % 2 ≠ 0 then .error (.oddLength (Text.byteLength s))
  else
    match firstBadDigit? 0 s.toList with
    | some (c, position) => .error (.badDigit c position)
    | none => .ok (ofDigits s.toList)

/-! ### Pair by pair -/

/-- Why bytes are not pairs of digits. -/
inductive PairFault where
  | oddLength
  /-- The first byte that is no digit, and its number. -/
  | badDigit (b : UInt8) (position : Nat)
  deriving DecidableEq, Repr

def PairFault.message : PairFault → String
  | .oddLength => "Odd number of digits"
  | .badDigit b position =>
    s!"Invalid character {Text.quotedChar (.ofNat b.toNat)} at position {position}"

/-- The value of the digit `b`, which is the byte number `position`. -/
def pairDigit (position : Nat) (b : UInt8) : Except PairFault Nat :=
  match byteValue? b with
  | some n => .ok n
  | none => .error (.badDigit b position)

/-- The bytes that pairs of digits spell, the first of them the byte number `position`. -/
def ofPairs (position : Nat) : Bytes → Except PairFault Bytes
  | a :: b :: s => do
    let high ← pairDigit position a
    let low ← pairDigit (position + 1) b
    let later ← ofPairs (position + 2) s
    return .ofNat (16 * high + low) :: later
  | _ => .ok []

/-- **The bytes that the bytes `s` of a hexadecimal text spell.** -/
def decodePairs (s : Bytes) : Except PairFault Bytes :=
  if s.length % 2 ≠ 0 then .error .oddLength else ofPairs 0 s

end StreamRecords.Hex
