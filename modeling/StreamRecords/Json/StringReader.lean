import StreamRecords.Hex
import StreamRecords.Json.Reader

/-!
Strings in JSON text. Escapes are taken apart into the bytes of the characters they name; the bytes
of the whole string must then be UTF-8.
-/

namespace StreamRecords.Json

/-! ### Escapes -/

/-- The number that the four digits of an escape spell. -/
def hex4 : Bytes → Except Fault Nat
  | a :: b :: c :: d :: _ =>
    match Hex.byteValue? a, Hex.byteValue? b, Hex.byteValue? c, Hex.byteValue? d with
    | some a, some b, some c, some d => .ok (((a * 16 + b) * 16 + c) * 16 + d)
    | _, _, _, _ => .error .invalidEscape
  | _ => .error .endInString

def letterEscape? (b : UInt8) : Option UInt8 :=
  if b = 0x22 then some 0x22
  else if b = 0x5C then some 0x5C
  else if b = 0x2F then some 0x2F
  else if b = 0x62 then some 0x08
  else if b = 0x66 then some 0x0C
  else if b = 0x6E then some 0x0A
  else if b = 0x72 then some 0x0D
  else if b = 0x74 then some 0x09
  else none

/-- `n` is the first half of a surrogate pair. -/
def isHighSurrogate (n : Nat) : Bool := 0xD800 ≤ n && n ≤ 0xDBFF

/-- `n` is the second half of a surrogate pair. -/
def isLowSurrogate (n : Nat) : Bool := 0xDC00 ≤ n && n ≤ 0xDFFF

/-- The code point of the surrogate pair of `high` and `low`. -/
def ofSurrogates (high low : Nat) : Nat := (high - 0xD800) * 0x400 + (low - 0xDC00) + 0x10000

/-- The second half of a pair, after the digits of the first. -/
def lowEscape : Bytes → Except Fault Nat
  | [] => .error .endInString
  | b :: s =>
    if b ≠ 0x5C then .error .unfinishedPair
    else
      match s with
      | [] => .error .endInString
      | u :: s =>
        if u ≠ 0x75 then .error .unfinishedPair
        else do
          let low ← hex4 s
          if isLowSurrogate low then return low else throw .loneSurrogate

/-- The character that an escape by code unit names, after its `u`, with the number of bytes taken.
A character beyond the code units takes two escapes. -/
def unitEscape (s : Bytes) : Except Fault (Char × Nat) := do
  let n ← hex4 s
  if isLowSurrogate n then throw .loneSurrogate
  else if isHighSurrogate n then
    let low ← lowEscape (s.drop 4)
    return (.ofNat (ofSurrogates n low), 10)
  else return (.ofNat n, 4)

/-- The bytes that an escape stands for, after its backslash, with the number of bytes taken. -/
def escape : Bytes → Except Fault (Bytes × Nat)
  | [] => .error .endInString
  | b :: s =>
    match letterEscape? b with
    | some c => .ok ([c], 1)
    | none =>
      if b = 0x75 then
        (unitEscape s).map fun (c, n) => (String.utf8EncodeChar c, n + 1)
      else .error .invalidEscape

/-! ### Strings -/

/-- The bytes of a string up to its closing quote, after `skip` bytes that are taken already. -/
def stringBytes : Nat → Bytes → Except Fault (Bytes × Bytes)
  | _, [] => .error .endInString
  | skip + 1, _ :: s => stringBytes skip s
  | 0, b :: s =>
    if b = 0x22 then .ok ([], s)
    else if b = 0x5C then do
      let (c, n) ← escape s
      let (cs, rest) ← stringBytes n s
      return (c ++ cs, rest)
    else if b < 0x20 then .error .controlCharacter
    else do
      let (cs, rest) ← stringBytes 0 s
      return (b :: cs, rest)

/-- **A string after its opening quote.** -/
def stringTail : Reader String := fun s => do
  let (bytes, rest) ← stringBytes 0 s
  match Utf8.decode bytes with
  | .ok cs => return (.ofList cs, rest)
  | .error _ => throw .invalidUtf8

/-! ### Passing over a string -/

/-- The number of bytes of an escape, after its backslash, whatever it stands for. -/
def skipEscape : Bytes → Except Fault Nat
  | [] => .error .endInString
  | b :: s =>
    match letterEscape? b with
    | some _ => .ok 1
    | none => if b = 0x75 then (hex4 s).map fun _ => 5 else .error .invalidEscape

/-- The text after the closing quote of a string, after `skip` bytes that are taken already. Only
the form of the string is looked at, not what it stands for. -/
def skipStringBytes : Nat → Bytes → Except Fault Bytes
  | _, [] => .error .endInString
  | skip + 1, _ :: s => skipStringBytes skip s
  | 0, b :: s =>
    if b = 0x22 then .ok s
    else if b = 0x5C then do skipStringBytes (← skipEscape s) s
    else if b < 0x20 then .error .controlCharacter
    else skipStringBytes 0 s

def skipStringTail (s : Bytes) : Except Fault Bytes := skipStringBytes 0 s

end StreamRecords.Json
