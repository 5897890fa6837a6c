import StreamRecords.Text.Blank
import StreamRecords.Text.Decimal
import StreamRecords.Time.Instant

/-!
Instants as text, in the form of RFC 3339: `2024-01-01T00:00:00Z`. Reading is lenient about blanks
and about the mark between date and time, and takes any offset from universal time; writing is not.
-/

namespace StreamRecords.Time.Rfc3339

open Text

/-! ### Writing -/

/-- The year `y`: four digits, or more of them after a sign. -/
def year (y : Int) : List Char :=
  if 0 ≤ y ∧ y ≤ 9999 then padLeft 4 (decimal y.toNat)
  else (if y < 0 then '-' else '+') :: padLeft 4 (decimal y.natAbs)

def two (n : Nat) : List Char := padLeft 2 (decimal n)

/-- The part `nanos` of a second: three, six or nine digits after a point, as few as say all, and
nothing for the start of a second. -/
def fraction (nanos : Nat) : List Char :=
  if nanos = 0 then []
  else if nanos % 1000000 = 0 then '.' :: padLeft 3 (decimal (nanos / 1000000))
  else if nanos % 1000 = 0 then '.' :: padLeft 6 (decimal (nanos / 1000))
  else '.' :: padLeft 9 (decimal nanos)

/-- **The instant `t` in universal time**, with `zone` after it. -/
def format (zone : List Char) (t : Instant) : String :=
  let date := Date.ofDays (t.seconds / 86400)
  let s := (t.seconds % 86400).toNat
  let leap := t.nanos / nanosPerSecond
  .ofList (year date.year ++ '-' :: two date.month ++ '-' :: two date.day ++ 'T' :: two (s / 3600)
    ++ ':' :: two (s / 60 % 60) ++ ':' :: two (s % 60 + leap)
    ++ fraction (t.nanos % nanosPerSecond) ++ zone)

def withLetter (t : Instant) : String := format ['Z'] t

def withOffset (t : Instant) : String := format ['+', '0', '0', ':', '0', '0'] t

/-! ### Reading -/

/-- Why a text is no instant. -/
inductive Fault where
  | tooShort
  | invalid
  | outOfRange
  | impossible
  | tooLong
  deriving DecidableEq, Repr

def Fault.message : Fault → String
  | .tooShort => "premature end of input"
  | .invalid => "input contains invalid characters"
  | .outOfRange => "input is out of range"
  | .impossible => "no possible date and time matching input"
  | .tooLong => "trailing input"

/-- A reader of a part of an instant: its value, with what follows it. -/
abbrev Reader (α : Type) := List Char → Except Fault (α × List Char)

/-- A number of one digit or more, up to `width` of them. -/
def number (width : Nat) : Reader Nat := fun cs =>
  let ds := (cs.take width).takeWhile Char.isDigit
  match ds, cs with
  | _ :: _, _ => .ok (ofDecimal ds, cs.drop ds.length)
  | [], [] => .error .tooShort
  | [], _ :: _ => .error .invalid

/-- A number of up to two digits from `lo` to `hi`, after blanks. -/
def field (lo hi : Nat) : Reader Nat := fun cs => do
  let (n, cs) ← number 2 (trimStart cs)
  if lo ≤ n ∧ n ≤ hi then return (n, cs) else throw .outOfRange

/-- The mark `c`, after blanks. -/
def mark (c : Char) (cs : List Char) : Except Fault (List Char) :=
  match trimStart cs with
  | [] => .error .tooShort
  | d :: cs => if d = c then .ok cs else .error .invalid

/-- A year after blanks: up to four digits, or any number of them after a sign. -/
def readYear : Reader Int := fun cs => do
  let check (n : Int) (rest : List Char) : Except Fault (Int × List Char) :=
    if -2147483648 ≤ n ∧ n < 2147483648 then .ok (n, rest) else .error .outOfRange
  match trimStart cs with
  | '-' :: cs =>
    let (n, rest) ← number cs.length cs
    check (-n) rest
  | '+' :: cs =>
    let (n, rest) ← number cs.length cs
    check n rest
  | cs =>
    let (n, rest) ← number 4 cs
    check n rest

/-- The part of a second, if there is one: digits beyond the ninth count for nothing. -/
def readFraction : Reader Nat := fun cs =>
  match cs with
  | '.' :: cs => do
    let (n, rest) ← number 9 cs
    return (n * Nat.pow 10 (9 - (cs.length - rest.length)), rest.dropWhile Char.isDigit)
  | _ => .ok (0, cs)

/-- Two digits at the front of the bytes of `cs`, which may be of a character that has several
bytes. -/
def twoDigits (cs : List Char) : Except Fault (Nat × Nat × List Char) :=
  match cs with
  | [] => .error .tooShort
  | [c] => .error (if c.utf8Size < 2 then .tooShort else .invalid)
  | a :: b :: cs =>
    if a.isDigit && b.isDigit then .ok (a.toNat - 48, b.toNat - 48, cs) else .error .invalid

/-- An offset from universal time in seconds: a sign, hours and minutes, with colons or blanks
between these or nothing. -/
def readOffset : Reader Int := fun cs => do
  let (sign, cs) ← match cs with
    | [] => throw .tooShort
    | c :: cs =>
      if c = '+' then pure (1, cs)
      else if c = '-' || c = '−' then pure (-1, cs)
      else throw .invalid
  let (h₁, h₂, cs) ← twoDigits cs
  let (m₁, m₂, cs) ← twoDigits (cs.dropWhile fun c => c = ':' || isBlank c)
  if m₁ < 6 then
    return (sign * ((10 * h₁ + h₂) * 3600 + (10 * m₁ + m₂) * 60 : Nat), cs)
  else throw .outOfRange

/-- The zone of an instant: a letter or a word for universal time, or an offset. -/
def readZone : Reader Int := fun cs =>
  match cs with
  | 'Z' :: cs | 'z' :: cs => .ok (0, cs)
  | a :: b :: c :: rest =>
    if a.toUpper = 'U' && b.toUpper = 'T' && c.toUpper = 'C' then .ok (0, rest) else readOffset cs
  | _ => readOffset cs

def readSeparator (cs : List Char) : Except Fault (List Char) :=
  match cs with
  | [] => .error .tooShort
  | c :: cs => if c = 'T' || c = 't' || c = ' ' then .ok cs else .error .invalid

def minYear : Int := -262143

def maxYear : Int := 262142

def offsetLimit : Nat := 86400

/-- **The instant that `s` names.** -/
def parse (s : String) : Except Fault Instant := do
  let (y, cs) ← readYear s.toList
  let cs ← mark '-' cs
  let (month, cs) ← field 1 12 cs
  let cs ← mark '-' cs
  let (day, cs) ← field 1 31 cs
  let cs ← readSeparator cs
  let (hour, cs) ← field 0 23 cs
  let cs ← mark ':' cs
  let (minute, cs) ← field 0 59 cs
  let cs ← mark ':' cs
  let (second, cs) ← field 0 60 cs
  let (nanos, cs) ← readFraction cs
  let (offset, cs) ← readZone (trimStart cs)
  if trimStart cs ≠ [] then throw .tooLong
  let date : Date := ⟨y, month, day⟩
  if y < minYear || maxYear < y || !date.isValid || offsetLimit ≤ offset.natAbs then
    throw .outOfRange
  let (second, nanos) := if second = 60 then (59, nanos + nanosPerSecond) else (second, nanos)
  let seconds := date.toDays * 86400 + (hour * 3600 + minute * 60 + second : Nat) - offset
  match Instant.ofParts? seconds nanos with
  | some t => return t
  | none => throw .impossible

end StreamRecords.Time.Rfc3339
