import StreamRecords.Time.Instant
import StreamRecords.Toml.Reader
import StreamRecords.Toml.Value

/-!
TOML numbers and dates.
-/

namespace StreamRecords.Toml

/-! ### Digits -/

/-- Digits of a class, with a `_` between two of them or not. -/
def digitsTail (isDigit : Char → Bool) : List Char → List Char × List Char
  | [] => ([], [])
  | c :: s =>
    if isDigit c then
      let (ds, rest) := digitsTail isDigit s
      (c :: ds, rest)
    else if c = '_' then
      match s with
      | [] => ([], [c])
      | d :: s =>
        if isDigit d then
          let (ds, rest) := digitsTail isDigit s
          (d :: ds, rest)
        else ([], c :: d :: s)
    else ([], c :: s)

/-- At least one digit of a class, with a `_` between two of them or not. -/
def digits (isDigit : Char → Bool) : Reader (List Char)
  | [] => none
  | c :: s =>
    if isDigit c then
      let (ds, rest) := digitsTail isDigit s
      some (c :: ds, rest)
    else none

/-- The digits of a decimal number, without a zero before others. -/
def decimalDigits : Reader (List Char)
  | '0' :: s => some (['0'], s)
  | s => digits Char.isDigit s

/-- A sign, if there is one: whether the number is negative. -/
def sign : List Char → Bool × List Char
  | '+' :: s => (false, s)
  | '-' :: s => (true, s)
  | s => (false, s)

/-- The number that the digits `ds` spell to the base `base`. -/
def ofDigits (base : Nat) (ds : List Char) : Nat :=
  ds.foldl (fun n c => base * n + (Hex.digitValue? c).getD 0) 0

/-! ### Integers -/

/-- `n` is an integer of 64 bits with a sign. -/
def isInteger (n : Int) : Bool := -9223372036854775808 ≤ n && n < 9223372036854775808

def integerOf (negative : Bool) (n : Nat) : Option Int :=
  let n : Int := if negative then -n else n
  if isInteger n then some n else none

/-- An integer to the base `base`, after the letter of this. -/
def integerIn (base : Nat) : Reader Int := fun s => do
  let (ds, rest) ← digits (fun c => (Hex.digitValue? c).any (· < base)) s
  let n ← integerOf false (ofDigits base ds)
  return (n, rest)

def integer : Reader Int
  | '0' :: 'x' :: s => integerIn 16 s
  | '0' :: 'o' :: s => integerIn 8 s
  | '0' :: 'b' :: s => integerIn 2 s
  | s => do
    let (negative, s) := sign s
    let (ds, rest) ← decimalDigits s
    let n ← integerOf negative (ofDigits 10 ds)
    return (n, rest)

/-! ### Floating-point numbers -/

/-- The least magnitude that is not rounded down to a floating-point number. -/
def infinityBound : Nat := Nat.pow 2 1024 - Nat.pow 2 970

/-- The number of digits of the greatest floating-point number before its point. -/
def greatestDigits : Nat := 309

/-- Whether the number `n * 10 ^ e` counts as infinite. -/
def isInfinite (n : Nat) (e : Int) : Bool :=
  let width : Int := (Nat.toDigits 10 n).length
  if n = 0 ∨ width + e < greatestDigits then false
  else if greatestDigits < width + e then true
  else if 0 ≤ e then infinityBound ≤ n * Nat.pow 10 e.toNat
  else infinityBound * Nat.pow 10 (-e).toNat ≤ n

def fraction : Reader (List Char)
  | '.' :: s => digits Char.isDigit s
  | _ => none

def exponent : Reader Int
  | c :: s =>
    if c = 'e' ∨ c = 'E' then do
      let (negative, s) := sign s
      let (ds, s) ← digits Char.isDigit s
      let n : Int := ofDigits 10 ds
      return (if negative then -n else n, s)
    else none
  | [] => none

/-- The rest after a floating-point number in digits. One that counts as positive infinity is
refused. -/
def finiteFloat (s : List Char) : Option (List Char) := do
  let (negative, s) := sign s
  let (whole, s) ← decimalDigits s
  let (part, e, s) ← match fraction s with
    | some (part, s) =>
      match exponent s with
      | some (e, s) => some (part, e, s)
      | none => some (part, 0, s)
    | none => (exponent s).map fun (e, s) => ([], e, s)
  if !negative && isInfinite (ofDigits 10 (whole ++ part)) (e - part.length) then none
  else return s

/-- The rest after a word for infinity or for no number. -/
def namedFloat (s : List Char) : Option (List Char) :=
  match (sign s).2 with
  | 'i' :: 'n' :: 'f' :: s => some s
  | 'n' :: 'a' :: 'n' :: s => some s
  | _ => none

/-! ### Dates and times -/

/-- A number of `width` digits from `lo` to `hi`. -/
def fixedNumber (width lo hi : Nat) : Reader Nat := fun s =>
  let ds := s.take width
  if ds.length = width ∧ ds.all Char.isDigit then
    let n := ofDigits 10 ds
    if lo ≤ n ∧ n ≤ hi then some (n, s.drop width) else none
  else none

/-- The rest after the character `c`. -/
def after (c : Char) : List Char → Option (List Char)
  | d :: s => if d = c then some s else none
  | [] => none

def date (s : List Char) : Option (List Char) := do
  let (year, s) ← fixedNumber 4 0 9999 s
  let (month, s) ← fixedNumber 2 1 12 (← after '-' s)
  let (_, s) ← fixedNumber 2 1 (Time.daysInMonth year month) (← after '-' s)
  return s

def time (s : List Char) : Option (List Char) := do
  let (_, s) ← fixedNumber 2 0 23 s
  let (_, s) ← fixedNumber 2 0 59 (← after ':' s)
  let (_, s) ← fixedNumber 2 0 60 (← after ':' s)
  match s with
  | '.' :: s' =>
    match s'.takeWhile Char.isDigit with
    | [] => return s
    | ds => return s'.drop ds.length
  | s => return s

/-- The rest after a distance from UTC, if there is one. -/
def offset (s : List Char) : Option (List Char) :=
  match s with
  | c :: s' =>
    if c = 'Z' ∨ c = 'z' then some s'
    else if c = '+' ∨ c = '-' then do
      let (_, s) ← fixedNumber 2 0 23 s'
      let (_, s) ← fixedNumber 2 0 59 (← after ':' s)
      return s
    else some s
  | [] => some []

/-- The rest after a time that follows a date, if there is one. -/
def timeAfterDate (s : List Char) : Option (List Char) :=
  match s with
  | c :: s' =>
    if c = 'T' ∨ c = 't' ∨ c = ' ' then
      match time s' with
      | some s => offset s
      | none => some s
    else some s
  | [] => some []

/-- The rest after a date, a time of a day, or both. -/
def dateTime (s : List Char) : Option (List Char) :=
  match date s with
  | some s => timeAfterDate s
  | none => time s

/-! ### All of them -/

/-- The characters of `s` before its end `rest`. -/
def before (s rest : List Char) : String := .ofList (s.take (s.length - rest.length))

/-- **A number, a date or a time.** -/
def numeral : Reader Value := fun s =>
  match dateTime s with
  | some rest => some (.dateTime (before s rest), rest)
  | none =>
    match (finiteFloat s).or (namedFloat s) with
    | some rest => some (.float (before s rest), rest)
    | none => (integer s).map fun (n, rest) => (.integer n, rest)

end StreamRecords.Toml
