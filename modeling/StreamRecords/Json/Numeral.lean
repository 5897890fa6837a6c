import StreamRecords.Json.Reader

/-!
Numerals: how a JSON number is spelled, and which number a spelling stands for. The digits are taken
into a word of 64 bits as far as they fit, and the power of ten that is left is applied to it in
floating-point arithmetic.
-/

namespace StreamRecords.Json

/-! ### Spelling -/

/-- The spelling of a number, its digits as numbers. -/
structure Numeral where
  negative : Bool
  whole : List Nat
  /-- The digits after the point, if there is one. -/
  fraction : Option (List Nat)
  /-- Whether the exponent is negative, and its digits, if there is one. -/
  exponent : Option (Bool × List Nat)
  deriving DecidableEq, Repr

/-- Why a spelling is none. -/
inductive NumeralFault where
  /-- The text ends where a digit should stand. -/
  | cutOff
  /-- Another character stands where a digit should, or a digit where none should. -/
  | malformed
  deriving DecidableEq, Repr

/-- The digits at the front of `s`, with what follows them. -/
def digits (s : Bytes) : List Nat × Bytes :=
  ((s.takeWhile isDigit).map fun b => b.toNat - 0x30, s.dropWhile isDigit)

/-- One digit or more at the front of `s`. -/
def digits1 (s : Bytes) : Except NumeralFault (List Nat × Bytes) :=
  match digits s with
  | ([], []) => .error .cutOff
  | ([], _ :: _) => .error .malformed
  | (d :: ds, rest) => .ok (d :: ds, rest)

/-- The digits before the point: a `0` stands alone. -/
def wholePart (s : Bytes) : Except NumeralFault (List Nat × Bytes) :=
  match digits1 s with
  | .ok (0 :: _ :: _, _) => .error .malformed
  | r => r

/-- The point and the digits after it, if there is one. -/
def fractionPart (s : Bytes) : Except NumeralFault (Option (List Nat) × Bytes) :=
  match s with
  | 0x2E :: s => (digits1 s).map fun (ds, rest) => (some ds, rest)
  | _ => .ok (none, s)

def exponentSign (s : Bytes) : Bool × Bytes :=
  match s with
  | 0x2B :: s => (false, s)
  | 0x2D :: s => (true, s)
  | _ => (false, s)

/-- The exponent at the front of `s`, if there is one. -/
def exponentPart (s : Bytes) : Except NumeralFault (Option (Bool × List Nat) × Bytes) :=
  match s with
  | 0x65 :: s | 0x45 :: s =>
    let (negative, s) := exponentSign s
    (digits1 s).map fun (ds, rest) => (some (negative, ds), rest)
  | _ => .ok (none, s)

/-- **The spelling of a number at the front of `s`**, with what follows it. -/
def numeral (s : Bytes) : Except NumeralFault (Numeral × Bytes) := do
  let (negative, s) := if lead s = .minus then (true, s.tail) else (false, s)
  let (whole, s) ← wholePart s
  let (fraction, s) ← fractionPart s
  let (exponent, s) ← exponentPart s
  return (⟨negative, whole, fraction, exponent⟩, s)

/-! ### Value -/

/-- Takes digits into the word `n` of 64 bits as far as they fit: the word, and the digits left
over. -/
def accumulate (n : Nat) : List Nat → Nat × List Nat
  | [] => (n, [])
  | d :: ds =>
    if n * 10 + d < 18446744073709551616 then accumulate (n * 10 + d) ds else (n, d :: ds)

/-- The number that the decimal digits `ds` spell. -/
def ofDigits (ds : List Nat) : Nat := ds.foldl (fun n d => 10 * n + d) 0

def powerOfTen (n : Nat) : Float := Float.ofScientific 1 false n

/-- The greatest exponent of a power of ten that is finite. -/
def maxPower : Nat := 308

/-- `x / 10 ^ n`, by steps of the greatest power. -/
def scaleDown (x : Float) (n : Nat) : Float :=
  if n ≤ maxPower then x / powerOfTen n
  else if x == 0 then x
  else scaleDown (x / powerOfTen maxPower) (n - maxPower)
termination_by n
decreasing_by simp [maxPower] at *; omega

/-- `n · 10 ^ e` as a floating-point number, unless it is too great. -/
def scaleFloat (n : Nat) (e : Int) : Except Fault Float :=
  let x := (UInt64.ofNat n).toFloat
  if e < 0 then .ok (scaleDown x e.natAbs)
  else if e.natAbs ≤ maxPower then
    let y := x * powerOfTen e.natAbs
    if y.isInf then .error .numberOutOfRange else .ok y
  else if x == 0 then .ok x
  else .error .numberOutOfRange

/-- The greatest exponent that is taken for what it says. -/
def maxExponent : Nat := 2147483647

/-- The size of `l` as a floating-point number. -/
def Numeral.magnitude (l : Numeral) : Except Fault Float :=
  let (n, wholeRest) := accumulate 0 l.whole
  let fraction := l.fraction.getD []
  let (n, fractionRest) := accumulate n fraction
  let point : Int := wholeRest.length - (fraction.length - fractionRest.length : Nat)
  match l.exponent with
  | none => scaleFloat n point
  | some (negative, ds) =>
    let e := ofDigits ds
    if e ≤ maxExponent then scaleFloat n (if negative then point - e else point + e)
    else if n ≠ 0 && !negative then .error .numberOutOfRange
    else .ok 0

/-- **The number that `l` stands for**: an integer if it is spelled as one and fits into 64 bits,
else a floating-point number. A negative zero is a floating-point number. -/
def Numeral.value (l : Numeral) : Except Fault Number :=
  let asFloat : Except Fault Number :=
    l.magnitude.map fun x => .float (if l.negative then -x else x)
  match accumulate 0 l.whole, l.fraction, l.exponent with
  | (n, []), none, none =>
    let m : Int := if l.negative then -n else n
    if h : IsExact m then if l.negative && n = 0 then asFloat else .ok (.int m h) else asFloat
  | _, _, _ => asFloat

def number : Reader Number := fun s =>
  match numeral s with
  | .ok (l, rest) => l.value.map fun n => (n, rest)
  | .error .cutOff => .error .endInValue
  | .error .malformed => .error .invalidNumber

def skipNumber (s : Bytes) : Except Fault Bytes :=
  match numeral s with
  | .ok (_, rest) => .ok rest
  | .error _ => .error .invalidNumber

end StreamRecords.Json
