/-!
Numbers in decimal digits: whole numbers, and the shortest decimal number that a finite
floating-point number is the nearest to. The floating-point number is taken as an exact value
`m · 2 ^ q`; every real number between the middles to its two neighbours rounds to it, the middles
included if `m` is even.
-/

namespace StreamRecords.Text

/-! ### Whole numbers -/

def decimal (n : Nat) : List Char := Nat.toDigits 10 n

/-- The decimal digits of `n`, after a `-` if it is negative. -/
def decimalInt (n : Int) : List Char :=
  if n < 0 then '-' :: decimal n.natAbs else decimal n.natAbs

/-- The number that the decimal digits `cs` spell. -/
def ofDecimal (cs : List Char) : Nat := Nat.ofDigitChars 10 cs 0

@[simp]
theorem ofDecimal_decimal (n : Nat) : ofDecimal (decimal n) = n := Nat.ofDigitChars_ten_toDigits

/-- `cs` filled up with zeros on the left to the length `width`. -/
def padLeft (width : Nat) (cs : List Char) : List Char :=
  List.replicate (width - cs.length) '0' ++ cs

end StreamRecords.Text

namespace StreamRecords.Decimal

/-! ### The shortest decimal number -/

/-- The size of a finite floating-point number: `mantissa · 2 ^ exponent`, with the neighbour below
at half the distance of the one above if `narrow`. -/
structure Magnitude where
  mantissa : Nat
  exponent : Int
  narrow : Bool
  deriving DecidableEq, Repr

/-- The size of the finite number with the given `bits`. -/
def Magnitude.ofBits (bits : UInt64) : Magnitude :=
  let fraction : Nat := bits.toNat % Nat.pow 2 52
  let e : Nat := bits.toNat / Nat.pow 2 52 % Nat.pow 2 11
  if e = 0 then ⟨fraction, -1074, false⟩
  else ⟨Nat.pow 2 52 + fraction, e - 1075, decide (fraction = 0 ∧ 1 < e)⟩

/-- A decimal number `digits · 10 ^ exponent`. -/
structure Scaled where
  digits : Nat
  exponent : Int
  deriving DecidableEq, Repr

/-- `n · b ^ e / d` as a quotient of natural numbers. -/
def scale (b n d : Nat) (e : Int) : Nat × Nat :=
  if 0 ≤ e then (n * Nat.pow b e.toNat, d) else (n, d * Nat.pow b (-e).toNat)

/-- The largest `e` with `10 ^ e ≤ n / d`, for positive `n` and `d`. -/
def floorLog10 (n d : Nat) : Int :=
  if d ≤ n then (Text.decimal (n / d)).length - 1
  else -(Text.decimal ((d + n - 1) / n - 1)).length

/-- The nearest number with `count` digits that rounds to `x`, if there is one: of the two
neighbours of `x` with so many digits the nearer one, and of two as near the even one. -/
def candidate? (x : Magnitude) (count : Nat) : Option Scaled :=
  let (num, den) := scale 2 x.mantissa 1 x.exponent
  let unit := floorLog10 num den - (count - 1)
  let (n, d) := scale 10 num den (-unit)
  let lo := n / d
  let below := n - lo * d
  let above := d - below
  let within (distance width : Nat) : Bool :=
    if x.mantissa % 2 = 0 then distance * width ≤ n else distance * width < n
  let loFits := within below ((if x.narrow then 4 else 2) * x.mantissa)
  let hiFits := within above (2 * x.mantissa)
  if loFits && (!hiFits || below < above || (below = above && lo % 2 = 0)) then some ⟨lo, unit⟩
  else if hiFits then some ⟨lo + 1, unit⟩
  else none

/-- The same number without zeros at the end of its digits. -/
def Scaled.strip : Nat → Scaled → Scaled
  | 0, s => s
  | fuel + 1, s =>
    if s.digits ≠ 0 ∧ s.digits % 10 = 0 then strip fuel ⟨s.digits / 10, s.exponent + 1⟩ else s

/-- The most digits that are ever needed. -/
def maxDigits : Nat := 17

/-- **The decimal number with the fewest digits that rounds to `x`**, and of those the nearest. -/
def shortest (x : Magnitude) : Scaled :=
  match (List.range maxDigits).findSome? fun i => candidate? x (i + 1) with
  | some s => s.strip maxDigits
  | none => ⟨0, 0⟩

end StreamRecords.Decimal
