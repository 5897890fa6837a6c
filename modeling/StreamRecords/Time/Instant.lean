/-!
Days by their number and by year, month and day, in the Gregorian calendar carried on to all years;
and instants, each a number of seconds since the start of the year 1970 and a part of the second
after it.
-/

namespace StreamRecords.Time

/-! ### Days -/

structure Date where
  year : Int
  month : Nat
  day : Nat
  deriving DecidableEq, Repr

def isLeapYear (year : Int) : Bool := year % 4 = 0 && (year % 100 ≠ 0 || year % 400 = 0)

def daysInMonth (year : Int) (month : Nat) : Nat :=
  if month = 2 then if isLeapYear year then 29 else 28
  else if month = 4 || month = 6 || month = 9 || month = 11 then 30
  else 31

def Date.isValid (d : Date) : Bool :=
  1 ≤ d.month && d.month ≤ 12 && 1 ≤ d.day && d.day ≤ daysInMonth d.year d.month

/-- The number of days from 1 March of the year 0 to the first day of the year 1970. -/
def epochDay : Int := 719468

/-- The number of `d`, the first day of 1970 being day 0. Years are counted from March on, so that
the day more of a leap year is the last of its year. -/
def Date.toDays (d : Date) : Int :=
  let y := if d.month ≤ 2 then d.year - 1 else d.year
  let m : Int := (d.month + 9) % 12
  let dayOfYear := (153 * m + 2) / 5 + d.day - 1
  365 * y + y / 4 - y / 100 + y / 400 + dayOfYear - epochDay

/-- The date of the day number `n`. -/
def Date.ofDays (n : Int) : Date :=
  let z := n + epochDay
  let era := z / 146097
  let dayOfEra := z % 146097
  let yearOfEra := (dayOfEra - dayOfEra / 1460 + dayOfEra / 36524 - dayOfEra / 146096) / 365
  let dayOfYear := dayOfEra - (365 * yearOfEra + yearOfEra / 4 - yearOfEra / 100)
  let m := (5 * dayOfYear + 2) / 153
  let day := dayOfYear - (153 * m + 2) / 5 + 1
  let month := if m < 10 then m + 3 else m - 9
  let year := yearOfEra + era * 400 + if month ≤ 2 then 1 else 0
  ⟨year, month.toNat, day.toNat⟩

/-! ### Instants -/

/-- The first second that has an instant. -/
def minSeconds : Int := -8334601228800

/-- The last second that has an instant. -/
def maxSeconds : Int := 8210266876799

/-- Instants start with the first day of the year -262143. -/
example : minSeconds = 86400 * Date.toDays ⟨-262143, 1, 1⟩ := by decide

/-- They end with the last second of the year 262142. -/
example : maxSeconds = 86400 * Date.toDays ⟨262142, 12, 31⟩ + 86399 := by decide

/-- There are instants in the second. -/
def IsLegal (seconds : Int) : Prop := minSeconds ≤ seconds ∧ seconds ≤ maxSeconds

instance : DecidablePred IsLegal := fun _ => inferInstanceAs (Decidable (_ ∧ _))

def nanosPerSecond : Nat := 1000000000

/-- **An instant.** The last second of a minute may be twice as long, for a leap second. -/
structure Instant where
  seconds : Int
  nanos : Nat
  legal : IsLegal seconds
  inSecond : nanos < nanosPerSecond ∨ nanos < 2 * nanosPerSecond ∧ seconds % 60 = 59
  deriving DecidableEq

/-- The instant at which the second starts. -/
def Instant.ofSeconds (seconds : Int) (legal : IsLegal seconds) : Instant :=
  ⟨seconds, 0, legal, .inl (by decide)⟩

/-- The instant at which the second of `t` starts. -/
def Instant.floor (t : Instant) : Instant := .ofSeconds t.seconds t.legal

/-- The instant `nanos` nanoseconds after the start of a second, if there is one. -/
def Instant.ofParts? (seconds : Int) (nanos : Nat) : Option Instant :=
  if legal : IsLegal seconds then
    if inSecond : nanos < nanosPerSecond ∨ nanos < 2 * nanosPerSecond ∧ seconds % 60 = 59 then
      some ⟨seconds, nanos, legal, inSecond⟩
    else none
  else none

end StreamRecords.Time
