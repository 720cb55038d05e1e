/-!
# Points in time

A point in time is a count of seconds from the start of 1970, in which negative
counts lie before it, and a part of a second behind it.  Reports show it as a date
and a time of day at the zero meridian.

The date of a day is computed in years that start in March, so that the leap day
is the last of its year, and in eras of 400 years, which all have the same number
of days.
-/
namespace Conformance

structure Timestamp where
  /-- Whole seconds from the start of 1970. -/
  seconds : Int
  /-- Billionths of a second after that. -/
  nanos : Nat
  deriving DecidableEq, Repr, Inhabited

/-- A date. Months and days count from one. -/
structure Date where
  year : Int
  month : Nat
  day : Nat
  deriving DecidableEq, Repr

namespace Date

def eraDays : Nat := 146097

/-- The days from the start of March of the year zero to the start of 1970. -/
def epochShift : Int := 719468

/-- The year of an era, from its start, that holds a day of the era. -/
def yearOfEra (day : Nat) : Nat := (day - day / 1460 + day / 36524 - day / 146096) / 365

/-- The day of a year that starts in March, out of the day and the year of an era. -/
def dayOfYear (day year : Nat) : Nat := day - (365 * year + year / 4 - year / 100)

/-- The month, from March on, of a day of a year that starts there. -/
def monthFromMarch (day : Nat) : Nat := (5 * day + 2) / 153

/-- The date of a day, counted from the start of 1970. -/
def ofDays (days : Int) : Date :=
  let shifted := days + epochShift
  let era := Int.fdiv shifted eraDays
  let inEra := (Int.fmod shifted eraDays).toNat
  let yearInEra := yearOfEra inEra
  let inYear := dayOfYear inEra yearInEra
  let fromMarch := monthFromMarch inYear
  let month := if fromMarch < 10 then fromMarch + 3 else fromMarch - 9
  { year := era * 400 + yearInEra + (if month ≤ 2 then 1 else 0)
    month := month
    day := inYear - (153 * fromMarch + 2) / 5 + 1 }

end Date

def padded (width n : Nat) : String :=
  let digits := Nat.toDigits 10 n
  String.ofList (List.replicate (width - digits.length) '0' ++ digits)

namespace Timestamp

def dayLength : Int := 86400

/-- The part of a second with its point and without zeros at its end. A whole second has none. -/
def fraction (nanos : Nat) : String :=
  if nanos = 0 then ""
  else "." ++ String.ofList ((padded 9 nanos).toList.reverse.dropWhile (· == '0')).reverse

/-- A point in time as text. Only years of at most four digits, from zero up, can be written. -/
def text? (t : Timestamp) : Option String :=
  let date := Date.ofDays (Int.fdiv t.seconds dayLength)
  let second := (Int.fmod t.seconds dayLength).toNat
  if 0 ≤ date.year ∧ date.year ≤ 9999 then
    some (padded 4 date.year.toNat ++ "-" ++ padded 2 date.month ++ "-" ++ padded 2 date.day ++
      "T" ++ padded 2 (second / 3600) ++ ":" ++ padded 2 (second / 60 % 60) ++ ":" ++
      padded 2 (second % 60) ++ fraction t.nanos ++ "Z")
  else none

end Timestamp

end Conformance
