/-!
# Timestamp — seconds since 1970 as a calendar date and time of day

Years are counted from March, so that the leap day is the last day of a year and the lengths of months follow one
linear rule.
-/
namespace SearchDomain

/-- Seconds since the first of January 1970, in UTC. -/
structure Timestamp where
  seconds : Nat
  deriving DecidableEq, Repr

namespace Timestamp

/-- Year, month and day of a day number. -/
def civil (day : Nat) : Nat × Nat × Nat :=
  let z := day + 719468
  let era := z / 146097
  let dayOfEra := z % 146097
  let yearOfEra := (dayOfEra - dayOfEra / 1460 + dayOfEra / 36524 - dayOfEra / 146096) / 365
  let dayOfYear := dayOfEra - (365 * yearOfEra + yearOfEra / 4 - yearOfEra / 100)
  let m := (5 * dayOfYear + 2) / 153
  let month := if m < 10 then m + 3 else m - 9
  (yearOfEra + era * 400 + (if month ≤ 2 then 1 else 0), month, dayOfYear - (153 * m + 2) / 5 + 1)

/-- A number in decimal digits, filled up with zeros in front. -/
def padded (width n : Nat) : List Char :=
  let ds := Nat.toDigits 10 n
  List.replicate (width - ds.length) '0' ++ ds

def date (t : Timestamp) : String :=
  let (year, month, day) := civil (t.seconds / 86400)
  String.ofList (padded 4 year ++ padded 2 month ++ padded 2 day)

def dateTime (t : Timestamp) : String :=
  let s := t.seconds % 86400
  t.date ++ String.ofList ('T' :: padded 2 (s / 3600) ++ padded 2 (s / 60 % 60) ++ padded 2 (s % 60) ++ ['Z'])

end Timestamp
end SearchDomain
