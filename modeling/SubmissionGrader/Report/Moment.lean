/-!
# Moments

A moment is given by the nanoseconds since the beginning of 1970 and written as a date and a time of
the day in universal time.
-/

namespace SubmissionGrader.Moment

/-- Year, month and day after a number of days. Years are counted from March on, so that a leap day
is the last day of its year. -/
def dateOf (days : Nat) : Nat × Nat × Nat :=
  let shifted := days + 719468
  let era := shifted / 146097
  let dayOfEra := shifted % 146097
  let yearOfEra := (dayOfEra - dayOfEra / 1460 + dayOfEra / 36524 - dayOfEra / 146096) / 365
  let dayOfYear := dayOfEra - (365 * yearOfEra + yearOfEra / 4 - yearOfEra / 100)
  let marchMonth := (5 * dayOfYear + 2) / 153
  let day := dayOfYear - (153 * marchMonth + 2) / 5 + 1
  let month := if marchMonth < 10 then marchMonth + 3 else marchMonth - 9
  (400 * era + yearOfEra + (if month ≤ 2 then 1 else 0), month, day)

/-- A number with zeros in front up to a number of digits. -/
def digits (count n : Nat) : String :=
  let ds := Nat.toDigits 10 n
  String.ofList (List.replicate (count - ds.length) '0' ++ ds)

/-- The fraction of a second, in as few groups of three digits as are needed. -/
def fraction (nanoseconds : Nat) : String :=
  if nanoseconds = 0 then ""
  else if nanoseconds % 1000000 = 0 then "." ++ digits 3 (nanoseconds / 1000000)
  else if nanoseconds % 1000 = 0 then "." ++ digits 6 (nanoseconds / 1000)
  else "." ++ digits 9 nanoseconds

def text (nanoseconds : Nat) : String :=
  let seconds := nanoseconds / 1000000000
  let (year, month, day) := dateOf (seconds / 86400)
  let second := seconds % 86400
  digits 4 year ++ "-" ++ digits 2 month ++ "-" ++ digits 2 day ++ "T" ++
    digits 2 (second / 3600) ++ ":" ++ digits 2 (second / 60 % 60) ++ ":" ++
    digits 2 (second % 60) ++ fraction (nanoseconds % 1000000000) ++ "+00:00"

example : text 951782400000000000 = "2000-02-29T00:00:00+00:00" := by decide +kernel

end SubmissionGrader.Moment
