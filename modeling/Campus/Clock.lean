/-!
# Moments
-/

namespace Campus

/-- A moment, as seconds since 1970 and as the text that the event log shows. -/
structure Clock where
  seconds : Int
  stamp : String
deriving DecidableEq, Repr

namespace Clock

def padded (width n : Nat) : String :=
  let digits := toString n
  String.ofList (List.replicate (width - digits.length) '0') ++ digits

/-- The year, month and day that lie some days after the first of March of the year 0. Years are
counted from March, so that a leap day is the last day of its year. -/
def dateOfDays (days : Nat) : Nat × Nat × Nat :=
  let era := days / 146097
  let ofEra := days % 146097
  let yearOfEra := (ofEra - ofEra / 1460 + ofEra / 36524 - ofEra / 146096) / 365
  let dayOfYear := ofEra - (365 * yearOfEra + yearOfEra / 4 - yearOfEra / 100)
  let fromMarch := (5 * dayOfYear + 2) / 153
  let day := dayOfYear - (153 * fromMarch + 2) / 5 + 1
  let year := yearOfEra + 400 * era
  if fromMarch < 10 then (year, fromMarch + 3, day) else (year + 1, fromMarch - 9, day)

def ofSeconds (seconds : Nat) : Clock :=
  let (year, month, day) := dateOfDays (seconds / 86400 + 719468)
  let ofDay := seconds % 86400
  let date := padded 4 year ++ "-" ++ padded 2 month ++ "-" ++ padded 2 day
  let time := padded 2 (ofDay / 3600) ++ ":" ++ padded 2 (ofDay / 60 % 60) ++ ":"
    ++ padded 2 (ofDay % 60)
  { seconds, stamp := date ++ "T" ++ time ++ "Z" }

end Clock

end Campus
