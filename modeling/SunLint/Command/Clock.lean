/-!
# Times

Points in time, written in the Internet format for dates and times in UTC, such as
`2024-02-29T12:00:00.5Z`.
-/

namespace SunLint.Clock

/-- A day of the Gregorian calendar. -/
structure Day where
  year : Nat
  month : Nat
  day : Nat
deriving DecidableEq, Repr

/-- The day that comes so many days after the first of January 1970. Years are
    counted from March on, so that a leap day is the last day of its year. -/
def Day.ofNumber (n : Nat) : Day :=
  let fromEra := n + 719468
  let inEra := fromEra % 146097
  let year := (inEra - inEra / 1460 + inEra / 36524 - inEra / 146096) / 365
  let inYear := inEra - (365 * year + year / 4 - year / 100)
  let month := (5 * inYear + 2) / 153
  { year := year + fromEra / 146097 * 400 + if month < 10 then 0 else 1
    month := if month < 10 then month + 3 else month - 9
    day := inYear - (153 * month + 2) / 5 + 1 }

/-- The number in at least so many digits. -/
def padded (width n : Nat) : String :=
  let digits := toString n
  String.ofList (List.replicate (width - digits.length) '0') ++ digits

/-- The fraction of a second, with a point before it and no zeros at its end. -/
def fraction (nanoseconds : Nat) : String :=
  if nanoseconds = 0 then ""
  else
    "." ++ String.ofList ((padded 9 nanoseconds).toList.reverse.dropWhile (· = '0')).reverse

/-- The time so many nanoseconds after the beginning of 1970. -/
def format (nanoseconds : Nat) : String :=
  let seconds := nanoseconds / 1000000000
  let d := Day.ofNumber (seconds / 86400)
  padded 4 d.year ++ "-" ++ padded 2 d.month ++ "-" ++ padded 2 d.day ++ "T" ++
    padded 2 (seconds / 3600 % 24) ++ ":" ++ padded 2 (seconds / 60 % 60) ++ ":" ++
    padded 2 (seconds % 60) ++ fraction (nanoseconds % 1000000000) ++ "Z"

example : format 951825600500000000 = "2000-02-29T12:00:00.5Z" := by decide +kernel

end SunLint.Clock
