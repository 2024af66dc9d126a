import FibTiming.Log

/-!
# Timestamps

The date and time of a moment, which is given as the number of nanoseconds since the beginning of 1970, and the text
it has in a log: with milliseconds in a text record, with as many places as needed in a JSON record.
-/

namespace FibTiming

/-- A date and a time of day, in universal time. -/
structure Timestamp where
  year : Int
  month : Nat
  day : Nat
  hour : Nat
  minute : Nat
  second : Nat
  nanosecond : Nat
deriving Repr, DecidableEq, Inhabited

namespace Timestamp

/-- The days of four hundred years, after which the calendar repeats. -/
def daysOfEra : Nat := 146097

/-- The year, month and day of a day that is counted from the beginning of 1970.  Years are counted from March, so
that the leap day is the last of its year. -/
def civil (days : Int) : Int × Nat × Nat :=
  let shifted := days + 719468
  let era := shifted.fdiv daysOfEra
  let dayOfEra := (shifted - era * daysOfEra).toNat
  let yearOfEra := (dayOfEra - dayOfEra / 1460 + dayOfEra / 36524 - dayOfEra / 146096) / 365
  let dayOfYear := dayOfEra - (365 * yearOfEra + yearOfEra / 4 - yearOfEra / 100)
  let marchMonth := (5 * dayOfYear + 2) / 153
  let day := dayOfYear - (153 * marchMonth + 2) / 5 + 1
  let month := if marchMonth < 10 then marchMonth + 3 else marchMonth - 9
  (era * 400 + yearOfEra + (if month ≤ 2 then 1 else 0), month, day)

/-- The moment at the given number of nanoseconds since the beginning of 1970. -/
def ofNanoseconds (ns : Int) : Timestamp :=
  let seconds := ns.fdiv 1000000000
  let days := seconds.fdiv 86400
  let rest := (seconds - days * 86400).toNat
  let (year, month, day) := civil days
  ⟨year, month, day, rest / 3600, rest / 60 % 60, rest % 60, (ns.fmod 1000000000).toNat⟩

/-- A number with at least the given number of digits. -/
def padded (width n : Nat) : String :=
  let digits := Nat.toDigits 10 n
  String.ofList (List.replicate (width - digits.length) '0' ++ digits)

/-- The text of a moment in a log of the given format. -/
def text (format : Log.Format) (t : Timestamp) : String :=
  let fraction := match format with
    | .text => "." ++ padded 3 (t.nanosecond / 1000000)
    | .json => Log.fractionText 9 t.nanosecond
  padded 4 t.year.toNat ++ "-" ++ padded 2 t.month ++ "-" ++ padded 2 t.day ++ "T" ++ padded 2 t.hour ++ ":"
    ++ padded 2 t.minute ++ ":" ++ padded 2 t.second ++ fraction ++ "Z"

end Timestamp

end FibTiming
