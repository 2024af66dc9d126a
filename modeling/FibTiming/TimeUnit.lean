import FibTiming.Number.Binary64
import FibTiming.Number.FixedPlaces

/-!
# Time units

A benchmark names the unit its times are shown in.  The empty name stands for the default unit, and a time under
any other name is shown in milliseconds.
-/

namespace FibTiming

open Number

/-- The units a time can be shown in. -/
inductive TimeUnit where
  | nanoseconds
  | microseconds
  | milliseconds
  | seconds
deriving Repr, DecidableEq, Inhabited

namespace TimeUnit

/-- The name a unit is selected by. -/
def name : TimeUnit → String
  | nanoseconds => "ns"
  | microseconds => "us"
  | milliseconds => "ms"
  | seconds => "s"

/-- The unit used when none is named. -/
def default : TimeUnit := milliseconds

/-- The unit with the given name; the empty name selects the default. -/
def ofName? (s : String) : Option TimeUnit :=
  if s = "" then some default
  else if s = "ns" then some nanoseconds
  else if s = "us" then some microseconds
  else if s = "ms" then some milliseconds
  else if s = "s" then some seconds
  else none

/-- What is said about a name that is no unit. -/
def unknownName (given : String) : String :=
  s!"invalid benchmark: unit must be one of 'ns', 'us', 'ms', 's', got '{given}'"

/-- The unit a time is shown in under the given name, milliseconds for a name that is no unit. -/
def shown (s : String) : TimeUnit := (ofName? s).getD milliseconds

/-- A duration of `ns` nanoseconds in this unit, in double precision.  Seconds are the sum of the whole seconds
and of the remaining nanoseconds divided by a thousand million. -/
def scale (u : TimeUnit) (ns : Int) : Binary :=
  match u with
  | nanoseconds => double ns
  | microseconds => Binary.divTo doublePrecision (double ns) (double 1000)
  | milliseconds => Binary.divTo doublePrecision (double ns) (double 1000000)
  | seconds =>
    Binary.addTo doublePrecision (double (ns.tdiv 1000000000))
      (Binary.divTo doublePrecision (double (ns.tmod 1000000000)) (double 1000000000))

/-- The text of a duration of `ns` nanoseconds in this unit. -/
def format (u : TimeUnit) (ns : Int) : String :=
  match u with
  | nanoseconds => (u.scale ns).fixed 0 ++ " nanoseconds"
  | microseconds => (u.scale ns).fixed 3 ++ " microseconds"
  | milliseconds => (u.scale ns).fixed 3 ++ "ms"
  | seconds => (u.scale ns).fixed 3 ++ "s"

end TimeUnit

end FibTiming
