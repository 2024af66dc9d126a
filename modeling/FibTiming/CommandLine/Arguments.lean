import FibTiming.CommandLine.Flag

/-!
# Arguments

An argument that starts with one or two dashes is a flag; its value stands behind an equals sign or is the next argument.
The flags end at the first other argument or behind two dashes alone, and what is left are paths.
-/

namespace FibTiming.CommandLine

open Number

/-- What an argument is on its own. -/
inductive Argument where
  /-- Not a flag, so the flags end before it. -/
  | path
  /-- Two dashes alone, so the flags end behind it. -/
  | flagsEnd
  /-- Dashes with nothing that could be a name behind them. -/
  | nameless
  /-- A flag, perhaps with its value. -/
  | flag (name : String) (value : Option String)
deriving Repr, DecidableEq, Inhabited

namespace Argument

/-- Splits a flag at its first equals sign; its first character always belongs to its name. -/
def splitValue (cs : List Char) : String × Option String :=
  let name := cs.take 1 ++ (cs.drop 1).takeWhile (· ≠ '=')
  match (cs.drop 1).dropWhile (· ≠ '=') with
  | [] => (String.ofList name, none)
  | _ :: value => (String.ofList name, some (String.ofList value))

/-- What the characters behind the dashes of a flag are. -/
def ofFlagBody (cs : List Char) : Argument :=
  match cs with
  | [] | '-' :: _ | '=' :: _ => nameless
  | cs => flag (splitValue cs).1 (splitValue cs).2

/-- What an argument is on its own. -/
def ofText (s : String) : Argument :=
  match s.toList with
  | ['-', '-'] => flagsEnd
  | '-' :: '-' :: cs => ofFlagBody cs
  | '-' :: c :: cs => ofFlagBody (c :: cs)
  | _ => path

end Argument

/-- Why the arguments cannot be read. -/
inductive ArgumentError where
  /-- An explanation of the flags was asked for. -/
  | help
  | nameless (argument : String)
  | undefined (name : String)
  | missingValue (flag : Flag)
  | invalidValue (flag : Flag) (value : String) (fault : IntegerFault)
deriving Repr, DecidableEq, Inhabited

/-- The names under which an explanation of the flags can be asked for. -/
def helpNames : List String := ["h", "help"]

/-- The error of a flag that is not defined. -/
def undefinedFlag (name : String) : ArgumentError := if name ∈ helpNames then .help else .undefined name

/-- Puts the setting that a flag makes of a text before the settings behind it; what is wrong with the setting is
reported first. -/
def putSetting (f : Flag) (value : String) (behind : Except ArgumentError (List Setting × List String)) :
    Except ArgumentError (List Setting × List String) :=
  match f.read value with
  | .error fault => .error (.invalidValue f value fault)
  | .ok s =>
    match behind with
    | .error e => .error e
    | .ok (ss, paths) => .ok (s :: ss, paths)

/-- The settings of a list of arguments, in order, and the paths behind them. -/
def readSettings : List String → Except ArgumentError (List Setting × List String)
  | [] => .ok ([], [])
  | arg :: rest =>
    match Argument.ofText arg with
    | .path => .ok ([], arg :: rest)
    | .flagsEnd => .ok ([], rest)
    | .nameless => .error (.nameless arg)
    | .flag name value =>
      match Flag.ofName? name with
      | none => .error (undefinedFlag name)
      | some f =>
        match value, rest with
        | some v, rest => putSetting f v (readSettings rest)
        | none, v :: rest => putSetting f v (readSettings rest)
        | none, [] => .error (.missingValue f)

/-- The text of an error; a request for help has none of its own. -/
def ArgumentError.message : ArgumentError → String
  | help => ""
  | nameless argument => s!"bad flag syntax: {argument}"
  | undefined name => s!"flag provided but not defined: -{name}"
  | missingValue f => s!"flag needs an argument: -{f.name}"
  | invalidValue f value fault =>
    "invalid value " ++ Text.quote value ++ s!" for flag -{f.name}: " ++
      match fault with
      | .malformed => "parse error"
      | .outOfRange => "value out of range"

end FibTiming.CommandLine
