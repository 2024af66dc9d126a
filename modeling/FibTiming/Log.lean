import FibTiming.Text.Quoted

/-!
# Log records

A record has a level, a message and named fields.  It is written on one line, as `key=value` pairs or as a JSON
object; the time is given by whoever writes it.
-/

namespace FibTiming.Log

/-- How serious a record is. -/
inductive Level where
  | debug
  | info
  | warn
  | error
deriving Repr, DecidableEq, Inhabited

namespace Level

/-- The place of a level in the order of seriousness. -/
def rank : Level → Nat
  | debug => 0
  | info => 1
  | warn => 2
  | error => 3

/-- The name of a level in a written record. -/
def label : Level → String
  | debug => "DEBUG"
  | info => "INFO"
  | warn => "WARN"
  | error => "ERROR"

/-- The level with the given name; a name that is none of the four stands for warnings. -/
def ofName (s : String) : Level :=
  if s = "debug" then debug
  else if s = "info" then info
  else if s = "error" then error
  else warn

end Level

/-- What a field of a record can hold. -/
inductive Value where
  | text (s : String)
  /-- The name of one of several choices. -/
  | choice (s : String)
  | int (i : Int)
  | flag (b : Bool)
  | texts (ss : List String)
  | failure (message : Option String)
  | duration (ns : Int)
deriving Repr, DecidableEq, Inhabited

/-- One record of a log. -/
structure Record where
  level : Level
  message : String
  fields : List (String × Value)
deriving Repr, DecidableEq, Inhabited

/-- The two ways to write a record. -/
inductive Format where
  | text
  | json
deriving Repr, DecidableEq, Inhabited

/-- The format with the given name; every name but `json` stands for text. -/
def Format.ofName (s : String) : Format := if s = "json" then .json else .text

/-- A list of texts in brackets, separated by blanks. -/
def bracketed (ss : List String) : String := "[" ++ String.intercalate " " ss ++ "]"

/-! ### Durations -/

/-- The digits of a fraction of `width` places without its trailing zeros, after a point. -/
def fractionText (width n : Nat) : String :=
  let digits := Nat.toDigits 10 n
  let padded := List.replicate (width - digits.length) '0' ++ digits
  let kept := (padded.reverse.dropWhile (· == '0')).reverse
  if kept.isEmpty then "" else "." ++ String.ofList kept

/-- A duration in the largest unit that leaves a whole part, from nanoseconds to hours. -/
def durationText (ns : Int) : String :=
  let a := ns.natAbs
  let sign := if ns < 0 then "-" else ""
  let body :=
    if a = 0 then "0s"
    else if a < 1000 then s!"{a}ns"
    else if a < 1000000 then s!"{a / 1000}" ++ fractionText 3 (a % 1000) ++ "µs"
    else if a < 1000000000 then s!"{a / 1000000}" ++ fractionText 6 (a % 1000000) ++ "ms"
    else
      let whole := a / 1000000000
      let seconds := s!"{whole % 60}" ++ fractionText 9 (a % 1000000000) ++ "s"
      let minutes := whole / 60
      if minutes = 0 then seconds
      else if minutes < 60 then s!"{minutes}m" ++ seconds
      else s!"{minutes / 60}h{minutes % 60}m" ++ seconds
  sign ++ body

/-! ### Records as text -/

/-- Whether a character forces quotes around the value it stands in: a blank, an equals sign, a quote, a control
character, or a character outside ASCII that is not printable. -/
def needsQuotes (c : Char) : Bool :=
  if c.toNat < 128 then c == ' ' || c == '=' || c == '"' || c.toNat < 32
  else c.toNat == 0xFFFD || !Text.isPrintable c

/-- A value of a pair, in quotes when it is empty or holds a character that needs them. -/
def bareOrQuoted (s : String) : String :=
  if s.isEmpty || s.toList.any needsQuotes then Text.quote s else s

/-- A field's value in a text record. -/
def Value.toText : Value → String
  | .text s => bareOrQuoted s
  | .choice s => bareOrQuoted s
  | .int i => toString i
  | .flag b => if b then "true" else "false"
  | .texts ss => bareOrQuoted (bracketed ss)
  | .failure none => "<nil>"
  | .failure (some s) => bareOrQuoted s
  | .duration ns => durationText ns

/-- The record as `key=value` pairs. -/
def Record.toText (time : String) (r : Record) : String :=
  let pairs := r.fields.map fun f => " " ++ bareOrQuoted f.1 ++ "=" ++ f.2.toText
  s!"time={time} level={r.level.label} msg=" ++ bareOrQuoted r.message ++ String.join pairs

/-! ### Records as JSON -/

/-- A character inside a JSON string: quotes, backslashes, control characters and the two line separators are
escaped. -/
def jsonChar (c : Char) : List Char :=
  if c = '"' ∨ c = '\\' then ['\\', c]
  else if c = '\n' then ['\\', 'n']
  else if c = '\r' then ['\\', 'r']
  else if c = '\t' then ['\\', 't']
  else if c.toNat < 32 ∨ c.toNat = 0x2028 ∨ c.toNat = 0x2029 then '\\' :: 'u' :: Text.hexDigits 4 c.toNat
  else [c]

/-- A JSON string. -/
def jsonString (s : String) : String :=
  String.ofList ('"' :: s.toList.flatMap jsonChar ++ ['"'])

/-- A character inside a JSON string that is an item of a list or a choice: here the backspace and the form feed
have short escapes as well. -/
def jsonItemChar (c : Char) : List Char :=
  if c = Char.ofNat 8 then ['\\', 'b']
  else if c = Char.ofNat 12 then ['\\', 'f']
  else jsonChar c

/-- A JSON string that is an item of a list or a choice. -/
def jsonItem (s : String) : String :=
  String.ofList ('"' :: s.toList.flatMap jsonItemChar ++ ['"'])

/-- A field's value in a JSON record. -/
def Value.toJson : Value → String
  | .text s => jsonString s
  | .choice s => jsonItem s
  | .int i => toString i
  | .flag b => if b then "true" else "false"
  | .texts ss => "[" ++ String.intercalate "," (ss.map jsonItem) ++ "]"
  | .failure none => "null"
  | .failure (some s) => jsonString s
  | .duration ns => toString ns

/-- The record as a JSON object. -/
def Record.toJson (time : String) (r : Record) : String :=
  let pairs := r.fields.map fun f => "," ++ jsonString f.1 ++ ":" ++ f.2.toJson
  "\x7b\"time\":" ++ jsonString time ++ ",\"level\":" ++ jsonString r.level.label ++ ",\"msg\":"
    ++ jsonString r.message ++ String.join pairs ++ "\x7d"

/-- The line of a record in the given format. -/
def Record.render (format : Format) (time : String) (r : Record) : String :=
  match format with
  | .text => r.toText time
  | .json => r.toJson time

end FibTiming.Log
