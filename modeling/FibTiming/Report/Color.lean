import FibTiming.Text.LowerCase
import FibTiming.Text.Width

/-!
# Colored text

A style paints a piece of text line by line.  Whether colors are used or not, tabs become four blanks, line ends
become line feeds, and lines shorter than the widest are filled up with blanks.
-/

namespace FibTiming.Report

/-- When status lines are colored. -/
inductive ColorMode where
  | auto
  | always
  | never
deriving Repr, DecidableEq, Inhabited

namespace ColorMode

/-- The name a mode is selected by. -/
def name : ColorMode → String
  | auto => "auto"
  | always => "always"
  | never => "never"

/-- The mode with the given name, in any case; the empty name selects `auto`. -/
def ofName? (s : String) : Option ColorMode :=
  let t := Text.lower s
  if t = "" then some auto
  else if t = "auto" then some auto
  else if t = "always" then some always
  else if t = "never" then some never
  else none

/-- What is said about a setting that names no mode. -/
def unknownSetting (given : String) : String :=
  s!"invalid color mode '{given}': must be 'auto', 'always', or 'never'"

end ColorMode

/-- Whether output under the named mode is colored; without a mode of either kind it is colored on a terminal. -/
def colored (terminal : Bool) (mode : String) : Bool :=
  mode == ColorMode.always.name || (terminal && mode != ColorMode.never.name)

/-- The bold colors of a status line. -/
inductive Style where
  | finished
  | pass
  | fail
deriving Repr, DecidableEq, Inhabited

/-- The color number of a style. -/
def Style.code : Style → String
  | finished => "33"
  | pass => "32"
  | fail => "31"

/-- The character that starts an escape sequence. -/
def escape : Char := Char.ofNat 27

/-- Paints one line. -/
def Style.paint (s : Style) (color : Bool) (line : List Char) : List Char :=
  if color then escape :: '[' :: '1' :: ';' :: s.code.toList ++ 'm' :: line ++ [escape, '[', '0', 'm']
  else line

/-- Replaces tabs by four blanks and each carriage return before a line feed by nothing. -/
def plainBlanks : List Char → List Char
  | [] => []
  | '\t' :: rest => ' ' :: ' ' :: ' ' :: ' ' :: plainBlanks rest
  | '\r' :: '\n' :: rest => '\n' :: plainBlanks rest
  | c :: rest => c :: plainBlanks rest

/-- The lines of a text, without their line feeds; there is always at least one. -/
def splitLines : List Char → List (List Char)
  | [] => [[]]
  | c :: rest =>
    if c = '\n' then [] :: splitLines rest
    else
      match splitLines rest with
      | [] => [[c]]
      | line :: lines => (c :: line) :: lines

/-- The text of lines with a line feed between two of them. -/
def joinLines (lines : List (List Char)) : List Char := List.intercalate ['\n'] lines

/-- Paints a text in a style: each line on its own, filled up with blanks to the widest. -/
def Style.render (s : Style) (color : Bool) (text : String) : String :=
  let lines := splitLines (plainBlanks text.toList)
  let widest := (lines.map Text.lineWidth).foldl max 0
  let painted := lines.map fun l => s.paint color l ++ List.replicate (widest - Text.lineWidth l) ' '
  String.ofList (joinLines painted)

end FibTiming.Report
