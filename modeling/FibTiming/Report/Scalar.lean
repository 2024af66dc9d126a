import FibTiming.Report.Ambiguous

/-!
# Scalars of reports

A text is written bare when it reads back as itself, in single or double quotes when it does not, and as a block of
lines when it has several.  Characters that are not printable force double quotes, where they are escaped.
-/

namespace FibTiming.Report

/-- Whether a character ends a line. -/
def isBreak (c : Char) : Bool :=
  c == '\n' || c == '\r' || c.toNat == 0x85 || c.toNat == 0x2028 || c.toNat == 0x2029

/-- Whether a character can stand in a report as it is. -/
def isShown (c : Char) : Bool :=
  let n := c.toNat
  n == 10 || (0x20 ≤ n && n ≤ 0x7E) || (0xA0 ≤ n && n ≤ 0xD7FF) || (0xE000 ≤ n && n ≤ 0xFFFD && n != 0xFEFF)

/-- Whether a character is a blank or ends a line. -/
def isGap (c : Char) : Bool := c == ' ' || c == '\t' || isBreak c || c.toNat == 0

/-- Whether some character is followed by one of another kind. -/
def hasPair (first second : Char → Bool) : List Char → Bool
  | a :: b :: rest => (first a && second b) || hasPair first second (b :: rest)
  | _ => false

/-- Whether the text has a blank before the end of a line. -/
def hasBlankBeforeBreak (s : List Char) : Bool := hasPair (· == ' ') isBreak s

/-- Whether the text has a blank at the start of a further line. -/
def hasBlankAfterBreak (s : List Char) : Bool := hasPair isBreak (· == ' ') s

/-- Whether the text has a character that is neither shown nor a tab. -/
def hasUnshown (s : List Char) : Bool := s.any fun c => !isShown c && c != '\t'

/-- Whether a character at the start of a bare text would mean something. -/
def startsIndicator (c : Char) (rest : List Char) : Bool :=
  "#,[]\x7b\x7d&*!|>'\"%@`".toList.contains c ||
    ((c == '?' || c == ':' || c == '-') && (match rest with
      | [] => true
      | d :: _ => isGap d))

/-- Whether a colon before a gap or a hash behind a gap stands in the text after the first character. -/
def hasIndicator : (before : Char) → List Char → Bool
  | _, [] => false
  | before, c :: rest =>
    (c == ':' && (match rest with
      | [] => true
      | d :: _ => isGap d)) || (c == '#' && isGap before) || hasIndicator c rest

/-- Whether the text can stand bare as far as its characters are concerned. -/
def canBeBare (s : List Char) : Bool :=
  match s with
  | [] => false
  | c :: rest =>
    !(s.take 3 == ['-', '-', '-'] || s.take 3 == ['.', '.', '.']) && !startsIndicator c rest && !hasIndicator c rest
      && c != ' ' && s.getLast? != some ' ' && !s.any isBreak && s.all isShown

/-- The ways to write a text. -/
inductive ScalarStyle where
  | bare
  | singleQuoted
  | doubleQuoted
  | block
deriving Repr, DecidableEq, Inhabited

/-- The way a text is written. -/
def styleOf (s : String) : ScalarStyle :=
  let cs := s.toList
  if cs.contains '\n' then
    if cs.getLast? == some ' ' || hasBlankBeforeBreak cs || hasUnshown cs then .doubleQuoted else .block
  else if isAmbiguous s then .doubleQuoted
  else if canBeBare cs then .bare
  else if hasBlankBeforeBreak cs || hasBlankAfterBreak cs || !cs.all isShown then .doubleQuoted
  else .singleQuoted

/-! ### Quoted texts -/

/-- An upper case hexadecimal digit. -/
def upperHexDigit (d : Nat) : Char := if d < 10 then Char.ofNat (48 + d) else Char.ofNat (55 + d)

/-- The `width` lowest hexadecimal digits of `n`, in upper case. -/
def upperHex : (width n : Nat) → List Char
  | 0, _ => []
  | width + 1, n => upperHex width (n / 16) ++ [upperHexDigit (n % 16)]

/-- The letter that an escaped character has, if it has one. -/
def escapeLetter? (n : Nat) : Option Char :=
  [(0, '0'), (7, 'a'), (8, 'b'), (9, 't'), (10, 'n'), (11, 'v'), (12, 'f'), (13, 'r'), (0x1B, 'e'), (0x22, '"'),
    (0x5C, '\\'), (0x85, 'N'), (0xA0, '_'), (0x2028, 'L'), (0x2029, 'P')].lookup n

/-- A character between double quotes. -/
def doubleQuotedChar (c : Char) : List Char :=
  let n := c.toNat
  if isShown c && !isBreak c && c != '"' && c != '\\' then [c]
  else
    match escapeLetter? n with
    | some l => ['\\', l]
    | none =>
      if n ≤ 0xFF then '\\' :: 'x' :: upperHex 2 n
      else if n ≤ 0xFFFF then '\\' :: 'u' :: upperHex 4 n
      else '\\' :: 'U' :: upperHex 8 n

/-- The text between double quotes. -/
def doubleQuoted (s : List Char) : List Char := '"' :: s.flatMap doubleQuotedChar ++ ['"']

/-- The indentation of further lines of a scalar. -/
def scalarIndent : List Char := List.replicate 6 ' '

/-- The inside of single quotes; the flag says whether a line has just ended. -/
def singleQuotedFrom : Bool → List Char → List Char
  | _, [] => []
  | fresh, c :: rest =>
    if isBreak c then c :: singleQuotedFrom true rest
    else if c = ' ' then c :: singleQuotedFrom fresh rest
    else (if fresh then scalarIndent else []) ++ (if c = '\'' then ['\'', '\''] else [c]) ++ singleQuotedFrom false rest

/-- The text between single quotes; a quote inside is written twice. -/
def singleQuoted (s : List Char) : List Char := '\'' :: singleQuotedFrom false s ++ ['\'']

/-! ### Blocks of lines -/

/-- The sign of a block for the line ends at the end of its text: none of them, one, or all are kept. -/
def chomping (s : List Char) : List Char :=
  match s.reverse with
  | [] => ['-']
  | [c] => if isBreak c then ['+'] else ['-']
  | c :: d :: _ => if !isBreak c then ['-'] else if isBreak d then ['+'] else []

/-- The sign of a block whose text starts with a blank or an empty line. -/
def indentHint : List Char → List Char
  | c :: _ => if c = ' ' ∨ isBreak c then ['2'] else []
  | [] => []

/-- The lines of a block.  `broken` says whether the last character ended a line, `fresh` whether the line has
ended indeed; the two differ behind the sign of the block, where the text does not end a line itself. -/
def blockFrom (broken fresh : Bool) : List Char → List Char
  | [] => if fresh then [] else ['\n']
  | c :: rest =>
    if isBreak c then c :: blockFrom true true rest
    else if broken then (if fresh then [] else ['\n']) ++ scalarIndent ++ c :: blockFrom false false rest
    else c :: blockFrom false false rest

/-- A text as a block of lines, with the end of its last line. -/
def block (s : List Char) : List Char := '|' :: indentHint s ++ chomping s ++ blockFrom true false s

/-- The text of a scalar with the end of its last line. -/
def scalarLine (s : String) : List Char :=
  match styleOf s with
  | .bare => s.toList ++ ['\n']
  | .singleQuoted => singleQuoted s.toList ++ ['\n']
  | .doubleQuoted => doubleQuoted s.toList ++ ['\n']
  | .block => block s.toList

end FibTiming.Report
