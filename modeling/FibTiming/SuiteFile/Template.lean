import FibTiming.SuiteFile.Expr
import FibTiming.Text.Blank

/-!
# Templates

A string or heredoc is first read as a flat list of parts: literals, inserted values and directives.  `flush`
removes the indentation that the lines of a heredoc have in common, `meld` joins neighbouring literals, and
`Part.nest` turns the directives into conditionals and iterations.
-/

namespace FibTiming.SuiteFile

/-- A part of a template as it stands in the file. -/
inductive Part where
  | literal (text : List Char)
  | value (e : Expr)
  | ifOpen (condition : Expr)
  | elseMark
  | ifClose
  | forOpen (keyName : Option String) (valueName : String) (collection : Expr)
  | forClose

namespace Part

/-- Whether a literal is a line of blanks. -/
def isBlankLine (text : List Char) : Bool :=
  (Text.trimLeft text).isEmpty && text.getLast? == some '\n'

/-- The number of characters a literal is indented by. -/
def indentation (text : List Char) : Nat := (Text.clusters (text.takeWhile Text.isBlank)).length

/-- Whether the next part starts a line after this one. -/
def endsLine : Part → Bool
  | literal text => text.getLast? == some '\n'
  | _ => false

/-- The least indentation of the lines that are not blank; a line that starts with a value or a directive is not
indented.  The flag says whether the first part starts a line. -/
def leastIndentation : (atStart : Bool) → List Part → Option Nat
  | _, [] => none
  | atStart, p :: rest =>
    let later := leastIndentation p.endsLine rest
    let here : Option Nat :=
      match atStart, p with
      | false, _ => none
      | true, literal text => if isBlankLine text then none else some (indentation text)
      | true, _ => some 0
    match here, later with
    | none, l => l
    | h, none => h
    | some a, some b => some (min a b)

/-- The literal without its first `n` characters as a reader counts them. -/
def dropClusters (n : Nat) (text : List Char) : List Char := ((Text.clusters text).drop n).flatten

/-- Removes `n` characters of indentation from the lines that are not blank. -/
def unindent (n : Nat) : (atStart : Bool) → List Part → List Part
  | _, [] => []
  | atStart, p :: rest =>
    let here := match atStart, p with
      | true, literal text => if isBlankLine text then p else literal (dropClusters n text)
      | _, _ => p
    here :: unindent n p.endsLine rest

/-- Removes the indentation that all lines have in common. -/
def flush (parts : List Part) : List Part :=
  unindent ((leastIndentation true parts).getD 0) true parts

/-- Joins neighbouring literals. -/
def meld : List Part → List Part
  | [] => []
  | p :: rest =>
    match p, meld rest with
    | literal a, literal b :: more => literal (a ++ b) :: more
    | _, more => p :: more

/-- What ends a sequence of parts. -/
inductive Stop where
  | finish
  | elseMark
  | ifClose
  | forClose
deriving Repr, DecidableEq

/-- A sequence of parts as one expression; an empty one is the empty text. -/
def wrap (region : Region) (es : List Expr) : Expr :=
  .template (if es.isEmpty then [.literal (.text "") region] else es) region

/-- The expressions of a sequence of parts up to what ends it, with the parts behind that; none when directives do
not match.  `fuel` bounds the number of parts. -/
def nest (region : Region) : (fuel : Nat) → List Part → Option (List Expr × Stop × List Part)
  | 0, _ => none
  | fuel + 1, parts =>
    let continue_ (e : Expr) (rest : List Part) : Option (List Expr × Stop × List Part) :=
      (nest region fuel rest).map fun r => (e :: r.1, r.2)
    match parts with
    | [] => some ([], .finish, [])
    | elseMark :: rest => some ([], .elseMark, rest)
    | ifClose :: rest => some ([], .ifClose, rest)
    | forClose :: rest => some ([], .forClose, rest)
    | literal text :: rest => continue_ (.literal (.ofText (String.ofList text)) region) rest
    | value e :: rest => continue_ e rest
    | ifOpen condition :: rest =>
      match nest region fuel rest with
      | some (yes, .ifClose, rest) =>
        continue_ (.conditional condition (wrap region yes) (wrap region []) region) rest
      | some (yes, .elseMark, rest) =>
        match nest region fuel rest with
        | some (no, .ifClose, rest) =>
          continue_ (.conditional condition (wrap region yes) (wrap region no) region) rest
        | _ => none
      | _ => none
    | forOpen keyName valueName collection :: rest =>
      match nest region fuel rest with
      | some (body, .forClose, rest) =>
        continue_ (.joined (.forTuple keyName valueName collection (wrap region body)
          (.literal (.bool true) region) region) region) rest
      | _ => none

/-- The expression of a template that stands in a region.  A single inserted value is not turned into text. -/
def toExpr? (region : Region) (parts : List Part) : Option Expr :=
  match parts with
  | [value e] => some (.wrapped e region)
  | _ =>
    match nest region (parts.length + 1) parts with
    | some (es, .finish, _) => some (wrap region es)
    | _ => none

end Part

end FibTiming.SuiteFile
