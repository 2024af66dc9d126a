import FibTiming.SuiteFile.Region
import FibTiming.Text.Blank
import FibTiming.Text.Identifier

/-!
# Tokens of suite files

A suite file is read as code, as the inside of a quoted string, or as the lines of a heredoc.  Strings and heredocs
can hold sequences of code, and code can hold strings again, so the scanner keeps a stack of what it is inside of.
Comments do not become tokens, but the end of a line comment ends its line.
-/

namespace FibTiming.SuiteFile

/-- The signs of the language. -/
inductive Sign where
  | braceOpen | braceClose | bracketOpen | bracketClose | parenOpen | parenClose
  | dot | ellipsis | comma | question | colon | doubleColon | assign | arrow
  | equal | notEqual | less | lessEqual | greater | greaterEqual
  | and | or | not | plus | minus | star | slash | percent
deriving Repr, DecidableEq, Inhabited

/-- What a token is. -/
inductive TokenKind where
  | newline
  | name (s : String)
  | number (s : String)
  | sign (s : Sign)
  | quoteOpen
  | quoteClose
  /-- The start of a heredoc; its lines lose their common indentation when `flush` is set. -/
  | heredocOpen (flush : Bool)
  | heredocClose
  /-- Text of a string or of one line of a heredoc, with its escapes replaced. -/
  | literal (text : List Char)
  /-- The start of an inserted value, which trims the text before it when `trim` is set. -/
  | valueOpen (trim : Bool)
  /-- The start of a directive, which trims the text before it when `trim` is set. -/
  | directiveOpen (trim : Bool)
  /-- The end of either, which trims the text behind it when `trim` is set. -/
  | sequenceClose (trim : Bool)
deriving Repr, DecidableEq, Inhabited

/-- A token and where it stands. -/
structure Token where
  kind : TokenKind
  region : Region
deriving Repr, DecidableEq, Inhabited

/-! ### Pieces of text -/

/-- Splits `open` off the front of a text. -/
def dropFront? : (front text : List Char) → Option (List Char)
  | [], text => some text
  | _ :: _, [] => none
  | a :: front, b :: text => if a = b then dropFront? front text else none

/-- The longest beginning of a text that looks like the rest of a number: digits, points and exponents. -/
def numberPart : List Char → List Char
  | c :: rest =>
    if c.isDigit ∨ c = '.' then c :: numberPart rest
    else if c = 'e' ∨ c = 'E' then
      match rest with
      | d :: rest' =>
        if d.isDigit then c :: d :: numberPart rest'
        else if d = '+' ∨ d = '-' then
          match rest' with
          | f :: rest'' => if f.isDigit then c :: d :: f :: numberPart rest'' else []
          | [] => []
        else []
      | [] => []
    else []
  | [] => []

/-- A number at the front of a text; points at its end do not belong to it. -/
def frontNumber (text : List Char) : List Char :=
  ((numberPart text).reverse.dropWhile (· == '.')).reverse

/-- The characters a name goes on with. -/
def isNamePart (c : Char) : Bool := Text.isIdentifierPart c || c == '-'

/-- The characters a name starts with. -/
def isNameStart (c : Char) : Bool := Text.isIdentifierStart c || c == '_'

/-- The signs, longer ones before those they start with. -/
def signs : List (List Char × Sign) := [
  (['.', '.', '.'], .ellipsis), (['=', '='], .equal), (['!', '='], .notEqual), (['<', '='], .lessEqual),
  (['>', '='], .greaterEqual), (['&', '&'], .and), (['|', '|'], .or), (['=', '>'], .arrow), ([':', ':'], .doubleColon),
  (['['], .bracketOpen), ([']'], .bracketClose), (['('], .parenOpen), ([')'], .parenClose), (['.'], .dot),
  ([','], .comma), (['?'], .question), ([':'], .colon), (['='], .assign), (['<'], .less), (['>'], .greater),
  (['!'], .not), (['+'], .plus), (['-'], .minus), (['*'], .star), (['/'], .slash), (['%'], .percent)]

/-- The sign at the front of a text. -/
def frontSign? (text : List Char) : Option (List Char × Sign) :=
  signs.find? fun s => (dropFront? s.1 text).isSome

/-- A line comment with the end of its line, if it has one. -/
def lineComment : List Char → List Char
  | [] => []
  | c :: rest => if c = '\n' then [c] else c :: lineComment rest

/-- The rest of a block comment with its end; none when it does not end. -/
def blockComment? : List Char → Option (List Char)
  | [] => none
  | c :: rest =>
    match c, rest with
    | '*', '/' :: _ => some ['*', '/']
    | _, _ => (blockComment? rest).map (c :: ·)

/-- The end of a line at the front of a text. -/
def frontNewline : List Char → List Char
  | '\n' :: _ => ['\n']
  | '\r' :: '\n' :: _ => ['\r', '\n']
  | _ => []

/-- The opening line of a heredoc behind `<<`: whether it flushes, its marker and its text. -/
def heredocOpening? (text : List Char) : Option (Bool × List Char × List Char) :=
  let (flush, rest) := match text with
    | '-' :: rest => (true, rest)
    | _ => (false, text)
  let marker := rest.takeWhile isNamePart
  let eol := frontNewline (rest.dropWhile isNamePart)
  match marker with
  | [] => none
  | c :: _ =>
    if !isNameStart c || eol.isEmpty then none
    else some (flush, marker, (if flush then ['-'] else []) ++ marker ++ eol)

/-! ### Text of strings -/

/-- The value of a hexadecimal digit. -/
def hexValue? (c : Char) : Option Nat :=
  let n := c.toNat
  if 48 ≤ n ∧ n ≤ 57 then some (n - 48)
  else if 97 ≤ n ∧ n ≤ 102 then some (n - 87)
  else if 65 ≤ n ∧ n ≤ 70 then some (n - 55)
  else none

/-- The number written by hexadecimal digits. -/
def hexNumber? : (start : Nat) → List Char → Option Nat
  | n, [] => some n
  | n, c :: rest =>
    match hexValue? c with
    | none => none
    | some d => hexNumber? (16 * n + d) rest

/-- The character with the code point written by hexadecimal digits. -/
def escapedChar? (digits : List Char) : Option Char :=
  match hexNumber? 0 digits with
  | none => none
  | some n => if n < 0xD800 ∨ (0xDFFF < n ∧ n < 0x110000) then some (Char.ofNat n) else none

/-- The text of a quoted literal with its escapes replaced; none when one of them means nothing. -/
def unescape? : List Char → Option (List Char)
  | '\\' :: 'n' :: rest => (unescape? rest).map ('\n' :: ·)
  | '\\' :: 'r' :: rest => (unescape? rest).map ('\r' :: ·)
  | '\\' :: 't' :: rest => (unescape? rest).map ('\t' :: ·)
  | '\\' :: '"' :: rest => (unescape? rest).map ('"' :: ·)
  | '\\' :: '\\' :: rest => (unescape? rest).map ('\\' :: ·)
  | '\\' :: 'u' :: a :: b :: c :: d :: rest =>
    match escapedChar? [a, b, c, d] with
    | none => none
    | some x => (unescape? rest).map (x :: ·)
  | '\\' :: 'U' :: a :: b :: c :: d :: e :: f :: g :: h :: rest =>
    match escapedChar? [a, b, c, d, e, f, g, h] with
    | none => none
    | some x => (unescape? rest).map (x :: ·)
  | '\\' :: _ => none
  | '$' :: '$' :: '\x7b' :: rest => (unescape? rest).map fun t => '$' :: '\x7b' :: t
  | '%' :: '%' :: '\x7b' :: rest => (unescape? rest).map fun t => '%' :: '\x7b' :: t
  | c :: rest => (unescape? rest).map (c :: ·)
  | [] => some []

/-- The text of a heredoc line with doubled opening signs replaced by single ones. -/
def undouble : List Char → List Char
  | '$' :: '$' :: '\x7b' :: rest => '$' :: '\x7b' :: undouble rest
  | '%' :: '%' :: '\x7b' :: rest => '%' :: '\x7b' :: undouble rest
  | c :: rest => c :: undouble rest
  | [] => []

/-- The literal at the front of the inside of a quoted string, up to its end or a sequence. -/
def quotedLiteral : List Char → List Char
  | '\\' :: c :: rest => if c = '\n' ∨ c = '\r' then ['\\'] else '\\' :: c :: quotedLiteral rest
  | '$' :: '$' :: '\x7b' :: rest => '$' :: '$' :: '\x7b' :: quotedLiteral rest
  | '%' :: '%' :: '\x7b' :: rest => '%' :: '%' :: '\x7b' :: quotedLiteral rest
  | '$' :: '\x7b' :: _ => []
  | '%' :: '\x7b' :: _ => []
  | c :: rest => if c = '"' ∨ c = '\n' ∨ c = '\r' then [] else c :: quotedLiteral rest
  | [] => []

/-- The literal at the front of a heredoc line, up to the end of the line or a sequence. -/
def heredocLiteral : List Char → List Char
  | '$' :: '$' :: '\x7b' :: rest => '$' :: '$' :: '\x7b' :: heredocLiteral rest
  | '%' :: '%' :: '\x7b' :: rest => '%' :: '%' :: '\x7b' :: heredocLiteral rest
  | '$' :: '\x7b' :: _ => []
  | '%' :: '\x7b' :: _ => []
  | c :: rest => if c = '\n' ∨ c = '\r' then [] else c :: heredocLiteral rest
  | [] => []

/-- The start of a sequence at the front of a text. -/
def frontSequence? : List Char → Option (List Char × TokenKind)
  | '$' :: '\x7b' :: '~' :: _ => some (['$', '\x7b', '~'], .valueOpen true)
  | '$' :: '\x7b' :: _ => some (['$', '\x7b'], .valueOpen false)
  | '%' :: '\x7b' :: '~' :: _ => some (['%', '\x7b', '~'], .directiveOpen true)
  | '%' :: '\x7b' :: _ => some (['%', '\x7b'], .directiveOpen false)
  | _ => none

/-! ### The scanner -/

/-- What the scanner is inside of. -/
inductive Surrounding where
  /-- Code with so many open braces. -/
  | code (depth : Nat)
  | quoted
  /-- A heredoc with its marker; the flag says whether a literal would start its line. -/
  | heredoc (marker : List Char) (atStart : Bool)
deriving Repr, DecidableEq, Inhabited

/-- What one step of the scanner finds: the text it takes, the tokens in it with their texts, and the
surroundings afterwards. -/
structure Scanned where
  tokens : List (List Char × Option TokenKind)
  inside : List Surrounding

/-- One piece of text that becomes a token. -/
def Scanned.one (text : List Char) (kind : TokenKind) (inside : List Surrounding) : Scanned :=
  ⟨[(text, some kind)], inside⟩

/-- One step in code with `depth` open braces, inside of `outer`. -/
def scanCode (depth : Nat) (outer : List Surrounding) (text : List Char) : Option Scanned :=
  let here := Surrounding.code depth :: outer
  match text with
  | [] => none
  | c :: rest =>
    if c = ' ' ∨ c = '\t' then
      some ⟨[(text.takeWhile fun d => d == ' ' || d == '\t', none)], here⟩
    else if c.isDigit then
      let n := frontNumber text
      some (.one n (.number (String.ofList n)) here)
    else if isNameStart c then
      let n := text.takeWhile isNamePart
      some (.one n (.name (String.ofList n)) here)
    else if !(frontNewline text).isEmpty then some (.one (frontNewline text) .newline here)
    else
      match c, rest with
      | '"', _ => some (.one [c] .quoteOpen (.quoted :: here))
      | '#', _ => some (comment here text)
      | '/', '/' :: _ => some (comment here text)
      | '/', '*' :: rest' => (blockComment? rest').map fun t => ⟨[('/' :: '*' :: t, none)], here⟩
      | '\x7b', _ => some (.one [c] (.sign .braceOpen) (.code (depth + 1) :: outer))
      | '\x7d', _ => some (closeBrace [c] false depth outer)
      | '~', '\x7d' :: _ => if depth = 0 ∧ outer ≠ [] then some (.one ['~', '\x7d'] (.sequenceClose true) outer) else none
      | '<', '<' :: rest' =>
        match heredocOpening? rest' with
        | some (flush, marker, t) =>
          some (.one ('<' :: '<' :: t) (.heredocOpen flush) (.heredoc marker true :: here))
        | none => none
      | _, _ => (frontSign? text).map fun s => .one s.1 (.sign s.2) here
where
  comment (here : List Surrounding) (text : List Char) : Scanned :=
    let t := lineComment text
    ⟨[(t, if t.getLast? = some '\n' then some .newline else none)], here⟩
  closeBrace (t : List Char) (trim : Bool) (depth : Nat) (outer : List Surrounding) : Scanned :=
    if depth = 0 ∧ outer ≠ [] then .one t (.sequenceClose trim) outer
    else .one t (.sign .braceClose) (.code (depth - 1) :: outer)

/-- One step inside a quoted string. -/
def scanQuoted (outer : List Surrounding) (text : List Char) : Option Scanned :=
  match frontSequence? text with
  | some (t, k) => some (.one t k (.code 0 :: .quoted :: outer))
  | none =>
    match text with
    | '"' :: _ => some (.one ['"'] .quoteClose outer)
    | _ =>
      let t := quotedLiteral text
      if t.isEmpty then none
      else (unescape? t).map fun u => .one t (.literal u) (.quoted :: outer)

/-- One step inside a heredoc. -/
def scanHeredoc (marker : List Char) (atStart : Bool) (outer : List Surrounding) (text : List Char) : Option Scanned :=
  match frontSequence? text with
  | some (t, k) => some (.one t k (.code 0 :: .heredoc marker false :: outer))
  | none =>
    let line := heredocLiteral text
    let eol := frontNewline (text.drop line.length)
    if eol.isEmpty then
      if line.isEmpty then none
      else some (.one line (.literal (undouble line)) (.heredoc marker false :: outer))
    else if atStart && Text.trim line == marker then
      some ⟨[(line, some .heredocClose), (eol, some .newline)], outer⟩
    else some (.one (line ++ eol) (.literal (undouble line ++ eol)) (.heredoc marker true :: outer))

/-- One step of the scanner. -/
def scanStep (inside : List Surrounding) (text : List Char) : Option Scanned :=
  match inside with
  | [] => none
  | .code depth :: outer => scanCode depth outer text
  | .quoted :: outer => scanQuoted outer text
  | .heredoc marker atStart :: outer => scanHeredoc marker atStart outer text

/-- Places the pieces of a step one behind the other. -/
def place (file : String) : (p : Position) → List (List Char × Option TokenKind) → Position × List Token
  | p, [] => (p, [])
  | p, (t, k) :: rest =>
    let q := p.after t
    let r := place file q rest
    match k with
    | some k => (r.1, ⟨k, ⟨file, p, q⟩⟩ :: r.2)
    | none => r

/-- The tokens of a text, in at most `fuel` steps; none when a part of it is no token or does not end. -/
def scanFrom (file : String) : (fuel : Nat) → Position → List Surrounding → List Char → Option (List Token)
  | 0, _, _, _ => none
  | fuel + 1, p, inside, text =>
    if text.isEmpty then (if inside.length ≤ 1 then some [] else none)
    else
      match scanStep inside text with
      | none => none
      | some s =>
        let taken := (s.tokens.map fun t => t.1.length).sum
        let placed := place file p s.tokens
        (scanFrom file fuel placed.1 s.inside (text.drop taken)).map (placed.2 ++ ·)

/-- The tokens of a suite file, which may start with a byte order mark. -/
def scan (file : String) (source : String) : Option (List Token) :=
  let text := match source.toList with
    | c :: rest => if c.toNat = 0xFEFF then rest else c :: rest
    | [] => []
  scanFrom file (text.length + 1) {} [.code 0] text

end FibTiming.SuiteFile
