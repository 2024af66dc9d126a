/-!
# Integers in several bases

An integer can be written in binary after `0b`, in octal after `0o` or a plain `0`, in hexadecimal after `0x`, and in
decimal otherwise.  Underscores may stand between digits and behind a base.  Integers are read up to 64 bits, and
the first thing that is wrong, from the left, is reported.
-/

namespace FibTiming.Number

/-- What is wrong with the text of an integer. -/
inductive IntegerFault where
  | malformed
  | outOfRange
deriving Repr, DecidableEq, Inhabited

/-- The value of a digit in a base of up to 36. -/
def digitValue? (c : Char) : Option Nat :=
  let n := c.toNat
  if 48 ≤ n ∧ n ≤ 57 then some (n - 48)
  else if 97 ≤ n ∧ n ≤ 122 then some (n - 87)
  else if 65 ≤ n ∧ n ≤ 90 then some (n - 55)
  else none

/-- The base that a character after a leading zero selects. -/
def baseOfLetter? (c : Char) : Option Nat :=
  if c = 'b' ∨ c = 'B' then some 2
  else if c = 'o' ∨ c = 'O' then some 8
  else if c = 'x' ∨ c = 'X' then some 16
  else none

/-- The base of a text and the digits behind it. -/
def splitBase : List Char → Nat × List Char
  | '0' :: c :: d :: rest =>
    match baseOfLetter? c with
    | some base => (base, d :: rest)
    | none => (8, c :: d :: rest)
  | '0' :: rest => (8, rest)
  | cs => (10, cs)

/-- The largest 64-bit number. -/
def maxWord : Nat := 18446744073709551615

/-- The number of a list of digits in a base, after those already read; underscores do not count. -/
def readDigits (base : Nat) : (start : Nat) → List Char → Except IntegerFault Nat
  | n, [] => .ok n
  | n, c :: rest =>
    if c = '_' then readDigits base n rest
    else
      match digitValue? c with
      | none => .error .malformed
      | some d =>
        if base ≤ d then .error .malformed
        else if maxWord < base * n + d then .error .outOfRange
        else readDigits base (base * n + d) rest

/-- What stands before a character, as far as underscores are concerned. -/
inductive Before where
  | start
  | digit
  | underscore
  | other
deriving Repr, DecidableEq

/-- Whether every underscore stands between digits. -/
def underscoresFit (hex : Bool) : Before → List Char → Bool
  | b, [] => b != .underscore
  | b, c :: rest =>
    let isDigit := c.isDigit || (hex && ((digitValue? c).any (· < 16)))
    if isDigit then underscoresFit hex .digit rest
    else if c = '_' then b == .digit && underscoresFit hex .underscore rest
    else b != .underscore && underscoresFit hex .other rest

/-- Whether the underscores of an unsigned integer stand between digits or behind its base. -/
def underscoresOk : List Char → Bool
  | '0' :: c :: rest =>
    if (baseOfLetter? c).isSome then underscoresFit (c == 'x' || c == 'X') .digit rest
    else underscoresFit false .start ('0' :: c :: rest)
  | cs => underscoresFit false .start cs

/-- The unsigned integer of 64 bits that a text is. -/
def readUnsigned (cs : List Char) : Except IntegerFault Nat :=
  if cs.isEmpty then .error .malformed
  else
    let (base, digits) := splitBase cs
    match readDigits base 0 digits with
    | .error e => .error e
    | .ok n => if cs.contains '_' && !underscoresOk cs then .error .malformed else .ok n

/-- The signed integer of 64 bits that a text is. -/
def readSigned (cs : List Char) : Except IntegerFault Int :=
  let (minus, body) := match cs with
    | '+' :: rest => (false, rest)
    | '-' :: rest => (true, rest)
    | _ => (false, cs)
  match readUnsigned body with
  | .error e => .error e
  | .ok n =>
    if minus then (if n ≤ 9223372036854775808 then .ok (-(n : Int)) else .error .outOfRange)
    else if n < 9223372036854775808 then .ok n else .error .outOfRange

end FibTiming.Number
