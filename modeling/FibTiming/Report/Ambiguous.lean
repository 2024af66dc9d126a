import FibTiming.Number.IntegerText
import FibTiming.Number.Numeral

/-!
# Texts that would be read as something else

A bare scalar of a report is text only when it is not a null, a truth value, a number or a date.  Some spellings
count although newer readers take them for text: the short truth values and numbers in base sixty.
-/

namespace FibTiming.Report

open Number

/-- The words that stand for a null, a truth value or a special number. -/
def reservedWords : List String := [
  "", "~", "null", "Null", "NULL", "true", "True", "TRUE", "false", "False", "FALSE", ".nan", ".NaN", ".NAN",
  ".inf", ".Inf", ".INF", "+.inf", "+.Inf", "+.INF", "-.inf", "-.Inf", "-.INF",
  "y", "Y", "yes", "Yes", "YES", "on", "On", "ON", "n", "N", "no", "No", "NO", "off", "Off", "OFF"]

/-! ### Numbers -/

/-- Whether a text is an integer of 64 bits, after all underscores are left out. -/
def isInteger (plain : List Char) : Bool :=
  (readSigned plain).isOk || (readUnsigned plain).isOk ||
    match plain with
    | '0' :: c :: sign :: rest =>
      (sign == '+' || sign == '-') && !rest.isEmpty && !rest.contains '_' &&
        ((c == 'b' && fits 2 (sign == '-') rest) || (c == 'o' && fits 8 (sign == '-') rest))
    | _ => false
where
  fits (base : Nat) (minus : Bool) (digits : List Char) : Bool :=
    match readDigits base 0 digits with
    | .ok n => if minus then n ≤ 9223372036854775808 else n < 9223372036854775808
    | .error _ => false

/-- Whether the decimal number `m * 10 ^ e` is below the range of doubles. -/
def fitsDouble (m : Nat) (e : Int) : Bool :=
  let magnitude : Int := (Nat.toDigits 10 m).length + e
  if m = 0 ∨ magnitude < -400 then true
  else if 400 < magnitude then false
  else
    -- Half a unit above the largest double is the first value that rounds beyond it.
    let limit := Nat.pow 2 1024 - Nat.pow 2 970
    if 0 ≤ e then m * Nat.pow 10 e.toNat < limit else m < limit * Nat.pow 10 (-e).toNat

/-- The digits before and behind the point and the exponent of an unsigned decimal number. -/
def splitDecimal? (cs : List Char) : Option (List Char × List Char × List Char) :=
  let whole := cs.takeWhile Char.isDigit
  let rest := cs.dropWhile Char.isDigit
  let (fraction, rest) := match rest with
    | '.' :: more => (more.takeWhile Char.isDigit, more.dropWhile Char.isDigit)
    | _ => ([], rest)
  if whole.isEmpty && fraction.isEmpty then none
  else
    match rest with
    | [] => some (whole, fraction, [])
    | c :: exponent =>
      let (_, digits) := splitSign exponent
      if (c = 'e' ∨ c = 'E') ∧ !digits.isEmpty ∧ digits.all Char.isDigit then some (whole, fraction, exponent) else none

/-- Whether a text is a decimal number with or without point and exponent in the range of doubles. -/
def isDecimal (cs : List Char) : Bool :=
  match splitDecimal? (splitSign cs).2 with
  | none => false
  | some (whole, fraction, exponent) =>
    let (minus, digits) := splitSign exponent
    let power : Int := digitsValue 0 digits
    fitsDouble (digitsValue (digitsValue 0 whole) fraction) ((if minus then -power else power) - fraction.length)

/-- Whether every underscore of a text stands between two digits; `before` is the character in front of the text. -/
def separatesDigits (before : Char) : List Char → Bool
  | [] => true
  | c :: rest => (c != '_' || before.isDigit && rest.head?.any Char.isDigit) && separatesDigits c rest

/-- Whether a text is a number in base sixty: digits, then parts up to 59 after colons, then maybe a fraction. -/
def isBaseSixty (cs : List Char) : Bool :=
  let isPart (c : Char) : Bool := c.isDigit || c == '_'
  let body := (splitSign cs).2
  match body with
  | c :: _ => c.isDigit && parts (body.length) false (body.dropWhile isPart)
  | [] => false
where
  /-- The parts after colons; the flag says whether there was one. -/
  parts : (fuel : Nat) → Bool → List Char → Bool
  | 0, _, _ => false
  | _ + 1, some_, [] => some_
  | fuel + 1, _, ':' :: rest =>
    match rest with
    | a :: b :: more =>
      if a.isDigit && b.isDigit then a.toNat < 54 && parts fuel true more
      else a.isDigit && parts fuel true (b :: more)
    | [a] => a.isDigit
    | [] => false
  | _ + 1, some_, '.' :: rest => some_ && rest.all fun c => c.isDigit || c == '_'
  | _ + 1, _, _ => false

/-! ### Dates -/

/-- One or two digits at the front of a text. -/
def takeShort? : List Char → Option (Nat × List Char)
  | a :: b :: rest =>
    if !a.isDigit then none
    else if b.isDigit then some (digitsValue 0 [a, b], rest)
    else some (digitsValue 0 [a], b :: rest)
  | [a] => if a.isDigit then some (digitsValue 0 [a], []) else none
  | [] => none

/-- A character at the front of a text. -/
def takeChar? (c : Char) : List Char → Option (List Char)
  | d :: rest => if c = d then some rest else none
  | [] => none

/-- The number of days of a month. -/
def daysIn (year month : Nat) : Nat :=
  if month = 2 then (if year % 4 = 0 ∧ (year % 100 ≠ 0 ∨ year % 400 = 0) then 29 else 28)
  else if month = 4 ∨ month = 6 ∨ month = 9 ∨ month = 11 then 30
  else 31

/-- Takes a date off the front of a text: four digits of a year, a month and a day. -/
def takeDate? (cs : List Char) : Option (List Char) := do
  let year := cs.takeWhile Char.isDigit
  guard (year.length = 4)
  let rest ← takeChar? '-' (cs.drop 4)
  let (month, rest) ← takeShort? rest
  guard (1 ≤ month ∧ month ≤ 12)
  let rest ← takeChar? '-' rest
  let (day, rest) ← takeShort? rest
  guard (1 ≤ day ∧ day ≤ daysIn (digitsValue 0 year) month)
  return rest

/-- Takes a time of the day off the front of a text, with a fraction of a second if there is one. -/
def takeTime? (cs : List Char) : Option (List Char) := do
  let (hour, rest) ← takeShort? cs
  guard (hour < 24)
  let rest ← takeChar? ':' rest
  let (minute, rest) ← takeShort? rest
  guard (minute < 60)
  let rest ← takeChar? ':' rest
  let (second, rest) ← takeShort? rest
  guard (second < 60)
  match rest with
  | point :: d :: more =>
    if (point = '.' ∨ point = ',') ∧ d.isDigit then return more.dropWhile Char.isDigit else return rest
  | _ => return rest

/-- Whether a text is a zone: `Z`, or a sign, two digits for hours, a colon and two for minutes. -/
def isZone : List Char → Bool
  | ['Z'] => true
  | [sign, a, b, ':', c, d] =>
    (sign == '+' || sign == '-') && a.isDigit && b.isDigit && c.isDigit && d.isDigit
      && digitsValue 0 [a, b] ≤ 24 && digitsValue 0 [c, d] ≤ 60
  | _ => false

/-- Whether a text is a date, alone, with a time after a blank, or with a time and a zone after `T` or `t`. -/
def isDate (cs : List Char) : Bool :=
  match takeDate? cs with
  | none => false
  | some [] => true
  | some (c :: rest) =>
    match takeTime? rest with
    | none => false
    | some zone => if c = ' ' then zone.isEmpty else (c == 'T' || c == 't') && isZone zone

/-- Whether a text would be read as something else when it stands bare. -/
def isAmbiguous (s : String) : Bool :=
  let cs := s.toList
  reservedWords.contains s ||
    match cs with
    | [] => true
    | c :: _ =>
      let plain := cs.filter (· ≠ '_')
      if c = '.' then separatesDigits c cs && isDecimal plain
      else if c.isDigit ∨ c = '+' ∨ c = '-' then
        isDate cs || isInteger plain || isDecimal plain || isBaseSixty cs
      else false

end FibTiming.Report
