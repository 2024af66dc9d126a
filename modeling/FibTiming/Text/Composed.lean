import FibTiming.Text.CharRanges
import FibTiming.Text.CompositionTable

/-!
# Composed text

`composed` brings a text into its canonical composed form: every character is taken apart, marks on the same base
are put in the order of their classes, and bases are joined with their marks again where a composed character
exists.  Texts that a reader cannot tell apart have the same form.
-/

namespace FibTiming.Text

/-- The class by which a mark is ordered, zero for every other character. -/
def markOrder (c : Nat) : Nat :=
  if c < 0x300 then 0
  else
    match markClasses.find? fun k => (CharRanges.mk k.bounds).containsCode c with
    | some k => k.order
    | none => 0

/-! ### Syllables -/

/-- The first precomposed syllable. -/
def syllableBase : Nat := 0xAC00

/-- The number of precomposed syllables. -/
def syllableCount : Nat := 11172

/-- The parts of a precomposed syllable. -/
def syllableParts (c : Nat) : List Nat :=
  let i := c - syllableBase
  let lead := 0x1100 + i / 588
  let vowel := 0x1161 + i % 588 / 28
  if i % 28 = 0 then [lead, vowel] else [lead, vowel, 0x11A7 + i % 28]

/-- The syllable that two parts make, if they make one. -/
def joinSyllable? (a b : Nat) : Option Nat :=
  if 0x1100 ≤ a ∧ a < 0x1113 ∧ 0x1161 ≤ b ∧ b < 0x1176 then
    some (syllableBase + ((a - 0x1100) * 21 + (b - 0x1161)) * 28)
  else if syllableBase ≤ a ∧ a < syllableBase + syllableCount ∧ (a - syllableBase) % 28 = 0 ∧ 0x11A7 < b ∧ b < 0x11C3 then
    some (a + (b - 0x11A7))
  else none

/-! ### Taking apart -/

/-- The base that gives `c` in a list of bases, each followed by what it becomes. -/
def baseOf? (c : Nat) : List Nat → Option Nat
  | base :: result :: rest => if result = c then some base else baseOf? c rest
  | _ => none

/-- The composed character of `base` in a list of bases, each followed by what it becomes. -/
def resultOf? (base : Nat) : List Nat → Option Nat
  | b :: result :: rest => if b = base then some result else resultOf? base rest
  | _ => none

/-- The two characters that `c` stands for in a list of triples. -/
def tripleOf? (c : Nat) : List Nat → Option (List Nat)
  | x :: a :: b :: rest => if x = c then some [a, b] else tripleOf? c rest
  | _ => none

/-- The characters that `c` directly stands for. -/
def directParts? (c : Nat) : Option (List Nat) :=
  match standIns.find? fun s => s.first ≤ c && c < s.first + s.targets.size with
  | some s => (s.targets[c - s.first]?).map fun t => [t]
  | none =>
    match markedPairs.findSome? fun m => (baseOf? c m.pairs.toList).map fun b => [b, m.mark] with
    | some parts => some parts
    | none => tripleOf? c excludedPairs.toList

/-- The characters that `c` finally stands for; the parts of a part are at most `depth` levels deep. -/
def allParts : (depth c : Nat) → List Nat
  | 0, c => [c]
  | depth + 1, c =>
    if c < 0xC0 then [c]
    else if syllableBase ≤ c ∧ c < syllableBase + syllableCount then syllableParts c
    else
      match directParts? c with
      | none => [c]
      | some parts => parts.flatMap (allParts depth)

/-- Puts a mark among the marks before it, behind those of the same or a lower class; the list is reversed. -/
def insertMark (c k : Nat) : List (Nat × Nat) → List (Nat × Nat)
  | [] => [(c, k)]
  | (d, j) :: rest => if k < j ∧ k ≠ 0 then (d, j) :: insertMark c k rest else (c, k) :: (d, j) :: rest

/-- Orders the marks on each base; every character is returned with its class. -/
def orderMarks (cs : List Nat) : List (Nat × Nat) :=
  (cs.foldl (fun done c => insertMark c (markOrder c) done) []).reverse

/-! ### Putting together -/

/-- The composed character of a base and a mark, if there is one. -/
def join? (base mark : Nat) : Option Nat :=
  match joinSyllable? base mark with
  | some c => some c
  | none => markedPairs.findSome? fun m => if m.mark = mark then resultOf? base m.pairs.toList else none

/-- Joins the characters that follow a base with it.  `kept` holds, in reverse, the characters after the base that
could not be joined, and `last` is the class of the latest of them. -/
def joinFrom (base : Nat) (kept : List Nat) (last : Option Nat) : List (Nat × Nat) → List Nat
  | [] => base :: kept.reverse
  | (c, k) :: rest =>
    let free := match last with
      | none => true
      | some j => decide (j < k)
    match if free then join? base c else none with
    | some joined => joinFrom joined kept last rest
    | none =>
      if k = 0 then base :: kept.reverse ++ joinFrom c [] none rest
      else joinFrom base (c :: kept) (some k) rest

/-- Joins bases with their marks; marks before the first base stay as they are. -/
def joinAll : List (Nat × Nat) → List Nat
  | [] => []
  | (c, k) :: rest => if k = 0 then joinFrom c [] none rest else c :: joinAll rest

/-- The canonical composed form of a text. -/
def composed (s : String) : String :=
  if s.toList.all fun c => c.toNat < 0x300 then s
  else
    let apart := s.toList.flatMap fun c => allParts 4 c.toNat
    String.ofList ((joinAll (orderMarks apart)).map Char.ofNat)

end FibTiming.Text
