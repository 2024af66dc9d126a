/-!
# Distance of words

The least number of characters to insert, delete or replace that turns one word into another, and the first word
of a list that is close to a given one.
-/

namespace FibTiming.Text

/-- The next row of the table of distances: `corner` is the entry above and to the left of the next one, `left` the
entry before it. -/
def nextRow (c : Char) (corner left : Nat) : List Char → List Nat → List Nat
  | d :: ds, above :: row =>
    let here := min (min (above + 1) (left + 1)) (if c = d then corner else corner + 1)
    here :: nextRow c above here ds row
  | _, _ => []

/-- The rows of the table of distances, one for each character of the first word; the last one is returned. -/
def lastRow (b : List Char) : (i : Nat) → (row : List Nat) → List Char → List Nat
  | _, row, [] => row
  | i, row, c :: rest => lastRow b (i + 1) ((i + 1) :: nextRow c i (i + 1) b row.tail) rest

/-- The least number of single changes between two words. -/
def distance (a b : String) : Nat :=
  ((lastRow b.toList 0 (List.range (b.toList.length + 1)) a.toList).getLast?).getD 0

/-- The first candidate that fewer than three changes turn into the given word. -/
def closest? (given : String) (candidates : List String) : Option String :=
  candidates.find? fun c => distance given c < 3

end FibTiming.Text
