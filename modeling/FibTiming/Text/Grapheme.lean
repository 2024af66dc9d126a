import FibTiming.Text.GraphemeTable

/-!
# The characters a reader sees

`clusters` divides a text into extended grapheme clusters: a base character with its marks, a line end, a
syllable, a flag or a sequence of joined pictographs each count as one.
-/

namespace FibTiming.Text

/-- The classes of characters that decide where a cluster ends. -/
inductive ClusterClass where
  | carriageReturn
  | lineFeed
  | control
  | extend
  | joiner
  | regional
  | leading
  | vowel
  | trailing
  | openSyllable
  | closedSyllable
  | prepend
  | spacing
  | pictograph
  | other
deriving Repr, DecidableEq, Inhabited

/-- The class of a character. -/
def ClusterClass.of (c : Char) : ClusterClass :=
  let n := c.toNat
  if n = 13 then carriageReturn
  else if n = 10 then lineFeed
  else if 32 ≤ n ∧ n < 127 then other
  else if n = 0x200D then joiner
  else if 0x1F1E6 ≤ n ∧ n ≤ 0x1F1FF then regional
  else if (0x1100 ≤ n ∧ n ≤ 0x115F) ∨ (0xA960 ≤ n ∧ n ≤ 0xA97C) then leading
  else if (0x1160 ≤ n ∧ n ≤ 0x11A7) ∨ (0xD7B0 ≤ n ∧ n ≤ 0xD7C6) then vowel
  else if (0x11A8 ≤ n ∧ n ≤ 0x11FF) ∨ (0xD7CB ≤ n ∧ n ≤ 0xD7FB) then trailing
  else if 0xAC00 ≤ n ∧ n ≤ 0xD7A3 then
    if (n - 0xAC00) % 28 = 0 then openSyllable else closedSyllable
  else if controlRanges.containsCode n then control
  else if extendRanges.containsCode n then extend
  else if spacingMarkRanges.containsCode n then spacing
  else if prependRanges.containsCode n then prepend
  else if pictographRanges.containsCode n then pictograph
  else other

/-- What the decision at the next character needs to know about the cluster read so far. -/
structure ClusterState where
  /-- The class of the last character. -/
  last : ClusterClass
  /-- Whether the last character is a joiner after a pictograph and its marks, or a mark after a pictograph. -/
  pictureMarks : Bool
  /-- Whether the cluster ends in a pictograph, marks and a joiner. -/
  pictureJoined : Bool
  /-- Whether the cluster ends in an odd number of regional indicators. -/
  oddRegional : Bool
deriving Repr, DecidableEq, Inhabited

namespace ClusterState

/-- The state after the first character of a cluster. -/
def start (k : ClusterClass) : ClusterState :=
  ⟨k, k == .pictograph, false, k == .regional⟩

/-- The state after one more character of the same cluster. -/
def step (s : ClusterState) (k : ClusterClass) : ClusterState :=
  { last := k
    pictureMarks := k == .pictograph || (s.pictureMarks && k == .extend)
    pictureJoined := s.pictureMarks && k == .joiner
    oddRegional := k == .regional && !s.oddRegional }

/-- Whether a character of class `k` stays in the cluster. -/
def continues (s : ClusterState) (k : ClusterClass) : Bool :=
  match s.last, k with
  | .carriageReturn, .lineFeed => true
  | .carriageReturn, _ | .lineFeed, _ | .control, _ => false
  | _, .carriageReturn | _, .lineFeed | _, .control => false
  | .leading, .leading | .leading, .vowel | .leading, .openSyllable | .leading, .closedSyllable => true
  | .openSyllable, .vowel | .vowel, .vowel | .openSyllable, .trailing | .vowel, .trailing => true
  | .closedSyllable, .trailing | .trailing, .trailing => true
  | _, .extend | _, .joiner | _, .spacing => true
  | .prepend, _ => true
  | _, .pictograph => s.pictureJoined
  | .regional, .regional => s.oddRegional
  | _, _ => false

end ClusterState

/-- Divides the rest of a text, given the state of the cluster under way and its characters in reverse. -/
def clustersFrom (s : ClusterState) (current : List Char) : List Char → List (List Char)
  | [] => [current.reverse]
  | c :: rest =>
    let k := ClusterClass.of c
    if s.continues k then clustersFrom (s.step k) (c :: current) rest
    else current.reverse :: clustersFrom (ClusterState.start k) [c] rest

/-- The clusters of a text, in order. -/
def clusters : List Char → List (List Char)
  | [] => []
  | c :: rest => clustersFrom (ClusterState.start (ClusterClass.of c)) [c] rest

end FibTiming.Text
