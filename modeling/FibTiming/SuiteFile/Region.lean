import FibTiming.Text.Grapheme

/-!
# Places in a suite file

Lines and columns count from one, and a column is one character as a reader sees it.  A region runs from its first
character up to the place behind its last one.
-/

namespace FibTiming.SuiteFile

/-- A line and a column. -/
structure Position where
  line : Nat := 1
  column : Nat := 1
deriving Repr, DecidableEq, Inhabited

/-- The position behind a text that starts at `p`. -/
def Position.after (p : Position) (text : List Char) : Position :=
  (Text.clusters text).foldl
    (fun p c => if c = ['\n'] ∨ c = ['\r', '\n'] then ⟨p.line + 1, 1⟩ else ⟨p.line, p.column + 1⟩) p

/-- A stretch of a file. -/
structure Region where
  file : String
  start : Position
  stop : Position
deriving Repr, DecidableEq, Inhabited

namespace Region

/-- The region from the start of one to the end of another. -/
def upTo (a b : Region) : Region := ⟨a.file, a.start, b.stop⟩

/-- The file, the first line and column and the last column, with its line when it is another one. -/
def text (r : Region) : String :=
  let start := s!"{r.file}:{r.start.line},{r.start.column}-"
  if r.start.line = r.stop.line then start ++ s!"{r.stop.column}"
  else start ++ s!"{r.stop.line},{r.stop.column}"

end Region

end FibTiming.SuiteFile
