import FibTiming.Text.Grapheme

/-!
# Width on a terminal

The number of cells a line takes: wide characters and pictographs take two, marks and control characters none,
and escape sequences none.
-/

namespace FibTiming.Text

/-- The cells a character of class `k` takes by itself. -/
def charWidth (c : Char) (k : ClusterClass) : Nat :=
  match k with
  | .control | .carriageReturn | .lineFeed | .extend | .joiner => 0
  | .regional => 2
  | .pictograph => if emojiRanges.contains c then 2 else 1
  | _ =>
    if c.toNat = 0x2E3A then 3
    else if c.toNat = 0x2E3B then 4
    else if wideRanges.contains c then 2
    else 1

/-- The cells a cluster takes.  A variation selector after a pictograph decides between one and two cells; flags
and syllables take what their first character takes. -/
def clusterWidth : List Char → Nat
  | [] => 0
  | c :: rest =>
    let k := ClusterClass.of c
    let w := charWidth c k
    match k with
    | .pictograph =>
      rest.foldl (fun w d => if d.toNat = 0xFE0E then 1 else if d.toNat = 0xFE0F then 2 else w) w
    | .regional | .leading => w
    | _ => rest.foldl (fun w d => w + charWidth d (ClusterClass.of d)) w

/-- What of a line is left to read: plain text, or the inside of an escape sequence. -/
inductive EscapeState where
  | plain
  | escape
  | control
  | string
  | stringEscape
deriving Repr, DecidableEq, Inhabited

/-- The characters of a line that are not part of an escape sequence. -/
def visibleFrom : EscapeState → List Char → List Char
  | _, [] => []
  | .plain, c :: rest =>
    if c.toNat = 27 then visibleFrom .escape rest else c :: visibleFrom .plain rest
  | .escape, c :: rest =>
    if c = '[' then visibleFrom .control rest
    else if c = ']' ∨ c = 'P' ∨ c = 'X' ∨ c = '^' ∨ c = '_' then visibleFrom .string rest
    else if c.toNat = 27 then visibleFrom .escape rest
    else if 0x20 ≤ c.toNat ∧ c.toNat ≤ 0x2F then visibleFrom .escape rest
    else visibleFrom .plain rest
  | .control, c :: rest =>
    if c.toNat = 27 then visibleFrom .escape rest
    else if 0x40 ≤ c.toNat ∧ c.toNat ≤ 0x7E then visibleFrom .plain rest
    else visibleFrom .control rest
  | .string, c :: rest =>
    if c.toNat = 7 then visibleFrom .plain rest
    else if c.toNat = 27 then visibleFrom .stringEscape rest
    else visibleFrom .string rest
  | .stringEscape, c :: rest =>
    if c = '\\' then visibleFrom .plain rest else visibleFrom .string rest

/-- The number of cells a line takes. -/
def lineWidth (line : List Char) : Nat :=
  ((clusters (visibleFrom .plain line)).map clusterWidth).foldl (· + ·) 0

end FibTiming.Text
