import FibTiming.Report.Scalar
import Mathlib.Data.List.Basic

/-!
# Reading scalars

A reader for the scalars of reports, in whatever style they are written.  It gives back every text, with one exception
(`readScalar_scalarLine`): a block takes the end of its first line from a text that starts with a line feed, so the
line feed is lost, and when a blank and further lines follow, nothing else shows that it was there.
-/

namespace FibTiming.Report

def ahead (c : Char) (p : List Char × List Char) : List Char × List Char := (c :: p.1, p.2)

/-! ### Single quotes -/

/-- The text up to a single quote and what stands behind it.  The next `skip` characters do not count, and neither does
the indentation where a line is `fresh`; a quote that is written twice belongs to the text. -/
def readSingleQuoted : (skip : Nat) → (fresh : Bool) → List Char → Option (List Char × List Char)
  | _, _, [] => none
  | skip + 1, fresh, _ :: rest => readSingleQuoted skip fresh rest
  | 0, fresh, c :: rest =>
    if fresh && scalarIndent.isPrefixOf (c :: rest) then readSingleQuoted 5 false rest
    else if c = '\'' then
      if rest.head? = some '\'' then (readSingleQuoted 1 false rest).map (ahead '\'') else some ([], rest)
    else (readSingleQuoted 0 (isBreak c) rest).map (ahead c)

private theorem hasPair_cons {f g : Char → Bool} {c : Char} {s : List Char} (h : hasPair f g (c :: s) = false) :
    hasPair f g s = false ∧ (f c = true → ∀ d ∈ s.head?, g d = false) := by
  cases s with
  | nil => exact ⟨rfl, fun _ => by simp⟩
  | cons d s =>
    simp only [hasPair, Bool.or_eq_false_iff, Bool.and_eq_false_iff] at h
    refine ⟨h.2, fun hf e he => ?_⟩
    cases he
    simpa [hf] using h.1

private theorem isPrefixOf_scalarIndent_cons {c : Char} (h : c ≠ ' ') (rest : List Char) :
    scalarIndent.isPrefixOf (c :: rest) = false := by
  simp [scalarIndent, List.replicate, List.isPrefixOf, h.symm]

private theorem ne_of_isBreak {c d : Char} (hc : isBreak c = true) (hd : isBreak d = false) : c ≠ d := by
  rintro rfl
  simp [hc] at hd

private theorem readSingleQuoted_indent (rest : List Char) :
    readSingleQuoted 0 true (scalarIndent ++ rest) = readSingleQuoted 0 false rest := by
  simp [scalarIndent, List.replicate, readSingleQuoted, List.isPrefixOf]

private theorem readSingleQuoted_char {c : Char} (hc : isBreak c = false) (rest : List Char) :
    readSingleQuoted 0 false ((if c = '\'' then ['\'', '\''] else [c]) ++ rest) =
      (readSingleQuoted 0 false rest).map (ahead c) := by
  by_cases hquote : c = '\''
  · subst hquote
    simp [readSingleQuoted]
  · simp [readSingleQuoted, hquote, hc]

/-- The indentation is skipped exactly where it was put. -/
private theorem readSingleQuoted_singleQuotedFrom (fresh : Bool) {s : List Char}
    (hfirst : fresh = true → ∀ d ∈ s.head?, (d == ' ') = false) (hs : hasBlankAfterBreak s = false) (rest : List Char) :
    readSingleQuoted 0 fresh (singleQuotedFrom fresh s ++ '\'' :: '\n' :: rest) = some (s, '\n' :: rest) := by
  induction s generalizing fresh with
  | nil =>
    cases fresh <;> rfl
  | cons c s ih =>
    obtain ⟨hs', hpair⟩ := hasPair_cons hs
    have hnext (fresh : Bool) (hfresh : fresh = true → isBreak c = true) := ih fresh (fun h => hpair (hfresh h)) hs'
    unfold singleQuotedFrom
    by_cases hbreak : isBreak c = true
    · have hquote : c ≠ '\'' := ne_of_isBreak hbreak (by decide)
      have hblank : c ≠ ' ' := ne_of_isBreak hbreak (by decide)
      simp [readSingleQuoted, isPrefixOf_scalarIndent_cons hblank, hquote, hbreak, hnext true, ahead]
    · -- A text in single quotes has no blank at the start of a further line, so blanks there are the indentation.
      have hchar := readSingleQuoted_char (c := c) (by simpa using hbreak)
        (singleQuotedFrom false s ++ '\'' :: '\n' :: rest)
      rw [hnext false (by simp)] at hchar
      by_cases hblank : c = ' '
      · subst hblank
        have hfresh : fresh = false := by simpa using hfirst
        subst hfresh
        simpa [hbreak, ahead] using hchar
      · cases fresh with
        | false => simpa [hbreak, hblank, ahead] using hchar
        | true =>
          rw [if_neg hbreak, if_neg hblank, if_pos rfl, List.append_assoc, List.append_assoc, readSingleQuoted_indent]
          exact hchar

/-! ### Double quotes

The reader holds back a character until its letter or the last digit of its code has been read. -/

/-- Where the reader of a double quoted text stands: in the text, behind a backslash, or in a code, where `left` more
digits follow the next one. -/
inductive QuoteState where
  | text
  | escape
  | digits (left code : Nat)

/-- The number of digits behind the first one in a code with the given letter, if the letter announces a code. -/
def codeLength? (c : Char) : Option Nat := [('x', 1), ('u', 3), ('U', 7)].lookup c

/-- The character behind a letter that stands for a single one; every other letter stands for itself. -/
def letterCode (c : Char) : Nat :=
  ([('0', 0), ('a', 7), ('b', 8), ('t', 9), ('n', 10), ('v', 11), ('f', 12), ('r', 13), ('e', 0x1B), ('N', 0x85),
    ('_', 0xA0), ('L', 0x2028), ('P', 0x2029)].lookup c).getD c.toNat

def upperHexValue (c : Char) : Nat := if c.toNat < 65 then c.toNat - 48 else c.toNat - 55

def readDoubleQuoted : QuoteState → List Char → Option (List Char × List Char)
  | _, [] => none
  | .text, c :: rest =>
    if c = '"' then some ([], rest)
    else if c = '\\' then readDoubleQuoted .escape rest
    else (readDoubleQuoted .text rest).map (ahead c)
  | .escape, c :: rest =>
    match codeLength? c with
    | some left => readDoubleQuoted (.digits left 0) rest
    | none => (readDoubleQuoted .text rest).map (ahead (Char.ofNat (letterCode c)))
  | .digits left code, c :: rest =>
    let code := code * 16 + upperHexValue c
    if left = 0 then (readDoubleQuoted .text rest).map (ahead (Char.ofNat code))
    else readDoubleQuoted (.digits (left - 1) code) rest

private theorem upperHexValue_upperHexDigit {d : Nat} (h : d < 16) : upperHexValue (upperHexDigit d) = d := by
  decide +revert

private theorem readDoubleQuoted_digits (width left code : Nat) {n : Nat} (hn : n < Nat.pow 16 width)
    (rest : List Char) :
    readDoubleQuoted (.digits (width + left) code) (upperHex width n ++ rest) =
      readDoubleQuoted (.digits left (code * Nat.pow 16 width + n)) rest := by
  -- The last digit is the lowest, so the digits before it are read with one more to come.
  induction width generalizing n left rest with
  | zero =>
    obtain rfl : n = 0 := Nat.lt_one_iff.mp hn
    simp [upperHex]
  | succ width ih =>
    have hpow : Nat.pow 16 (width + 1) = Nat.pow 16 width * 16 := rfl
    have hhigh : n / 16 < Nat.pow 16 width := by omega
    have hsum : (code * Nat.pow 16 width + n / 16) * 16 + n % 16 = code * Nat.pow 16 (width + 1) + n := by
      rw [hpow, ← Nat.mul_assoc]
      omega
    have hdigits := ih (left + 1) hhigh (upperHexDigit (n % 16) :: rest)
    rw [show width + (left + 1) = width + 1 + left by omega] at hdigits
    rw [upperHex, List.append_assoc, List.singleton_append, hdigits, readDoubleQuoted,
      upperHexValue_upperHexDigit (Nat.mod_lt n (by omega)), hsum]
    simp

private theorem readDoubleQuoted_code (width : Nat) {c : Char} (h : c.toNat < Nat.pow 16 (width + 1))
    (rest : List Char) :
    readDoubleQuoted (.digits width 0) (upperHex (width + 1) c.toNat ++ rest) =
      (readDoubleQuoted .text rest).map (ahead c) := by
  have hpow : Nat.pow 16 (width + 1) = Nat.pow 16 width * 16 := rfl
  have hhigh : c.toNat / 16 < Nat.pow 16 width := by omega
  have hsum : c.toNat / 16 * 16 + c.toNat % 16 = c.toNat := by omega
  have hdigits := readDoubleQuoted_digits width 0 0 hhigh (upperHexDigit (c.toNat % 16) :: rest)
  rw [Nat.add_zero] at hdigits
  rw [upperHex, List.append_assoc, List.singleton_append, hdigits, readDoubleQuoted,
    upperHexValue_upperHexDigit (Nat.mod_lt _ (by omega))]
  simp [hsum, Char.ofNat_toNat]

private theorem letterCode_of_escapeLetter? {n : Nat} {l : Char} (h : escapeLetter? n = some l) :
    codeLength? l = none ∧ letterCode l = n := by
  obtain ⟨before, after, htable, -⟩ := List.lookup_eq_some_iff.mp h
  have hmem := List.mem_append_right before (List.mem_cons_self (a := (n, l)) (l := after))
  rw [← htable] at hmem
  simp only [List.mem_cons, Prod.mk.injEq, List.not_mem_nil, or_false] at hmem
  rcases hmem with h | h | h | h | h | h | h | h | h | h | h | h | h | h | h <;> (rw [h.1, h.2]; decide)

private theorem readDoubleQuoted_char (c : Char) (rest : List Char) :
    readDoubleQuoted .text (doubleQuotedChar c ++ rest) = (readDoubleQuoted .text rest).map (ahead c) := by
  simp only [doubleQuotedChar]
  split
  next hplain =>
    simp only [Bool.and_eq_true, bne_iff_ne, ne_eq] at hplain
    simp [readDoubleQuoted, hplain.1.2, hplain.2]
  next =>
    cases hletter : escapeLetter? c.toNat with
    | some l =>
      obtain ⟨hcode, hl⟩ := letterCode_of_escapeLetter? hletter
      simp [readDoubleQuoted, hcode, hl, Char.ofNat_toNat]
    | none =>
      have hrange : c.toNat < 0x110000 := by
        have hvalid := c.valid
        simp only [UInt32.isValidChar, Nat.isValidChar] at hvalid
        rw [Char.toNat]
        omega
      simp only
      split_ifs with hsmall hmiddle
      · exact readDoubleQuoted_code 1 (show c.toNat < 0x100 by omega) rest
      · exact readDoubleQuoted_code 3 (show c.toNat < 0x10000 by omega) rest
      · exact readDoubleQuoted_code 7 (show c.toNat < 0x100000000 by omega) rest

private theorem readDoubleQuoted_flatMap (s rest : List Char) :
    readDoubleQuoted .text (s.flatMap doubleQuotedChar ++ '"' :: rest) = some (s, rest) := by
  induction s with
  | nil => simp [readDoubleQuoted]
  | cons c s ih =>
    rw [List.flatMap_cons, List.append_assoc, readDoubleQuoted_char, ih]
    rfl

/-! ### Blocks of lines -/

/-- The lines of a block without their indentation, and what stands behind the block.  The next `skip` characters do not
count. -/
def takeBlock : (skip : Nat) → (fresh : Bool) → List Char → List Char × List Char
  | _, _, [] => ([], [])
  | skip + 1, fresh, _ :: rest => takeBlock skip fresh rest
  | 0, fresh, c :: rest =>
    if isBreak c then ahead c (takeBlock 0 true rest)
    else if !fresh then ahead c (takeBlock 0 false rest)
    else if scalarIndent.isPrefixOf (c :: rest) then takeBlock 5 false rest
    else ([], c :: rest)

/-- Whether nothing of what stands behind a block could belong to it. -/
def EndsBlock (rest : List Char) : Prop := takeBlock 0 true rest = ([], rest)

private theorem takeBlock_indent (rest : List Char) :
    takeBlock 0 true (scalarIndent ++ rest) = takeBlock 0 false rest := by
  simp [scalarIndent, List.replicate, takeBlock, List.isPrefixOf, show isBreak ' ' = false by decide]

def endsLine (fresh : Bool) : List Char → Bool
  | [] => fresh
  | c :: s => endsLine (isBreak c) s

private theorem takeBlock_blockFrom (fresh : Bool) (s : List Char) {rest : List Char} (hrest : EndsBlock rest) :
    takeBlock 0 fresh (blockFrom fresh fresh s ++ rest) = (s ++ (if endsLine fresh s then [] else ['\n']), rest) := by
  -- In `blockFrom` the two flags differ at the start only, before the line of the sign has ended.
  induction s generalizing fresh with
  | nil =>
    cases fresh with
    | true => simpa [blockFrom, endsLine] using show takeBlock 0 true rest = ([], rest) from hrest
    | false =>
      have hstep : takeBlock 0 false ('\n' :: rest) = ahead '\n' (takeBlock 0 true rest) := rfl
      rw [EndsBlock] at hrest
      simp [blockFrom, endsLine, hstep, hrest, ahead]
  | cons c s ih =>
    by_cases hbreak : isBreak c = true
    · have hnext := ih true
      simp [blockFrom, takeBlock, endsLine, hbreak, hnext, ahead]
    · have hchar : takeBlock 0 false (c :: (blockFrom false false s ++ rest)) =
          ahead c (s ++ (if endsLine false s then [] else ['\n']), rest) := by
        simp [takeBlock, hbreak, ih]
      cases fresh with
      | false => simpa [blockFrom, endsLine, hbreak, ahead] using hchar
      | true =>
        rw [blockFrom, if_neg hbreak, if_pos rfl, if_pos rfl, List.nil_append, List.append_assoc, takeBlock_indent,
          List.cons_append, hchar]
        simp [endsLine, hbreak, ahead]

/-- The end of the first line of a block and the text of the others.  A text that starts with a line end does not get
one of its own. -/
def openBlock : List Char → Char × List Char
  | [] => ('\n', [])
  | c :: s => if isBreak c then (c, s) else ('\n', c :: s)

private theorem isBreak_openBlock (s : List Char) : isBreak (openBlock s).1 = true := by
  cases s with
  | nil => rfl
  | cons c s =>
    by_cases hbreak : isBreak c = true
    · simp [openBlock, hbreak]
    · simpa [openBlock, hbreak] using show isBreak '\n' = true from rfl

private theorem blockFrom_openBlock {s : List Char} (hs : s ≠ []) :
    blockFrom true false s = (openBlock s).1 :: blockFrom true true (openBlock s).2 := by
  cases s with
  | nil => contradiction
  | cons c s =>
    by_cases hbreak : isBreak c = true <;> simp [openBlock, blockFrom, hbreak]

private theorem endsLine_openBlock {s : List Char} (hs : s ≠ []) :
    endsLine true (openBlock s).2 = endsLine false s := by
  cases s with
  | nil => contradiction
  | cons c s =>
    by_cases hbreak : isBreak c = true <;> simp [openBlock, endsLine, hbreak]

private theorem endsLine_concat (fresh : Bool) (s : List Char) (c : Char) : endsLine fresh (s ++ [c]) = isBreak c := by
  induction s generalizing fresh with
  | nil => rfl
  | cons d s ih => exact ih (isBreak d)

/-- The sign of a text says whether its last line has ended, and whether the line before is an empty one. -/
private theorem chomping_concat (s : List Char) (c : Char) :
    chomping (s ++ [c]) = if isBreak c then if endsLine true s then ['+'] else [] else ['-'] := by
  rcases List.eq_nil_or_concat s with rfl | ⟨t, d, rfl⟩
  · rfl
  · rw [List.concat_eq_append, endsLine_concat]
    simp only [chomping, List.reverse_append, List.reverse_singleton, List.singleton_append, Bool.not_eq_true']
    by_cases hbreak : isBreak c = true <;> simp [hbreak]

/-- Whether the sign of a block says how deep its lines are indented, and what stands behind that. -/
def readHint : List Char → Bool × List Char
  | '2' :: rest => (true, rest)
  | rest => (false, rest)

/-- Whether the sign of a block says that its last line end is not part of the text, and what stands behind that. -/
def readChomping : List Char → Bool × List Char
  | '-' :: rest => (true, rest)
  | '+' :: rest => (false, rest)
  | rest => (false, rest)

private theorem readChomping_chomping (s : List Char) {b : Char} (hb : isBreak b = true) (rest : List Char) :
    readChomping (chomping s ++ b :: rest) = (!endsLine false s, b :: rest) := by
  have hminus : b ≠ '-' := ne_of_isBreak hb (by decide)
  have hplus : b ≠ '+' := ne_of_isBreak hb (by decide)
  rcases List.eq_nil_or_concat s with rfl | ⟨t, c, rfl⟩
  · rfl
  · rw [List.concat_eq_append, endsLine_concat, chomping_concat]
    split_ifs <;> simp [readChomping, *]

private theorem readHint_indentHint (s : List Char) {b : Char} (hb : isBreak b = true) (rest : List Char) :
    readHint (indentHint s ++ chomping s ++ b :: rest) = (!(indentHint s).isEmpty, chomping s ++ b :: rest) := by
  have htwo : b ≠ '2' := ne_of_isBreak hb (by decide)
  have hplain : readHint (chomping s ++ b :: rest) = (false, chomping s ++ b :: rest) := by
    rcases List.eq_nil_or_concat s with rfl | ⟨t, c, rfl⟩
    · rfl
    · rw [List.concat_eq_append, chomping_concat]
      split_ifs <;> simp [readHint, htwo]
  have hhint : indentHint s = ['2'] ∨ indentHint s = [] := by
    cases s with
    | nil => exact .inr rfl
    | cons c s => by_cases hc : c = ' ' ∨ isBreak c = true <;> simp [indentHint, hc]
  rcases hhint with h | h
  · rw [h]
    rfl
  · simpa [h] using hplain

/-- The text of a block.  Its first line end belongs to the text where it is not a line feed; where it is one, nothing
but the sign tells, and nothing at all when the sign has another reason. -/
def blockText (hinted : Bool) (lineEnd : Char) (lines : List Char) : List Char :=
  if lineEnd = '\n' ∧ (hinted = false ∨ (lines.head? = some ' ' ∧ '\n' ∈ lines)) then lines else lineEnd :: lines

/-- The text of a block, given what stands behind its bar, and what stands behind the block. -/
def readBlock (cs : List Char) : Option (List Char × List Char) :=
  let (hinted, cs) := readHint cs
  let (chomped, cs) := readChomping cs
  match cs with
  | [] => none
  | b :: cs =>
    let (lines, rest) := takeBlock 0 true cs
    some (blockText hinted b (if chomped then lines.dropLast else lines), rest)

/-- Whether the line feed at the start of a text cannot be seen in its block. -/
def hidesLineFeed (s : List Char) : Bool :=
  s.head? == some '\n' && s.tail.head? == some ' ' && s.tail.contains '\n'

private theorem blockText_openBlock {s : List Char} (hs : '\n' ∈ s) :
    blockText (!(indentHint s).isEmpty) (openBlock s).1 (openBlock s).2 = if hidesLineFeed s then s.tail else s := by
  cases s with
  | nil => contradiction
  | cons c s =>
    by_cases hbreak : isBreak c = true
    · simp [openBlock, hbreak, indentHint, blockText, hidesLineFeed, and_assoc]
    · have hfeed : c ≠ '\n' := by
        rintro rfl
        exact hbreak rfl
      simp [openBlock, hbreak, indentHint, blockText, hidesLineFeed, hfeed, hs, ne_or_eq]

private theorem readBlock_block {s : List Char} (hs : '\n' ∈ s) {rest : List Char} (hrest : EndsBlock rest) :
    readBlock ((block s).tail ++ rest) = some (if hidesLineFeed s then s.tail else s, rest) := by
  have hne : s ≠ [] := List.ne_nil_of_mem hs
  have hbreak := isBreak_openBlock s
  have hlines := takeBlock_blockFrom true (openBlock s).2 hrest
  rw [endsLine_openBlock hne] at hlines
  rw [← blockText_openBlock hs]
  simp only [block, List.cons_append, List.tail_cons, blockFrom_openBlock hne, List.append_assoc]
  rw [readBlock, ← List.append_assoc, readHint_indentHint s hbreak]
  simp only [readChomping_chomping s hbreak, hlines]
  by_cases hends : endsLine false s = true <;> simp [hends]

/-! ### Scalars -/

def endLine : List Char × List Char → Option (List Char × List Char)
  | (text, '\n' :: rest) => some (text, rest)
  | _ => none

def readLine (cs : List Char) : Option (List Char × List Char) :=
  endLine (cs.takeWhile (· ≠ '\n'), cs.dropWhile (· ≠ '\n'))

theorem readLine_append {s : List Char} (hs : '\n' ∉ s) (rest : List Char) :
    readLine (s ++ '\n' :: rest) = some (s, rest) := by
  have hplain : ∀ c ∈ s, decide (c ≠ '\n') = true := fun c hc => by
    simpa using ne_of_mem_of_not_mem hc hs
  rw [readLine, List.takeWhile_append_of_pos hplain, List.dropWhile_append_of_pos hplain]
  simp [endLine]

/-- The text of a scalar, and what stands behind the end of its last line. -/
def readScalar : List Char → Option (List Char × List Char)
  | '"' :: rest => (readDoubleQuoted .text rest).bind endLine
  | '\'' :: rest => (readSingleQuoted 0 false rest).bind endLine
  | '|' :: rest => readBlock rest
  | cs => readLine cs

/-- What can be read back of a text: all of it, but for a line feed that its block hides. -/
def readBack (s : String) : String :=
  if styleOf s = .block ∧ hidesLineFeed s.toList then String.ofList s.toList.tail else s

private theorem styleOf_eq_block_iff {s : String} : styleOf s = .block ↔
    '\n' ∈ s.toList ∧ s.toList.getLast? ≠ some ' ' ∧ hasBlankBeforeBreak s.toList = false
      ∧ hasUnshown s.toList = false := by
  simp only [styleOf, List.contains_iff_mem]
  grind

theorem canBeBare_of_styleOf_eq_bare {s : String} (h : styleOf s = .bare) : canBeBare s.toList = true := by
  simp only [styleOf] at h
  grind

private theorem hasBlankAfterBreak_of_styleOf_eq_singleQuoted {s : String} (h : styleOf s = .singleQuoted) :
    hasBlankAfterBreak s.toList = false := by
  simp only [styleOf] at h
  grind

/-- A bare text is on one line and does not start like a text in another style. -/
private theorem readScalar_bare {s : List Char} (h : canBeBare s = true) (rest : List Char) :
    readScalar (s ++ '\n' :: rest) = some (s, rest) := by
  cases s with
  | nil => contradiction
  | cons c s =>
    simp only [canBeBare, startsIndicator, Bool.and_eq_true, Bool.not_eq_true', Bool.or_eq_false_iff] at h
    obtain ⟨⟨⟨⟨⟨⟨-, hstart⟩, -⟩, -⟩, -⟩, hbreak⟩, -⟩ := h
    have hfeed : '\n' ∉ c :: s := fun hmem => by
      have := List.any_eq_false.mp hbreak _ hmem
      contradiction
    have hother : c ≠ '"' ∧ c ≠ '\'' ∧ c ≠ '|' := by
      refine ⟨?_, ?_, ?_⟩ <;> (rintro rfl; exact absurd hstart.1 (by decide))
    rw [← readLine_append hfeed]
    simp [readScalar, hother]

/-- Every text is read back from its scalar, but for a line feed that its block hides. -/
theorem readScalar_scalarLine (s : String) {rest : List Char} (hrest : EndsBlock rest) :
    readScalar (scalarLine s ++ rest) = some ((readBack s).toList, rest) := by
  unfold scalarLine
  cases hstyle : styleOf s with
  | bare =>
    rw [List.append_assoc, List.singleton_append, readScalar_bare (canBeBare_of_styleOf_eq_bare hstyle)]
    simp [readBack, hstyle]
  | singleQuoted =>
    have hread := readSingleQuoted_singleQuotedFrom false (s := s.toList) (by simp)
      (hasBlankAfterBreak_of_styleOf_eq_singleQuoted hstyle) rest
    simp [singleQuoted, readScalar, hread, endLine, readBack, hstyle]
  | doubleQuoted =>
    have hread := readDoubleQuoted_flatMap s.toList ('\n' :: rest)
    simp [doubleQuoted, readScalar, hread, endLine, readBack, hstyle]
  | block =>
    have hread := readBlock_block (styleOf_eq_block_iff.mp hstyle).1 hrest
    have hbar : block s.toList ++ rest = '|' :: ((block s.toList).tail ++ rest) := rfl
    simp only [hbar, readScalar, hread, readBack, hstyle]
    split_ifs <;> simp_all

private theorem chomping_lineFeed_cons {s : List Char} (hs : s ≠ []) : chomping ('\n' :: s) = chomping s := by
  obtain ⟨t, c, rfl⟩ := (List.eq_nil_or_concat s).resolve_left hs
  rw [List.concat_eq_append, ← List.cons_append, chomping_concat, chomping_concat]
  rfl

/-- The block of a text that starts with a blank does not change when a line feed is put before it. -/
private theorem block_lineFeed_cons {s : List Char} (hs : s.head? = some ' ') : block ('\n' :: s) = block s := by
  cases s with
  | nil => contradiction
  | cons c s =>
    obtain rfl : c = ' ' := by simpa using hs
    rw [block, block, chomping_lineFeed_cons (List.cons_ne_nil _ _), blockFrom_openBlock (List.cons_ne_nil _ _),
      blockFrom_openBlock (List.cons_ne_nil _ _)]
    rfl

private theorem hidesLineFeed_iff {s : List Char} :
    hidesLineFeed s = true ↔ ∃ t, s = '\n' :: t ∧ t.head? = some ' ' ∧ '\n' ∈ t := by
  cases s <;> simp [hidesLineFeed, and_assoc]

/-- What a text is written as does not depend on what cannot be read back. -/
theorem scalarLine_readBack (s : String) : scalarLine (readBack s) = scalarLine s := by
  by_cases h : styleOf s = .block ∧ hidesLineFeed s.toList = true
  · obtain ⟨hstyle, hhides⟩ := h
    obtain ⟨t, hs, hblank, hfeed⟩ := hidesLineFeed_iff.mp hhides
    have htail : styleOf (String.ofList t) = .block := by
      rw [styleOf_eq_block_iff, hs] at hstyle
      obtain ⟨-, hlast, hpair, hshown⟩ := hstyle
      rw [hasUnshown, List.any_cons, Bool.or_eq_false_iff] at hshown
      rw [styleOf_eq_block_iff, String.toList_ofList]
      refine ⟨hfeed, fun hend => hlast ?_, (hasPair_cons hpair).1, hshown.2⟩
      simp [List.getLast?_cons, hend]
    rw [readBack, if_pos ⟨hstyle, hhides⟩, scalarLine, scalarLine, hs, List.tail_cons, htail, hstyle]
    simpa using (block_lineFeed_cons hblank).symm
  · rw [readBack, if_neg h]

theorem readBack_eq_self_iff {s : String} :
    readBack s = s ↔ (styleOf s = .block → hidesLineFeed s.toList = false) := by
  by_cases h : styleOf s = .block ∧ hidesLineFeed s.toList = true
  · obtain ⟨t, hs, -, -⟩ := hidesLineFeed_iff.mp h.2
    have hshorter : String.ofList s.toList.tail ≠ s := by
      intro hsame
      have hlength := congrArg (·.toList.length) hsame
      simp [hs] at hlength
    simp [readBack, h, hshorter]
  · have hkept : styleOf s = .block → hidesLineFeed s.toList = false := by simpa using h
    simpa [readBack, h] using hkept

theorem readBack_eq_empty_iff {s : String} : readBack s = "" ↔ s = "" := by
  unfold readBack
  split
  next h =>
    obtain ⟨t, hs, hblank, -⟩ := hidesLineFeed_iff.mp h.2
    rw [← String.toList_eq_nil_iff, ← String.toList_eq_nil_iff, String.toList_ofList, hs, List.tail_cons]
    constructor
    · rintro rfl
      contradiction
    · intro hempty
      contradiction
  next => rfl

end FibTiming.Report
