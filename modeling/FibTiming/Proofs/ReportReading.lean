import FibTiming.Proofs.ScalarReading
import FibTiming.Report.Document

/-!
# Reading reports

A reader for reports, field by field and record by record.  It gives back the whole report but for the line feeds that
blocks hide (`Document.read_render`), and these do not change the text of the report (`Document.render_readBack`).  So
two reports have the same text exactly when the same can be read back of them (`Document.render_eq_iff`).
-/

namespace FibTiming.Report

/-! ### Fields

A field is read by its kind: a text as a scalar, an integer or a truth value up to the end of the line. -/

inductive Kind where
  | text
  | int
  | flag

def Field.kind : Field → Kind
  | text _ => .text
  | int _ => .int
  | flag _ => .flag

/-- What can be read back of a field. -/
def Field.readBack : Field → Field
  | text s => text (Report.readBack s)
  | int n => int n
  | flag b => flag b

def readInt : List Char → Int
  | '-' :: digits => -(Nat.ofDigitChars 10 digits 0 : Int)
  | digits => (Nat.ofDigitChars 10 digits 0 : Int)

def readFlag (cs : List Char) : Bool := cs == (flagText true).toList

/-- Reads a field of a kind. -/
def Kind.read : Kind → List Char → Option (Field × List Char)
  | text, cs => (readScalar cs).map fun p => (.text (String.ofList p.1), p.2)
  | int, cs => (readLine cs).map fun p => (.int (readInt p.1), p.2)
  | flag, cs => (readLine cs).map fun p => (.flag (readFlag p.1), p.2)

private theorem not_mem_toDigits {c : Char} (hc : c.isDigit = false) (n : Nat) : c ∉ Nat.toDigits 10 n := by
  intro hmem
  have hdigit := Nat.isDigit_of_mem_toDigits (by omega) (by omega) hmem
  simp [hc] at hdigit

private theorem readInt_toDigits (n : Nat) : readInt (Nat.toDigits 10 n) = n := by
  have hminus := not_mem_toDigits (c := '-') rfl n
  have hvalue := Nat.ofDigitChars_toDigits (b := 10) (n := n) (by omega) (by omega)
  unfold readInt
  split
  next h => simp [h] at hminus
  next => rw [hvalue]

private theorem readInt_repr (n : Int) : readInt n.repr.toList = n := by
  cases n with
  | ofNat m => simpa [Int.repr] using readInt_toDigits m
  | negSucc m =>
    have hvalue := Nat.ofDigitChars_toDigits (b := 10) (n := m.succ) (by omega) (by omega)
    simp [Int.repr, readInt, hvalue, Int.negSucc_eq]

private theorem lineFeed_not_mem_repr (n : Int) : '\n' ∉ n.repr.toList := by
  cases n with
  | ofNat m => simpa [Int.repr] using not_mem_toDigits (c := '\n') rfl m
  | negSucc m => simpa [Int.repr] using not_mem_toDigits (c := '\n') rfl m.succ

private theorem readFlag_flagText (b : Bool) : readFlag (flagText b).toList = b := by
  cases b <;> rfl

private theorem lineFeed_not_mem_flagText (b : Bool) : '\n' ∉ (flagText b).toList := by
  cases b <;> decide

private theorem Field.read_line (f : Field) {rest : List Char} (hrest : EndsBlock rest) :
    f.kind.read (f.line ++ rest) = some (f.readBack, rest) := by
  cases f with
  | text s => simp [Field.kind, Kind.read, Field.line, readScalar_scalarLine s hrest, Field.readBack]
  | int n =>
    have hline := readLine_append (lineFeed_not_mem_repr n) rest
    simp [Field.kind, Kind.read, Field.line, hline, readInt_repr, Field.readBack]
  | flag b =>
    have hline := readLine_append (lineFeed_not_mem_flagText b) rest
    simp [Field.kind, Kind.read, Field.line, hline, readFlag_flagText, Field.readBack]

private theorem Field.line_readBack (f : Field) : f.readBack.line = f.line := by
  cases f with
  | text s => exact scalarLine_readBack s
  | int n => rfl
  | flag b => rfl

/-! ### Fields below each other

All fields of a record have the same indentation, which is less than that of the lines of a block. -/

def fieldIndent : List Char := "    ".toList

/-- The text before the value of a field. -/
def fieldLabel (name : String) : List Char := (scalarLine name).dropLast ++ [':', ' ']

def below (fs : List (String × Field)) : List Char := fs.flatMap fun f => fieldIndent ++ fieldLine f

private theorem below_cons (f : String × Field) (fs : List (String × Field)) :
    below (f :: fs) = fieldIndent ++ fieldLabel f.1 ++ (f.2.line ++ below fs) := by
  simp [below, fieldLine, fieldLabel]

/-- Reads fields below each other. -/
def readFields : List (String × Kind) → List Char → Option (List Field × List Char)
  | [], cs => some ([], cs)
  | (name, kind) :: schema, cs => do
    let cs ← cs.dropPrefix? (fieldIndent ++ fieldLabel name)
    let (field, cs) ← kind.read cs
    let (fields, cs) ← readFields schema cs
    return (field :: fields, cs)

private theorem head?_scalarLine (s : String) : (scalarLine s).head? ≠ some ' ' := by
  unfold scalarLine
  cases hstyle : styleOf s with
  | bare =>
    have hbare := canBeBare_of_styleOf_eq_bare hstyle
    cases hs : s.toList with
    | nil => simp
    | cons c cs =>
      simp only [hs, canBeBare, Bool.and_eq_true, bne_iff_ne] at hbare
      simp [hbare]
  | singleQuoted => simp [singleQuoted]
  | doubleQuoted => simp [doubleQuoted]
  | block => simp [block]

private theorem exists_fieldLabel_cons (name : String) : ∃ c cs, c ≠ ' ' ∧ fieldLabel name = c :: cs := by
  have hhead := head?_scalarLine name
  unfold fieldLabel
  rcases hline : scalarLine name with _ | ⟨c, _ | ⟨d, cs⟩⟩
  · exact ⟨':', [' '], by decide, rfl⟩
  · exact ⟨':', [' '], by decide, rfl⟩
  · exact ⟨c, _, by simpa [hline] using hhead, rfl⟩

/-- A field is not indented deeply enough to belong to a block before it. -/
private theorem endsBlock_below (fs : List (String × Field)) {rest : List Char} (hrest : EndsBlock rest) :
    EndsBlock (below fs ++ rest) := by
  cases fs with
  | nil => exact hrest
  | cons f fs =>
    obtain ⟨c, cs, hc, hlabel⟩ := exists_fieldLabel_cons f.1
    rw [below_cons, hlabel]
    simp [EndsBlock, fieldIndent, takeBlock, scalarIndent, List.replicate, List.isPrefixOf, hc.symm,
      show isBreak ' ' = false by decide]

private theorem dropPrefix?_append (s rest : List Char) : (s ++ rest).dropPrefix? s = some rest :=
  List.dropPrefix?_append_of_beq rest (by simp)

private theorem readFields_below (fs : List (String × Field)) {rest : List Char} (hrest : EndsBlock rest) :
    readFields (fs.map fun f => (f.1, f.2.kind)) (below fs ++ rest) = some (fs.map (·.2.readBack), rest) := by
  induction fs with
  | nil => rfl
  | cons f fs ih =>
    have hvalue := f.2.read_line (endsBlock_below fs hrest)
    rw [below_cons, List.append_assoc _ (f.2.line ++ below fs), List.append_assoc f.2.line, List.map_cons, readFields,
      dropPrefix?_append]
    simp [hvalue, ih]

private theorem below_readBack (fs : List (String × Field)) :
    below (fs.map fun f => (f.1, f.2.readBack)) = below fs := by
  simp [below, fieldLine, List.flatMap_map, Field.line_readBack]

/-! ### Records -/

namespace Record

def texts (r : Record) : List String := [r.name, r.algorithm, r.unit, r.clock, r.error]

/-- What can be read back of a record. -/
def readBack (r : Record) : Record :=
  { r with
    name := Report.readBack r.name
    algorithm := Report.readBack r.algorithm
    unit := Report.readBack r.unit
    clock := Report.readBack r.clock
    error := Report.readBack r.error }

private theorem readBack_eq_self_iff (r : Record) :
    r.readBack = r ↔ ∀ s ∈ r.texts, styleOf s = .block → hidesLineFeed s.toList = false := by
  simp only [← Report.readBack_eq_self_iff]
  cases r
  simp [readBack, texts]

/-- The fields of a record that has no error. -/
def required (r : Record) : List (String × Field) := { r with error := "" }.fields

/-- The field of an error, if there is one. -/
def optional (r : Record) : List (String × Field) := if r.error = "" then [] else [("error", .text r.error)]

def schema : List (String × Kind) := (default : Record).required.map fun f => (f.1, f.2.kind)

/-- The record with the given fields and error. -/
def ofFields? : List Field → (error : String) → Option Record
  | [.text name, .text algorithm, .int n, .int expect, .int got, .flag passed, .text unit, .text clock, .int elapsed,
      .int least, .int mean, .int runs], error =>
    some { name, algorithm, n, expect := .ofNat expect.toNat, got := .ofNat got.toNat, passed, unit, clock
           elapsed := .ofInt elapsed, least := .ofInt least, mean := .ofInt mean, runs, error }
  | _, _ => none

/-- Reads the field of an error, if there is one. -/
def readError (cs : List Char) : String × List Char :=
  match readFields [("error", .text)] cs with
  | some ([.text error], rest) => (error, rest)
  | _ => ("", cs)

def dash : List Char := "  - ".toList

/-- Reads a record. -/
def read (cs : List Char) : Option (Record × List Char) := do
  let cs ← cs.dropPrefix? dash
  let (fields, cs) ← readFields schema (fieldIndent ++ cs)
  let (error, cs) := readError cs
  let r ← ofFields? fields error
  return (r, cs)

private theorem fields_eq (r : Record) : r.fields = r.required ++ r.optional := by
  simp [fields, required, optional]

private theorem required_schema (r : Record) : (r.required.map fun f => (f.1, f.2.kind)) = schema := by
  simp [schema, required, fields, Field.kind]

private theorem ofFields?_required (r : Record) :
    ofFields? (r.required.map (·.2.readBack)) (Report.readBack r.error) = some r.readBack := by
  simp [required, fields, Field.readBack, ofFields?, readBack]

/-- What may stand behind a record: nothing, or another one. -/
def Ends (rest : List Char) : Prop := rest = [] ∨ ∃ more, rest = dash ++ more

private theorem Ends.endsBlock {rest : List Char} (h : Ends rest) : EndsBlock rest := by
  rcases h with rfl | ⟨more, rfl⟩ <;> rfl

private theorem Ends.readError {rest : List Char} (h : Ends rest) : readError rest = ("", rest) := by
  rcases h with rfl | ⟨more, rfl⟩ <;> rfl

private theorem readError_optional (r : Record) {rest : List Char} (hrest : Ends rest) :
    readError (below r.optional ++ rest) = (Report.readBack r.error, rest) := by
  by_cases herror : r.error = ""
  · rw [optional, if_pos herror, readBack_eq_empty_iff.mpr herror]
    exact hrest.readError
  · have hread := readFields_below [("error", .text r.error)] hrest.endsBlock
    rw [optional, if_neg herror, readError]
    simp only [List.map_cons, List.map_nil, Field.kind] at hread
    rw [hread]
    rfl

private theorem exists_lines (r : Record) : ∃ cs, r.lines = dash ++ cs ∧ fieldIndent ++ cs = below r.fields :=
  ⟨_, rfl, rfl⟩

private theorem read_lines (r : Record) {rest : List Char} (hrest : Ends rest) :
    read (r.lines ++ rest) = some (r.readBack, rest) := by
  obtain ⟨cs, hlines, hbelow⟩ := r.exists_lines
  have hfields := readFields_below r.required (endsBlock_below r.optional hrest.endsBlock)
  rw [required_schema] at hfields
  -- The first field stands behind a dash instead of blanks; with the blanks put back, all fields look alike.
  have hsplit : fieldIndent ++ (cs ++ rest) = below r.required ++ (below r.optional ++ rest) := by
    rw [← List.append_assoc, hbelow, fields_eq, below, List.flatMap_append, List.append_assoc]
    rfl
  rw [hlines, List.append_assoc, read, dropPrefix?_append]
  simp [hsplit, hfields, readError_optional r hrest, ofFields?_required]

private theorem fields_readBack (r : Record) : r.readBack.fields = r.fields.map fun f => (f.1, f.2.readBack) := by
  by_cases herror : r.error = "" <;> simp [fields, readBack, Field.readBack, readBack_eq_empty_iff, herror]

private theorem lines_readBack (r : Record) : r.readBack.lines = r.lines := by
  obtain ⟨cs, hlines, hbelow⟩ := r.exists_lines
  obtain ⟨cs', hlines', hbelow'⟩ := r.readBack.exists_lines
  rw [fields_readBack, below_readBack, ← hbelow] at hbelow'
  rw [hlines, hlines', List.append_cancel_left hbelow']

end Record

/-! ### Reports -/

namespace Document

/-- What can be read back of a report. -/
def readBack (d : Document) : Document := { d with records := d.records.map Record.readBack }

/-- Reads records up to the end, at most `fuel` of them. -/
def readRecords : (fuel : Nat) → List Char → Option (List Record)
  | _, [] => some []
  | 0, _ :: _ => none
  | fuel + 1, c :: cs => do
    let (r, rest) ← Record.read (c :: cs)
    let rs ← readRecords fuel rest
    return r :: rs

/-- Reads the records of a report, given what stands behind their name. -/
def readResults (cs : List Char) : Option (List Record) :=
  if cs = " []\n".toList then some []
  else (cs.dropPrefix? ['\n']).bind fun cs => readRecords cs.length cs

/-- The report with the given text. -/
def read (s : String) : Option Document := do
  let cs ← s.toList.dropPrefix? "passed: ".toList
  let (passed, cs) ← readLine cs
  let cs ← cs.dropPrefix? "results:".toList
  let records ← readResults cs
  return ⟨readFlag passed, records⟩

private theorem ends_lines (rs : List Record) : Record.Ends (rs.flatMap Record.lines) := by
  cases rs with
  | nil => exact .inl rfl
  | cons r rs =>
    obtain ⟨cs, hlines, -⟩ := r.exists_lines
    refine .inr ⟨cs ++ rs.flatMap Record.lines, ?_⟩
    rw [List.flatMap_cons, hlines, List.append_assoc]

private theorem readRecords_lines {fuel : Nat} {rs : List Record} (hfuel : (rs.flatMap Record.lines).length ≤ fuel) :
    readRecords fuel (rs.flatMap Record.lines) = some (rs.map Record.readBack) := by
  induction rs generalizing fuel with
  | nil => cases fuel <;> rfl
  | cons r rs ih =>
    obtain ⟨cs, hlines, -⟩ := r.exists_lines
    have hread := r.read_lines (ends_lines rs)
    rw [List.flatMap_cons] at hfuel ⊢
    cases htext : r.lines ++ rs.flatMap Record.lines with
    | nil => simp [hlines, Record.dash] at htext
    | cons c more =>
      have hlength : 0 < r.lines.length := by simp [hlines, Record.dash]
      rw [List.length_append] at hfuel
      obtain ⟨fuel, rfl⟩ : ∃ k, fuel = k + 1 := ⟨fuel - 1, by omega⟩
      have hshorter : (rs.flatMap Record.lines).length ≤ fuel := by omega
      rw [readRecords, ← htext, hread]
      simp [ih hshorter]

def resultsText (rs : List Record) : List Char :=
  if rs.isEmpty then " []\n".toList else '\n' :: rs.flatMap Record.lines

private theorem toList_render (d : Document) : d.render.toList =
    "passed: ".toList ++ ((flagText d.passed).toList ++ '\n' :: ("results:".toList ++ resultsText d.records)) := by
  have hname : "\nresults:".toList = '\n' :: "results:".toList := rfl
  have htext : d.render.toList =
      "passed: ".toList ++ (flagText d.passed).toList ++ "\nresults:".toList ++ resultsText d.records :=
    String.toList_ofList
  rw [htext, hname, List.append_assoc, List.append_assoc, List.cons_append]

private theorem readResults_resultsText (rs : List Record) :
    readResults (resultsText rs) = some (rs.map Record.readBack) := by
  cases rs with
  | nil => rfl
  | cons r rs =>
    have hrecords := readRecords_lines (Nat.le_refl ((r :: rs).flatMap Record.lines).length)
    have hdrop := dropPrefix?_append ['\n'] ((r :: rs).flatMap Record.lines)
    have hfilled : '\n' :: (r :: rs).flatMap Record.lines ≠ " []\n".toList := by
      intro h
      exact absurd (List.head_eq_of_cons_eq h) (by decide)
    rw [resultsText, List.isEmpty_cons, if_neg Bool.false_ne_true, readResults, if_neg hfilled]
    rw [List.singleton_append] at hdrop
    rw [hdrop, Option.bind_some, hrecords]

private theorem resultsText_readBack (rs : List Record) : resultsText (rs.map Record.readBack) = resultsText rs := by
  have hlines : (rs.map Record.readBack).flatMap Record.lines = rs.flatMap Record.lines := by
    rw [List.flatMap_map]
    exact congrArg rs.flatMap (funext Record.lines_readBack)
  rw [resultsText, resultsText, hlines, List.isEmpty_map]

theorem read_render (d : Document) : read d.render = some d.readBack := by
  rw [read, toList_render, dropPrefix?_append]
  simp only [Option.bind_eq_bind, Option.bind_some, readLine_append (lineFeed_not_mem_flagText d.passed),
    dropPrefix?_append, readResults_resultsText, readFlag_flagText]
  rfl

theorem render_readBack (d : Document) : d.readBack.render = d.render := by
  rw [← String.toList_inj, toList_render, toList_render, readBack, resultsText_readBack]

theorem render_eq_iff (d e : Document) : d.render = e.render ↔ d.readBack = e.readBack := by
  constructor
  · -- The reader sees the text only.
    intro h
    have hread := d.read_render
    rw [h, e.read_render] at hread
    exact (Option.some.inj hread).symm
  · intro h
    rw [← render_readBack d, h, render_readBack]

def texts (d : Document) : List String := d.records.flatMap Record.texts

private theorem readBack_eq_self_iff (d : Document) :
    d.readBack = d ↔ ∀ s ∈ d.texts, styleOf s = .block → hidesLineFeed s.toList = false := by
  have hrecords : d.readBack = d ↔ d.records.map Record.readBack = d.records.map id := by
    rw [List.map_id]
    exact ⟨congrArg records, fun h => congrArg (Document.mk d.passed) h⟩
  rw [hrecords, List.map_inj_left]
  constructor
  · intro h s hs
    obtain ⟨r, hr, hsr⟩ := List.mem_flatMap.mp hs
    exact r.readBack_eq_self_iff.mp (h r hr) s hsr
  · intro h r hr
    exact r.readBack_eq_self_iff.mpr fun s hs => h s (List.mem_flatMap.mpr ⟨r, hr, hs⟩)

end Document

/-- A report is read back as a whole exactly when no block hides a line feed of its texts.  In general two reports with
the same text agree in what can be read back, so that two reports without hidden line feeds are the same. -/
theorem render_ofResults (rs ss : List Result) :
    (Document.read (Document.ofResults rs).render = some (Document.ofResults rs) ↔
      ∀ s ∈ (Document.ofResults rs).texts, styleOf s = .block → hidesLineFeed s.toList = false) ∧
    ((Document.ofResults rs).render = (Document.ofResults ss).render ↔
      (Document.ofResults rs).readBack = (Document.ofResults ss).readBack) ∧
    ((∀ s ∈ (Document.ofResults rs).texts ++ (Document.ofResults ss).texts,
        styleOf s = .block → hidesLineFeed s.toList = false) →
      (Document.ofResults rs).render = (Document.ofResults ss).render →
      Document.ofResults rs = Document.ofResults ss) := by
  refine ⟨?_, Document.render_eq_iff _ _, fun hkept hrender => ?_⟩
  · rw [Document.read_render, Option.some_inj, Document.readBack_eq_self_iff]
  · have hback := (Document.render_eq_iff _ _).mp hrender
    have hrs := (Document.readBack_eq_self_iff _).mpr fun s hs => hkept s (List.mem_append_left _ hs)
    have hss := (Document.readBack_eq_self_iff _).mpr fun s hs => hkept s (List.mem_append_right _ hs)
    rw [← hrs, hback, hss]

/-- Two results whose names differ by a line feed that their blocks hide. -/
theorem render_ofResults_hidden :
    let r : Result :=
      { name := " a\nb", algorithm := "naive", n := 39, expect := 102334155, got := 102334155, unit := "ms"
        clock := "process", elapsed := 1500000, least := 1500000, mean := 1500000, runs := 1, passed := true }
    (Document.ofResults [{ r with name := "\n a\nb" }]).render = (Document.ofResults [r]).render ∧
      Document.ofResults [{ r with name := "\n a\nb" }] ≠ Document.ofResults [r] :=
  ⟨(Document.render_eq_iff _ _).mpr (by decide +kernel), by decide +kernel⟩

end FibTiming.Report
