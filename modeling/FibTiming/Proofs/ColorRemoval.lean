import FibTiming.Proofs.LineBreaks

/-!
# Removing colors

A color sequence is an escape character, a bracket, parameters and an `m` (`Report.dropColors`).  A style puts such
sequences around the lines of a text and changes nothing else, so whatever removes them gives the text in plain style
back (`Report.Style.readsAs_render`).  This carries over to status lines and to all that is printed
(`Report.statusLines_only_colored`), for all names and errors without escape characters of their own.
-/

namespace FibTiming.Report

/-! ### Color sequences -/

/-- The characters that parameters of a color sequence consist of. -/
def isParameter (c : Char) : Bool := c.isDigit || c == ';'

/-- What stands behind a color sequence, in a text behind its escape character. -/
def behindColor? : List Char → Option (List Char)
  | '[' :: cs =>
    match cs.dropWhile isParameter with
    | 'm' :: rest => some rest
    | _ => none
  | _ => none

private theorem length_of_behindColor? {cs rest : List Char} (h : behindColor? cs = some rest) :
    rest.length < cs.length := by
  unfold behindColor? at h
  split at h
  · rename_i cs
    split at h
    · rename_i more hmore
      cases h
      have hle := (List.dropWhile_suffix (l := cs) isParameter).length_le
      rw [hmore] at hle
      simp only [List.length_cons] at hle ⊢
      omega
    · cases h
  · cases h

/-- The characters of a text without its color sequences. -/
def dropColors : List Char → List Char
  | [] => []
  | c :: cs =>
    if c = escape then
      match _h : behindColor? cs with
      | some rest => dropColors rest
      | none => c :: dropColors cs
    else c :: dropColors cs
termination_by cs => cs.length
decreasing_by
  · have := length_of_behindColor? _h
    simp only [List.length_cons]
    omega
  · simp
  · simp

/-- A text without its color sequences. -/
def withoutColors (text : String) : String := String.ofList (dropColors text.toList)

/-- The function removes color sequences and keeps all characters that start no sequence. -/
structure RemovesColors (f : List Char → List Char) : Prop where
  nil : f [] = []
  keeps : ∀ c rest, c ≠ escape → f (c :: rest) = c :: f rest
  removes : ∀ params rest, params.all isParameter → f (escape :: '[' :: (params ++ 'm' :: rest)) = f rest

private theorem dropWhile_isParameter {params : List Char} (h : params.all isParameter) (rest : List Char) :
    (params ++ 'm' :: rest).dropWhile isParameter = 'm' :: rest := by
  rw [List.all_eq_true] at h
  rw [List.dropWhile_append_of_pos h]
  rfl

private theorem removesColors_dropColors : RemovesColors dropColors where
  nil := by rw [dropColors]
  keeps c rest hc := by rw [dropColors, if_neg hc]
  removes params rest h := by
    have hbehind : behindColor? ('[' :: (params ++ 'm' :: rest)) = some rest := by
      simp only [behindColor?, dropWhile_isParameter h]
    rw [dropColors, if_pos rfl]
    split
    · rename_i hrest
      rw [hbehind] at hrest
      rw [Option.some.inj hrest]
    · rename_i hrest
      rw [hbehind] at hrest
      cases hrest

/-- The inside of a color sequence takes no cells on a terminal. -/
private theorem visibleFrom_control {params : List Char} (h : params.all isParameter) (rest : List Char) :
    Text.visibleFrom .control (params ++ 'm' :: rest) = Text.visibleFrom .plain rest := by
  induction params with
  | nil => rfl
  | cons c params ih =>
    rw [List.all_cons, Bool.and_eq_true] at h
    have hrange : c.toNat ≠ 27 ∧ ¬ (0x40 ≤ c.toNat ∧ c.toNat ≤ 0x7E) := by
      have hc := h.1
      simp only [isParameter, Bool.or_eq_true, beq_iff_eq, Char.isDigit_iff_toNat] at hc
      rcases hc with hdigit | rfl
      · have h0 : '0'.toNat = 48 := rfl
        have h9 : '9'.toNat = 57 := rfl
        omega
      · decide
    rw [List.cons_append, Text.visibleFrom, if_neg hrange.1, if_neg hrange.2, ih h.2]

private theorem escape_not_mem_visibleFrom (state : Text.EscapeState) (cs : List Char) :
    escape ∉ Text.visibleFrom state cs := by
  fun_induction Text.visibleFrom state cs with
  | case1 => exact List.not_mem_nil
  | case3 c rest hc ih =>
    rw [List.mem_cons, not_or]
    refine ⟨?_, ih⟩
    rintro rfl
    exact hc (by decide)
  | _ => assumption

private theorem removesColors_visibleFrom : RemovesColors (Text.visibleFrom .plain) where
  nil := rfl
  keeps c rest hc := by
    have hcode : c.toNat ≠ 27 := by
      intro hcode
      exact hc (Char.toNat_inj.1 hcode)
    rw [Text.visibleFrom, if_neg hcode]
  removes params rest h := by
    have hescape : escape.toNat = 27 := by decide
    rw [Text.visibleFrom, if_pos hescape, Text.visibleFrom, if_pos rfl, visibleFrom_control h]

/-! ### Colored and plain texts -/

section

variable {f : List Char → List Char}

/-- Without its colors the first text is the second one, whatever follows. -/
def ReadsAs (f : List Char → List Char) (colored plain : List Char) : Prop :=
  ∀ rest, f (colored ++ rest) = plain ++ f rest

private theorem ReadsAs.eq (hf : RemovesColors f) {colored plain : List Char} (h : ReadsAs f colored plain) :
    f colored = plain := by
  have hnil := h []
  rwa [hf.nil, List.append_nil, List.append_nil] at hnil

private theorem ReadsAs.append {a a' b b' : List Char} (ha : ReadsAs f a a') (hb : ReadsAs f b b') :
    ReadsAs f (a ++ b) (a' ++ b') := by
  intro rest
  rw [List.append_assoc, ha, hb, List.append_assoc]

private theorem ReadsAs.refl (hf : RemovesColors f) {cs : List Char} (h : escape ∉ cs) : ReadsAs f cs cs := by
  intro rest
  induction cs with
  | nil => rfl
  | cons c cs ih =>
    obtain ⟨hc, hcs⟩ := List.ne_and_not_mem_of_not_mem_cons h
    rw [List.cons_append, hf.keeps c _ hc.symm, ih hcs, List.cons_append]

theorem ReadsAs.sequence (hf : RemovesColors f) {params : List Char} (h : params.all isParameter) :
    ReadsAs f (escape :: '[' :: (params ++ ['m'])) [] := by
  intro rest
  have htext : escape :: '[' :: (params ++ ['m']) ++ rest = escape :: '[' :: (params ++ 'm' :: rest) := by simp
  rw [htext, hf.removes params rest h, List.nil_append]

private theorem ReadsAs.append_text {a a' b b' : String} (ha : ReadsAs f a.toList a'.toList)
    (hb : ReadsAs f b.toList b'.toList) : ReadsAs f (a ++ b).toList (a' ++ b').toList := by
  rw [String.toList_append, String.toList_append]
  exact ha.append hb

private theorem ReadsAs.append_plain (hf : RemovesColors f) {a a' b : String} (h : ReadsAs f a.toList a'.toList)
    (hb : escape ∉ b.toList) : ReadsAs f (a ++ b).toList (a' ++ b).toList :=
  h.append_text (.refl hf hb)

/-- A painted line is a line between two color sequences. -/
private theorem Style.readsAs_paint (hf : RemovesColors f) (s : Style) {line : List Char} (h : escape ∉ line) :
    ReadsAs f (s.paint true line) (s.paint false line) := by
  have hpaint : s.paint true line =
      escape :: '[' :: (('1' :: ';' :: s.code.toList) ++ ['m']) ++ line ++ escape :: '[' :: (['0'] ++ ['m']) := by
    simp [paint]
  have hstart : ('1' :: ';' :: s.code.toList).all isParameter := by cases s <;> decide
  have hend : ['0'].all isParameter := by decide
  have hline := ((ReadsAs.sequence hf hstart).append (.refl hf h)).append (.sequence hf hend)
  rw [hpaint]
  simpa [paint] using hline

private theorem readsAs_joinLines {g g' : List Char → List Char} {lines : List (List Char)} (hf : RemovesColors f)
    (h : ∀ l ∈ lines, ReadsAs f (g l) (g' l)) : ReadsAs f (joinLines (lines.map g)) (joinLines (lines.map g')) := by
  induction lines with
  | nil => exact .refl hf List.not_mem_nil
  | cons line lines ih =>
    have hline := h line List.mem_cons_self
    have hrest := ih fun l hl => h l (List.mem_cons_of_mem _ hl)
    by_cases hnil : lines = []
    · subst hnil
      simpa [joinLines] using hline
    · rw [List.map_cons, List.map_cons, joinLines_cons (by simpa using hnil), joinLines_cons (by simpa using hnil)]
      have hfeed : escape ∉ ['\n'] := by decide
      exact hline.append ((ReadsAs.refl hf hfeed).append hrest)

private theorem escape_mem_of_mem_plainBlanks {cs : List Char} (h : escape ∈ plainBlanks cs) : escape ∈ cs := by
  fun_induction plainBlanks cs with
  | case1 => exact h
  | case2 rest ih =>
    have hblank : escape ≠ ' ' := by decide
    simp only [List.mem_cons, hblank, false_or] at h
    exact List.mem_cons_of_mem _ (ih h)
  | case3 rest ih =>
    have hfeed : escape ≠ '\n' := by decide
    simp only [List.mem_cons, hfeed, false_or] at h
    exact List.mem_cons_of_mem _ (List.mem_cons_of_mem _ (ih h))
  | case4 c rest _ _ ih =>
    rcases List.mem_cons.1 h with rfl | h
    · exact List.mem_cons_self
    · exact List.mem_cons_of_mem _ (ih h)

private theorem mem_of_mem_splitLines {c : Char} {line cs : List Char} (hline : line ∈ splitLines cs) (hc : c ∈ line) :
    c ∈ cs := by
  rw [← joinLines_splitLines cs]
  generalize splitLines cs = lines at hline
  induction lines with
  | nil => cases hline
  | cons first lines ih =>
    by_cases hnil : lines = []
    · subst hnil
      rw [List.mem_singleton.1 hline] at hc
      simpa [joinLines] using hc
    · rw [joinLines_cons hnil]
      rcases List.mem_cons.1 hline with rfl | hline
      · exact List.mem_append_left _ hc
      · exact List.mem_append_right _ (List.mem_cons_of_mem _ (ih hline))

/-- In every style a text reads as it does without colors: its tabs, line ends and blanks are the same. -/
theorem Style.readsAs_render (hf : RemovesColors f) (s : Style) {text : String} (h : escape ∉ text.toList) :
    ReadsAs f (s.render true text).toList (s.render false text).toList := by
  unfold render
  dsimp only
  rw [String.toList_ofList, String.toList_ofList]
  refine readsAs_joinLines hf fun line hline => ?_
  have hplain : escape ∉ line := fun hmem => h (escape_mem_of_mem_plainBlanks (mem_of_mem_splitLines hline hmem))
  refine (s.readsAs_paint hf hplain).append (.refl hf ?_)
  rw [List.mem_replicate]
  exact fun hblank => absurd hblank.2 (by decide)

/-! ### Status lines -/

private theorem Printed.escape_not_mem {text : String} (h : Printed text) : escape ∉ text.toList := by
  intro hmem
  exact absurd (h escape hmem) (by decide)

/-- The name of a result and what is said about its error have no escape characters. -/
structure Unescaped (r : Result) : Prop where
  name : escape ∉ r.name.toList
  error : ∀ e, r.error = some e → escape ∉ e.message.toList

private theorem readsAs_timing (hf : RemovesColors f) {r : Result} (h : escape ∉ r.name.toList) :
    ReadsAs f (timing true r).toList (timing false r).toList := by
  have hstart : escape ∉ (s!"Finished {r.name} in " ++ timeText r r.elapsed).toList := by
    have htime := (printed_timeText r r.elapsed).escape_not_mem
    have hwords : escape ∉ "Finished ".toList ∧ escape ∉ " in ".toList := by decide
    simp only [String.toList_append, List.mem_append, not_or]
    exact ⟨⟨⟨hwords.1, h⟩, hwords.2⟩, htime⟩
  have hmany : Printed (if r.runs > 1 then
      " (min " ++ timeText r r.least ++ ", mean " ++ timeText r r.mean ++ s!" over {r.runs} runs)" else "") := by
    split
    · simp only [printed_append, printed_timeText, printed_int, and_true]
      decide
    · decide
  exact (Style.readsAs_render hf _ hstart).append_plain hf hmany.escape_not_mem

private theorem readsAs_answer (hf : RemovesColors f) {r : Result} (h : escape ∉ r.name.toList) (s : Style)
    {word answer : String} (hword : Printed word) (hanswer : Printed answer) :
    ReadsAs f (timing true r ++ " " ++ s.render true word ++ answer).toList
      (timing false r ++ " " ++ s.render false word ++ answer).toList := by
  have hfront := (readsAs_timing hf h).append_plain hf (b := " ") (by decide)
  exact (hfront.append_text (s.readsAs_render hf hword.escape_not_mem)).append_plain hf hanswer.escape_not_mem

private theorem readsAs_statusLine (hf : RemovesColors f) {r : Result} (h : Unescaped r) :
    ReadsAs f (statusLine true r).toList (statusLine false r).toList := by
  unfold statusLine
  cases he : r.error with
  | some e =>
    have hword : escape ∉ "ERROR".toList := by decide
    have hname : escape ∉ s!" {r.name}: ".toList := by
      have hmarks : escape ∉ " ".toList ∧ escape ∉ ": ".toList := by decide
      simp only [String.toList_append, List.mem_append, not_or]
      exact ⟨⟨hmarks.1, h.name⟩, hmarks.2⟩
    exact ((Style.readsAs_render hf _ hword).append_plain hf hname).append_plain hf (h.error e he)
  | none =>
    dsimp only
    split
    · refine readsAs_answer hf h.name .pass (by decide) ?_
      simp only [printed_append, printed_int, printed_word, and_true]
      decide
    · refine readsAs_answer hf h.name .fail (by decide) ?_
      simp only [printed_append, printed_int, printed_word, and_true]
      decide

/-! ### Printed lines -/

private theorem readsAs_linesText (hf : RemovesColors f) {rs : List Result} (h : ∀ r ∈ rs, Unescaped r) :
    ReadsAs f (Program.linesText (rs.map (statusLine true))).toList
      (Program.linesText (rs.map (statusLine false))).toList := by
  induction rs with
  | nil => exact .refl hf (by decide)
  | cons r rs ih =>
    have hline := (readsAs_statusLine hf (h r List.mem_cons_self)).append_plain hf (b := "\n") (by decide)
    rw [List.map_cons, List.map_cons, Program.linesText_cons, Program.linesText_cons]
    exact hline.append_text (ih fun r' hr' => h r' (List.mem_cons_of_mem _ hr'))

end

private theorem withoutColors_eq {colored plain : String} (h : ReadsAs dropColors colored.toList plain.toList) :
    withoutColors colored = plain := by
  rw [withoutColors, h.eq removesColors_dropColors, String.ofList_toList]

/-- A plain text has no escape characters, since the visible characters of the colored one are the same. -/
private theorem escape_not_mem_of_readsAs {colored plain : List Char}
    (h : ReadsAs (Text.visibleFrom .plain) colored plain) :
    escape ∉ plain := by
  rw [← h.eq removesColors_visibleFrom]
  exact escape_not_mem_visibleFrom .plain colored

/-- Colors take no cells. -/
private theorem lineWidth_eq_of_readsAs {colored plain : List Char}
    (h : ReadsAs (Text.visibleFrom .plain) colored plain) :
    Text.lineWidth colored = Text.lineWidth plain := by
  have hplain := (ReadsAs.refl removesColors_visibleFrom (escape_not_mem_of_readsAs h)).eq removesColors_visibleFrom
  rw [Text.lineWidth, Text.lineWidth, h.eq removesColors_visibleFrom, hplain]

/-- Colored and plain lines are printed up to the same line and with the same outcome. -/
theorem printLines_withoutColors (script : Script) {rs : List Result} (h : ∀ r ∈ rs, Unescaped r) (s : Stage) :
    ∃ outcome count text,
      Program.printLines script.host (rs.map (statusLine true)) s = (outcome, s.printing count text) ∧
      Program.printLines script.host (rs.map (statusLine false)) s =
        (outcome, s.printing count (withoutColors text)) := by
  rcases Program.accepted_or_refused script s.attempts rs.length with hall | ⟨k, hk, cause, hbefore, hcause⟩
  · have hcolored := Program.printLines_of_accepted script (rs.map (statusLine true)) (s := s) (by simpa using hall)
    have hplain := Program.printLines_of_accepted script (rs.map (statusLine false)) (s := s) (by simpa using hall)
    refine ⟨_, _, _, hcolored, ?_⟩
    rw [hplain, withoutColors_eq (readsAs_linesText removesColors_dropColors h), List.length_map, List.length_map]
  · have htake : ∀ r ∈ rs.take k, Unescaped r := fun r hr => h r (List.mem_of_mem_take hr)
    have hcolored := Program.printLines_of_refused script (rs.map (statusLine true)) (s := s) (by simpa using hk)
      hbefore hcause
    have hplain := Program.printLines_of_refused script (rs.map (statusLine false)) (s := s) (by simpa using hk)
      hbefore hcause
    refine ⟨_, _, _, hcolored, ?_⟩
    rw [hplain, ← List.map_take, ← List.map_take,
      withoutColors_eq (readsAs_linesText removesColors_dropColors htake)]

/-! ### Color modes -/

private theorem colored_always (terminal : Bool) : colored terminal "always" = true := by
  cases terminal <;> decide

private theorem colored_never (terminal : Bool) : colored terminal "never" = false := by
  cases terminal <;> decide

/-- Off a terminal only one mode colors. -/
private theorem colored_of_ne_always {mode : String} (h : mode ≠ "always") : colored false mode = false := by
  simp [colored, ColorMode.name, h]

private theorem escape_mem_statusLine (r : Result) : escape ∈ (statusLine true r).toList := by
  rcases (hasForm_statusLine true r).start with ⟨_, hstart⟩ | ⟨_, hstart⟩
  · exact hstart.subset (by decide)
  · exact hstart.subset (by decide)

/-- Colors only add color sequences.  A colored line has some and takes no more cells for it.  Without them it is the
plain line, which has no escape characters and is the same whether colors are never wanted or output does not go to a
terminal, also under a mode that does not exist.  What is printed of colored lines, up to the first that is refused, is
what is printed of plain lines with color sequences added, and with the same outcome. -/
theorem statusLines_only_colored {rs : List Result} (h : ∀ r ∈ rs, Unescaped r) (terminal terminal' : Bool) :
    (∀ r ∈ rs, withoutColors (statusLine (colored terminal "always") r) = statusLine (colored terminal' "never") r ∧
      escape ∈ (statusLine (colored terminal "always") r).toList ∧
      escape ∉ (statusLine (colored terminal' "never") r).toList ∧
      Text.lineWidth (statusLine (colored terminal "always") r).toList =
        Text.lineWidth (statusLine (colored terminal' "never") r).toList) ∧
    (∀ mode ≠ "always", ∀ r, statusLine (colored false mode) r = statusLine (colored terminal' "never") r) ∧
    ∀ (script : Script) (s : Stage), ∃ outcome count text,
      Program.printLines script.host (Program.statusLines terminal "always" rs) s =
        (outcome, s.printing count text) ∧
      Program.printLines script.host (Program.statusLines terminal' "never" rs) s =
        (outcome, s.printing count (withoutColors text)) ∧
      ∀ mode ≠ "always", Program.printLines script.host (Program.statusLines false mode rs) s =
        (outcome, s.printing count (withoutColors text)) := by
  simp only [Program.statusLines, colored_always, colored_never]
  refine ⟨fun r hr => ?_, fun mode hmode r => ?_, fun script s => ?_⟩
  · have hdropped := readsAs_statusLine removesColors_dropColors (h r hr)
    have hvisible := readsAs_statusLine removesColors_visibleFrom (h r hr)
    exact ⟨withoutColors_eq hdropped, escape_mem_statusLine r, escape_not_mem_of_readsAs hvisible,
      lineWidth_eq_of_readsAs hvisible⟩
  · rw [colored_of_ne_always hmode]
  · obtain ⟨outcome, count, text, hcolored, hplain⟩ := printLines_withoutColors script h s
    refine ⟨outcome, count, text, hcolored, hplain, fun mode hmode => ?_⟩
    rw [colored_of_ne_always hmode, hplain]

/-- A name with a tab and a line break, of which the shorter line is filled up, and an error. -/
theorem statusLines_only_colored_broken :
    let passed : Result := ⟨"a\tb\nlonger", "naive", 5, 8, 8, "us", "wall", 2000, 2000, 2000, 1, true, none⟩
    let stopped : Result :=
      ⟨"c", "naive", 5, 8, 0, "ms", "wall", 0, 0, 0, 0, false, some (.reported "clock\texploded")⟩
    (∀ r ∈ [passed, stopped], Unescaped r) ∧
    withoutColors (statusLine (colored false "always") passed) =
      "Finished a    b             \nlonger in 2.000 microseconds PASS fib(5) = 8" ∧
    withoutColors (statusLine (colored false "always") stopped) = "ERROR c: clock\texploded" ∧
    statusLine (colored false "rainbow") passed = statusLine (colored true "never") passed := by
  intro passed stopped
  have hplain : ∀ r ∈ [passed, stopped], Unescaped r := by
    intro r hr
    rcases List.mem_pair.1 hr with rfl | rfl
    · exact ⟨by decide, by rintro e ⟨⟩⟩
    · exact ⟨by decide, by rintro e ⟨⟩; decide⟩
  obtain ⟨hlines, hmodes, -⟩ := statusLines_only_colored hplain false true
  refine ⟨hplain, ?_, ?_, hmodes "rainbow" (by decide) passed⟩
  · rw [(hlines passed (by simp)).1]
    decide +kernel
  · rw [(hlines stopped (by simp)).1]
    decide +kernel

end FibTiming.Report
