import FibTiming.Proofs.Configurations

/-!
# Order and spelling of flags

A flag is written with one dash or two, and its value stands behind an equals sign or is the next argument.  All
spellings make the same settings (`readSettings_commandLine`), and of the settings of a flag only the last one counts
(`Flags.setting?_ofSettings`).  So what a command line asks for is settled by the last setting of each flag and by the
paths (`request_of_last_settings`).
-/

namespace FibTiming.CommandLine

/-! ### Flags on their own -/

private theorem Flag.toList_name (f : Flag) :
    ∃ c cs, f.name.toList = c :: cs ∧ c ≠ '-' ∧ c ≠ '=' ∧ '=' ∉ cs := by
  cases f <;> exact ⟨_, _, rfl, by decide, by decide, by decide⟩

private theorem Flag.ofName?_name (f : Flag) : ofName? f.name = some f := by
  cases f <;> decide

/-- A flag makes only settings of its own. -/
private theorem Flag.flag_of_read {f : Flag} {value : String} {s : Setting} (h : f.read value = .ok s) :
    s.flag = f := by
  cases f with
  | expect =>
    unfold read at h
    cases hread : Number.readUnsigned value.toList <;> simp [hread, Except.map] at h
    rw [← h]
    rfl
  | n | repetitions | workers =>
    unfold read at h
    cases hread : Number.readSigned value.toList <;> simp [hread, Except.map] at h
    rw [← h]
    rfl
  | _ =>
    cases h
    rfl

namespace Argument

/-- The end of a flag that carries its value. -/
def valuePart : Option String → List Char
  | none => []
  | some value => '=' :: value.toList

private theorem splitValue_append {c : Char} {cs : List Char} (hcs : '=' ∉ cs) (value : Option String) :
    splitValue (c :: (cs ++ valuePart value)) = (String.ofList (c :: cs), value) := by
  have hplain : ∀ d ∈ cs, decide (d ≠ '=') = true := fun d hd => by
    simpa using ne_of_mem_of_not_mem hd hcs
  have htake : (cs ++ valuePart value).takeWhile (· ≠ '=') = cs := by
    rw [List.takeWhile_append_of_pos hplain]
    cases value <;> simp [valuePart]
  have hdrop : (cs ++ valuePart value).dropWhile (· ≠ '=') = valuePart value := by
    rw [List.dropWhile_append_of_pos hplain]
    cases value <;> simp [valuePart]
  unfold splitValue
  simp only [List.take_succ_cons, List.take_zero, List.drop_succ_cons, List.drop_zero, htake, hdrop]
  cases value <;> simp [valuePart]

/-- A flag behind its dashes is read as it is, with its value or without. -/
private theorem ofFlagBody_name (f : Flag) (value : Option String) :
    ofFlagBody (f.name.toList ++ valuePart value) = flag f.name value := by
  obtain ⟨c, cs, hname, hdash, hequals, hcs⟩ := f.toList_name
  have hsplit := splitValue_append (c := c) hcs value
  rw [← hname, String.ofList_toList] at hsplit
  rw [hname, List.cons_append]
  unfold ofFlagBody
  split
  · contradiction
  · simp_all
  · simp_all
  · rw [hsplit]

/-- Two dashes are as good as one. -/
private theorem ofText_of_toList (twoDashes : Bool) (f : Flag) (value : Option String) {s : String}
    (h : s.toList = (if twoDashes then ['-', '-'] else ['-']) ++ (f.name.toList ++ valuePart value)) :
    ofText s = flag f.name value := by
  obtain ⟨c, cs, hname, hdash, _⟩ := f.toList_name
  rw [← ofFlagBody_name f value]
  rw [hname] at h ⊢
  unfold ofText
  cases twoDashes <;> simp [h, hdash]

end Argument

/-- The text starts with a dash and goes on, so that it does not stand for a path among the flags. -/
def LooksLikeFlag (s : String) : Prop := ∃ c cs, s.toList = '-' :: c :: cs

private theorem Argument.ofText_of_not_looksLikeFlag {s : String} (h : ¬ LooksLikeFlag s) : ofText s = path := by
  unfold ofText
  split
  · rename_i hs
    exact absurd ⟨_, _, hs⟩ h
  · rename_i hs
    exact absurd ⟨_, _, hs⟩ h
  · rename_i hs
    exact absurd ⟨_, _, hs⟩ h
  · rfl

/-! ### Command lines -/

/-- A setting as it is written on a command line.  The flag reads the text of its value as the setting. -/
structure Assignment where
  flag : Flag
  value : String
  setting : Setting
  reads : flag.read value = .ok setting
  twoDashes : Bool := false
  joined : Bool := false

namespace Assignment

/-- The arguments of an assignment: `-f v`, `--f v`, `-f=v` or `--f=v`. -/
def arguments (a : Assignment) : List String :=
  let start := (if a.twoDashes then "--" else "-") ++ a.flag.name
  if a.joined then [start ++ "=" ++ a.value] else [start, a.value]

/-- The last assignment of a flag. -/
def last? (f : Flag) (as : List Assignment) : Option Assignment := as.reverse.find? (·.flag = f)

/-- The last text given to a flag, which is empty when there is none. -/
def lastText (f : Flag) (as : List Assignment) : String := ((last? f as).map (·.value)).getD ""

end Assignment

/-- What stands behind the assignments: the paths, introduced by two dashes unless the first one looks like no flag. -/
def Closes (paths rest : List String) : Prop :=
  rest = "--" :: paths ∨ rest = paths ∧ ∀ p ∈ paths.head?, ¬ LooksLikeFlag p

def commandLine (as : List Assignment) (rest : List String) : List String := as.flatMap Assignment.arguments ++ rest

/-- An assignment puts its setting in front, however it is spelled. -/
theorem readSettings_arguments (a : Assignment) (rest : List String) :
    readSettings (a.arguments ++ rest) = putSetting a.flag a.value (readSettings rest) := by
  have hstart : ((if a.twoDashes then "--" else "-") ++ a.flag.name).toList =
      (if a.twoDashes then ['-', '-'] else ['-']) ++ a.flag.name.toList := by
    rw [String.toList_append]
    split <;> rfl
  unfold Assignment.arguments
  -- A value in the next argument is taken as it is, even if it looks like a flag.
  by_cases hjoined : a.joined
  · have htext : Argument.ofText ((if a.twoDashes then "--" else "-") ++ a.flag.name ++ "=" ++ a.value) =
        .flag a.flag.name (some a.value) := by
      apply Argument.ofText_of_toList a.twoDashes
      rw [String.toList_append, String.toList_append, hstart]
      simp [Argument.valuePart]
    simp only [hjoined, ↓reduceIte, List.singleton_append]
    rw [readSettings, htext]
    simp only [Flag.ofName?_name]
  · have htext : Argument.ofText ((if a.twoDashes then "--" else "-") ++ a.flag.name) = .flag a.flag.name none := by
      apply Argument.ofText_of_toList a.twoDashes
      rw [hstart]
      simp [Argument.valuePart]
    simp only [hjoined, Bool.false_eq_true, ↓reduceIte, List.cons_append, List.nil_append]
    rw [readSettings, htext]
    simp only [Flag.ofName?_name]

theorem Closes.readSettings {paths rest : List String} (h : Closes paths rest) :
    readSettings rest = .ok ([], paths) := by
  rcases h with rfl | ⟨rfl, hfirst⟩
  · have hend : Argument.ofText "--" = .flagsEnd := rfl
    rw [CommandLine.readSettings, hend]
  · cases rest with
    | nil => rfl
    | cons p ps =>
      have hpath := Argument.ofText_of_not_looksLikeFlag (hfirst p (by simp))
      rw [CommandLine.readSettings, hpath]

/-- The settings of a command line are those of its assignments, in order. -/
theorem readSettings_commandLine (as : List Assignment) {paths rest : List String} (h : Closes paths rest) :
    readSettings (commandLine as rest) = .ok (as.map (·.setting), paths) := by
  unfold commandLine
  induction as with
  | nil => exact h.readSettings
  | cons a as ih =>
    rw [List.flatMap_cons, List.append_assoc, readSettings_arguments, ih, putSetting, a.reads]
    rfl

/-! ### The last setting counts -/

namespace Flags

/-- The setting that a flag has.  The flags of the ad-hoc benchmark have none before they are given. -/
def setting? (fs : Flags) : Flag → Option Setting
  | .algorithm => some (.algorithm fs.algorithm)
  | .clock => some (.clock fs.clock)
  | .color => some (.color fs.color)
  | .expect => fs.expect.map .expect
  | .logFormat => some (.logFormat fs.logFormat)
  | .logLevel => some (.logLevel fs.logLevel)
  | .n => fs.n.map .n
  | .repetitions => fs.repetitions.map .repetitions
  | .report => some (.report fs.report)
  | .shorthand => some (.shorthand fs.shorthand)
  | .suite => some (.suite fs.suite)
  | .unit => fs.unit.map .unit
  | .workers => some (.workers fs.workers)

theorem setting?_set (fs : Flags) (s : Setting) (f : Flag) :
    (fs.set s).setting? f = if s.flag = f then some s else fs.setting? f := by
  cases s <;> cases f <;> rfl

/-- The settings of the flags are all there is to their values. -/
theorem ext_setting? {fs gs : Flags} (h : ∀ f, fs.setting? f = gs.setting? f) : fs = gs := by
  have hall : ∀ f ∈ Flag.all, fs.setting? f = gs.setting? f := fun f _ => h f
  have hexpect : Function.Injective Setting.expect := fun _ _ => Setting.expect.inj
  have hn : Function.Injective Setting.n := fun _ _ => Setting.n.inj
  have hrepetitions : Function.Injective Setting.repetitions := fun _ _ => Setting.repetitions.inj
  have hunit : Function.Injective Setting.unit := fun _ _ => Setting.unit.inj
  cases fs
  cases gs
  simpa [Flag.all, setting?, hexpect.eq_iff, (Option.map_injective hexpect).eq_iff, (Option.map_injective hn).eq_iff,
    (Option.map_injective hrepetitions).eq_iff, (Option.map_injective hunit).eq_iff] using hall

/-- After a list of settings a flag has the last of its own. -/
private theorem setting?_foldl_set (ss : List Setting) (fs : Flags) (f : Flag) :
    (ss.foldl set fs).setting? f = (ss.reverse.find? (·.flag = f)).or (fs.setting? f) := by
  induction ss generalizing fs with
  | nil => rfl
  | cons s ss ih =>
    rw [List.foldl_cons, ih, setting?_set, List.reverse_cons, List.find?_append, Option.or_assoc]
    by_cases hs : s.flag = f <;> simp [hs]

end Flags

/-- The settings of a command line, as far as they count. -/
theorem Flags.setting?_ofSettings (as : List Assignment) (f : Flag) :
    (ofSettings (as.map (·.setting))).setting? f =
      ((Assignment.last? f as).map (·.setting)).or (({} : Flags).setting? f) := by
  have hflag : ((fun s : Setting => decide (s.flag = f)) ∘ fun a : Assignment => a.setting) =
      fun a => decide (a.flag = f) := by
    funext a
    simp [Flag.flag_of_read a.reads]
  rw [ofSettings, setting?_foldl_set, ← List.map_reverse, List.find?_map, hflag, Assignment.last?]

/-- A flag for texts that is empty at first has the last text it is given. -/
private theorem Flags.setting?_of_text {f : Flag} {mk : String → Setting}
    (hread : ∀ value, f.read value = .ok (mk value))
    (hempty : ({} : Flags).setting? f = some (mk "")) (as : List Assignment) :
    (ofSettings (as.map (·.setting))).setting? f = some (mk (Assignment.lastText f as)) := by
  rw [setting?_ofSettings, hempty, Assignment.lastText]
  cases hlast : Assignment.last? f as with
  | none => rfl
  | some a =>
    have hflag : a.flag = f := by simpa using List.find?_some hlast
    have hsetting := a.reads
    rw [hflag, hread] at hsetting
    exact congrArg some (Except.ok.inj hsetting).symm

private theorem Flags.paths_ofSettings (as : List Assignment) (paths : List String) :
    (ofSettings (as.map (·.setting))).paths paths =
      [Assignment.lastText .suite as, Assignment.lastText .shorthand as].filter (· ≠ "") ++ paths := by
  have hsuite := setting?_of_text (f := .suite) (fun _ => rfl) rfl as
  have hshorthand := setting?_of_text (f := .shorthand) (fun _ => rfl) rfl as
  simp only [setting?, Option.some.injEq, Setting.suite.injEq, Setting.shorthand.injEq] at hsuite hshorthand
  rw [Flags.paths, hsuite, hshorthand]
  by_cases h : Assignment.lastText .suite as = "" <;> by_cases h' : Assignment.lastText .shorthand as = "" <;>
    simp [h, h']

/-! ### What command lines ask for -/

/-- What comes of flags and paths that are read. -/
def Request.ofConfig : Except UsageError Config → Request
  | .error e => .refused e
  | .ok c => .run c

theorem request_of_readSettings {args paths : List String} {settings : List Setting}
    (h : readSettings args = .ok (settings, paths)) :
    request args = .ofConfig ((Flags.ofSettings settings).toConfig paths) := by
  simp only [request, h]
  rfl

/-- Once the settings are read, no argument is at fault any more. -/
private theorem Flags.toConfig_ne_argument (fs : Flags) (paths : List String) (e : ArgumentError) :
    fs.toConfig paths ≠ .error (.argument e) := by
  have hadHoc : fs.adHoc ≠ .error (.argument e) := by
    unfold adHoc
    split
    · unfold adHocBenchmark
      repeat' split
      all_goals simp [Except.map]
    · split <;> simp
  unfold toConfig
  dsimp only
  repeat' split
  all_goals try simp
  · rename_i h
    simpa [h] using hadHoc
  · cases Config.check _ <;> simp [Except.mapError]

private theorem suitePaths_of_toConfig {fs : Flags} {paths : List String} {c : Config} (h : fs.toConfig paths = .ok c) :
    c.suitePaths = fs.paths paths := by
  obtain ⟨_, _, _, _, _, _, hcheck⟩ := Flags.exists_check_of_toConfig h
  obtain ⟨_, _, _, _, _, _, rfl⟩ := Config.eq_of_check hcheck
  rfl

/-- Two command lines on which each flag has the same last setting, and with the same paths, ask for the same, however
their flags are ordered, repeated and spelled.  The arguments are accepted as such, and the suite paths are the last
text of each of the two flags for them, unless it is empty, and then the paths that stand alone. -/
theorem request_of_last_settings (as as' : List Assignment) {paths rest rest' : List String}
    (hrest : Closes paths rest) (hrest' : Closes paths rest')
    (hlast : ∀ f, (Assignment.last? f as).map (·.setting) = (Assignment.last? f as').map (·.setting)) :
    request (commandLine as rest) = request (commandLine as' rest') ∧
    request (commandLine as rest) ≠ .help ∧ (∀ e, request (commandLine as rest) ≠ .refused (.argument e)) ∧
    ∀ c, request (commandLine as rest) = .run c →
      c.suitePaths = [Assignment.lastText .suite as, Assignment.lastText .shorthand as].filter (· ≠ "") ++ paths := by
  -- Only the flags and the paths reach the checks, so it is enough that each flag ends up with the same setting.
  have hflags : Flags.ofSettings (as.map (·.setting)) = Flags.ofSettings (as'.map (·.setting)) := by
    apply Flags.ext_setting?
    intro f
    rw [Flags.setting?_ofSettings, Flags.setting?_ofSettings, hlast]
  have hrequest := request_of_readSettings (readSettings_commandLine as hrest)
  have hrequest' := request_of_readSettings (readSettings_commandLine as' hrest')
  refine ⟨by rw [hrequest, hrequest', hflags], ?_⟩
  rw [hrequest]
  cases hconfig : (Flags.ofSettings (as.map (·.setting))).toConfig paths with
  | error e =>
    refine ⟨by simp [Request.ofConfig], ?_, by simp [Request.ofConfig]⟩
    rintro e' he
    cases he
    exact Flags.toConfig_ne_argument _ _ _ hconfig
  | ok c =>
    refine ⟨by simp [Request.ofConfig], by simp [Request.ofConfig], ?_⟩
    rintro _ hc
    cases hc
    rw [suitePaths_of_toConfig hconfig, Flags.paths_ofSettings]

/-- A path given twice, the second one with dashes and an equals sign in it, and a number in two bases. -/
theorem request_of_last_settings_twice :
    let args := ["-suite", "a", "--workers=0x2", "-suite=-x=1", "--", "p", "-y"]
    let args' := ["--suite", "-x=1", "-workers", "2", "p", "-y"]
    request args = request args' ∧ ∃ c, request args = .run c ∧ c.suitePaths = ["-x=1", "p", "-y"] := by
  have hrest : Closes ["p", "-y"] ["--", "p", "-y"] := .inl rfl
  have hrest' : Closes ["p", "-y"] ["p", "-y"] := by
    refine .inr ⟨rfl, ?_⟩
    rintro p hp ⟨c, cs, h⟩
    cases hp
    cases h
  obtain ⟨hsame, _, _, hpaths⟩ := request_of_last_settings
    [⟨.suite, "a", .suite "a", rfl, false, false⟩, ⟨.workers, "0x2", .workers 2, by decide, true, true⟩,
      ⟨.suite, "-x=1", .suite "-x=1", rfl, false, true⟩]
    [⟨.suite, "-x=1", .suite "-x=1", rfl, true, false⟩, ⟨.workers, "2", .workers 2, by decide, false, false⟩]
    hrest hrest' (by intro f; cases f <;> rfl)
  have hrun : request ["-suite", "a", "--workers=0x2", "-suite=-x=1", "--", "p", "-y"] =
      .run { suitePaths := ["-x=1", "p", "-y"], clock := "process", workers := 2, color := "auto", logFormat := "text"
             logLevel := "warn" } := by decide +kernel
  exact ⟨hsame, _, hrun, hpaths _ hrun⟩

end FibTiming.CommandLine
