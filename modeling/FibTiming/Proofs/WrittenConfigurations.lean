import FibTiming.Proofs.FlagOrder
import FibTiming.Proofs.IntegerText

/-!
# Configurations as command lines

A configuration can be written as a command line: each field as a flag with its value behind an equals sign, then the
suite paths behind two dashes.  Whatever the order of the flags, the command line asks for this configuration
(`request_written`).
-/

namespace FibTiming

namespace CommandLine

/-! ### Settings in text -/

/-- The text of a setting's value; numbers have decimal digits. -/
def Setting.valueText : Setting → String
  | algorithm v | clock v | color v | logFormat v | logLevel v | report v | shorthand v | suite v | unit v => v
  | expect answer => toString answer
  | n i | repetitions i | workers i => toString i

/-- A setting as one argument. -/
def Setting.argument (s : Setting) : String := "-" ++ s.flag.name ++ "=" ++ s.valueText

/-- The number of a setting, if it has one, is an integer of 64 bits. -/
def Setting.Fits : Setting → Prop
  | n i | repetitions i | workers i => -9223372036854775808 ≤ i ∧ i < 9223372036854775808
  | _ => True

private theorem Setting.Fits.read_valueText {s : Setting} (h : s.Fits) : s.flag.read s.valueText = .ok s := by
  cases s with
  | expect answer =>
    have hread : Number.readUnsigned (toString answer.toNat).toList = .ok answer.toNat :=
      Number.readUnsigned_toString (by have := answer.toNat_lt; unfold Number.maxWord; omega)
    show (Number.readUnsigned (toString answer.toNat).toList).map _ = _
    rw [hread]
    simp [Except.map]
  | n i | repetitions i | workers i =>
    have hread : Number.readSigned (toString i).toList = .ok i := Number.readSigned_toString h.1 h.2
    show (Number.readSigned (toString i).toList).map _ = _
    rw [hread]
    rfl
  | _ => rfl

/-- Settings in text are read as they are. -/
private theorem readSettings_map_argument {settings : List Setting} (h : ∀ s ∈ settings, s.Fits) (paths : List String) :
    readSettings (settings.map Setting.argument ++ "--" :: paths) = .ok (settings, paths) := by
  induction settings with
  | nil =>
    have hclosed : Closes paths ("--" :: paths) := .inl rfl
    exact hclosed.readSettings
  | cons s settings ih =>
    rw [List.forall_mem_cons] at h
    have hfirst := readSettings_arguments ⟨s.flag, s.valueText, s, h.1.read_valueText, false, true⟩
      (settings.map Setting.argument ++ "--" :: paths)
    rw [ih h.2, putSetting, h.1.read_valueText] at hfirst
    exact hfirst

/-! ### The order of settings -/

private theorem Flags.set_comm (fs : Flags) {s s' : Setting} (h : s.flag ≠ s'.flag) :
    (fs.set s).set s' = (fs.set s').set s := by
  apply ext_setting?
  intro f
  simp only [setting?_set]
  split <;> split <;> simp_all

/-- Settings of different flags can stand in any order. -/
theorem Flags.ofSettings_perm {ss ss' : List Setting} (hperm : ss.Perm ss') (hflags : (ss.map Setting.flag).Nodup) :
    ofSettings ss = ofSettings ss' := by
  unfold ofSettings
  apply hperm.foldl_eq'
  intro s hs s' hs' fs
  by_cases hflag : s.flag = s'.flag
  · rw [List.inj_on_of_nodup_map hflags hs hs' hflag]
  · exact fs.set_comm hflag

end CommandLine

/-! ### Configurations in text -/

/-- A benchmark that the flags can describe. -/
structure Benchmark.Describable (b : Benchmark) : Prop where
  name : b.name = s!"{b.algorithm}({b.n})"
  algorithm : b.algorithm ∈ ["naive", "accumulator", "iterative"]
  nonneg : 0 ≤ b.n
  le_max : b.n ≤ 92
  unit : b.unit ∈ ["ns", "us", "ms", "s"]
  one_le : 1 ≤ b.repetitions
  repetitions_lt : b.repetitions < 9223372036854775808

namespace Config

/-- A configuration that a command line can ask for: it has names that exist, a positive number of workers, and suite
paths or an ad-hoc benchmark, if any. -/
structure Writable (c : Config) : Prop where
  clock : c.clock ∈ ["process", "thread", "wall"]
  color : c.color ∈ ["auto", "always", "never"]
  logFormat : c.logFormat ∈ ["text", "json"]
  logLevel : c.logLevel ∈ ["debug", "info", "warn", "error"]
  one_le : 1 ≤ c.workers
  workers_lt : c.workers < 9223372036854775808
  adHoc : ∀ b, c.adHoc = some b → c.suitePaths = [] ∧ b.Describable

/-- The settings of a configuration. -/
def settings (c : Config) : List CommandLine.Setting :=
  [.clock c.clock, .workers c.workers, .color c.color, .report c.reportPath, .logFormat c.logFormat,
    .logLevel c.logLevel] ++
  match c.adHoc with
  | none => []
  | some b => [.algorithm b.algorithm, .n b.n, .expect b.expect, .unit b.unit, .repetitions b.repetitions]

end Config

private theorem Benchmark.Describable.ready {b : Benchmark} (h : b.Describable) : b.Ready := by
  have halgorithm : b.algorithm ∈ Registry.core.names := by
    have hmem := h.algorithm
    simp only [List.mem_cons, List.not_mem_nil, or_false] at hmem
    rw [Registry.core_names]
    rcases hmem with h | h | h <;> simp [h]
  have hne : b.algorithm ≠ "" := by
    intro hempty
    rw [hempty] at halgorithm
    exact absurd halgorithm (by decide)
  have hunit : b.unit ≠ "" := by
    have hmem := h.unit
    intro hempty
    rw [hempty] at hmem
    exact absurd hmem (by decide)
  have hname : b.name ≠ "" := by
    rw [h.name]
    exact CommandLine.adHocName_ne_empty b.algorithm b.n
  have hcount := h.one_le
  exact ⟨⟨hname, hne, h.nonneg, h.le_max, List.mem_cons_of_mem _ h.unit, by omega⟩, hunit, hcount, halgorithm⟩

namespace Config

variable {c : Config}

private theorem nodup_flags (c : Config) : (c.settings.map CommandLine.Setting.flag).Nodup := by
  unfold settings
  cases c.adHoc <;> simp [CommandLine.Setting.flag]

private theorem Writable.fits (h : c.Writable) : ∀ s ∈ c.settings, s.Fits := by
  have hworkers := h.one_le
  have hmax := h.workers_lt
  unfold settings
  cases hb : c.adHoc with
  | none =>
    simp only [List.append_nil, List.forall_mem_cons, CommandLine.Setting.Fits]
    exact ⟨trivial, by omega, trivial, trivial, trivial, trivial, by simp⟩
  | some b =>
    obtain ⟨_, hdescribable⟩ := h.adHoc b hb
    have hnonneg := hdescribable.nonneg
    have hle := hdescribable.le_max
    have hcount := hdescribable.one_le
    have hcountMax := hdescribable.repetitions_lt
    simp only [List.cons_append, List.nil_append, List.forall_mem_cons, CommandLine.Setting.Fits]
    exact ⟨trivial, by omega, trivial, trivial, trivial, trivial, trivial, by omega, trivial, trivial, by omega, by simp⟩

private theorem Writable.exists_clock (h : c.Writable) : ∃ k : ClockKind, c.clock = k.name := by
  have hmem := h.clock
  simp only [List.mem_cons, List.not_mem_nil, or_false] at hmem
  rcases hmem with h | h | h
  · exact ⟨.process, h⟩
  · exact ⟨.thread, h⟩
  · exact ⟨.wall, h⟩

private theorem Writable.exists_color (h : c.Writable) : ∃ m : Report.ColorMode, c.color = m.name := by
  have hmem := h.color
  simp only [List.mem_cons, List.not_mem_nil, or_false] at hmem
  rcases hmem with h | h | h
  · exact ⟨.auto, h⟩
  · exact ⟨.always, h⟩
  · exact ⟨.never, h⟩

/-- Such a configuration passes its check as it is. -/
theorem Writable.check (h : c.Writable) : c.check = .ok c := by
  have hadHoc : c.checkAdHoc = .ok c.adHoc := by
    unfold checkAdHoc
    cases hb : c.adHoc with
    | none => rfl
    | some b =>
      obtain ⟨hpaths, hdescribable⟩ := h.adHoc b hb
      simp [hpaths, hdescribable.ready.check]
  obtain ⟨k, hk⟩ := h.exists_clock
  obtain ⟨m, hm⟩ := h.exists_color
  unfold Config.check
  rw [hadHoc]
  simp only [hk, hm, ClockKind.ofName?_name, Report.ColorMode.ofName?_name, checkWorkers_of_pos h.one_le]
  rw [← hk, ← hm]

end Config

namespace CommandLine

/-- The values of the flags after the settings of a configuration. -/
private theorem Flags.ofSettings_settings (c : Config) :
    ofSettings c.settings =
      { clock := c.clock, workers := c.workers, color := c.color, report := c.reportPath, logFormat := c.logFormat
        logLevel := c.logLevel, algorithm := (c.adHoc.map (·.algorithm)).getD "", n := c.adHoc.map (·.n)
        expect := c.adHoc.map (·.expect), unit := c.adHoc.map (·.unit), repetitions := c.adHoc.map (·.repetitions) } := by
  unfold Config.settings
  cases c.adHoc <;> rfl

private theorem Flags.adHoc_ofSettings {c : Config} (h : c.Writable) : (ofSettings c.settings).adHoc = .ok c.adHoc := by
  rw [ofSettings_settings]
  cases hb : c.adHoc with
  | none => rfl
  | some b =>
    obtain ⟨_, hdescribable⟩ := h.adHoc b hb
    have hready := hdescribable.ready
    rw [adHoc_eq_some_iff]
    refine ⟨hready.valid.algorithm, (adHocBenchmark_eq_ok_iff ..).2 ?_⟩
    refine ⟨hready.algorithm, hready.valid.unit, hdescribable.one_le, hdescribable.nonneg, hdescribable.le_max, ?_⟩
    simp only [Flags.index, Flags.unitName, Flags.runs, Option.map_some, Option.getD_some, hready.unit, ↓reduceIte]
    rw [adHocName, ← hdescribable.name]

/-- The names of formats, levels and clocks are in lower case. -/
private theorem lower_of_name {s : String} (h : s ∈ logFormats ++ logLevels ++ ["process", "thread", "wall"]) :
    Text.lower s = s := by
  have hall : ∀ s ∈ logFormats ++ logLevels ++ ["process", "thread", "wall"], Text.lower s = s := by decide +kernel
  exact hall s h

private theorem Flags.toConfig_ofSettings {c : Config} (h : c.Writable) :
    (ofSettings c.settings).toConfig c.suitePaths = .ok c := by
  have hadHoc := Flags.adHoc_ofSettings h
  have hformat : c.logFormat ∈ logFormats := h.logFormat
  have hlevel : c.logLevel ∈ logLevels := h.logLevel
  have hlowerFormat : Text.lower c.logFormat = c.logFormat := lower_of_name (by simp [hformat])
  have hlowerLevel : Text.lower c.logLevel = c.logLevel := lower_of_name (by simp [hlevel])
  have hlowerClock : Text.lower c.clock = c.clock := lower_of_name (List.mem_append_right _ h.clock)
  obtain ⟨k, hk⟩ := h.exists_clock
  obtain ⟨m, hm⟩ := h.exists_color
  have hclock : ClockKind.ofName? c.clock = some k := by rw [hk, ClockKind.ofName?_name]
  have hcolor : Report.ColorMode.ofName? c.color = some m := by rw [hm, Report.ColorMode.ofName?_name]
  rw [ofSettings_settings] at hadHoc ⊢
  unfold toConfig
  simp only [hadHoc, hlowerFormat, hlowerLevel, hlowerClock, hformat, hlevel, hclock, hcolor, not_true_eq_false,
    ↓reduceIte, ← hk, ← hm]
  show Except.mapError _ (Config.check c) = _
  rw [h.check]
  rfl

/-- A configuration written as a command line is read back as it is, in whatever order its flags stand.  Suite paths are
arbitrary texts; they may be empty, start with dashes or have equals signs in them. -/
theorem request_written {c : Config} (h : c.Writable) {settings : List Setting} (hperm : settings.Perm c.settings) :
    request (settings.map Setting.argument ++ "--" :: c.suitePaths) = .run c := by
  have hfits : ∀ s ∈ settings, s.Fits := fun s hs => h.fits s (hperm.mem_iff.1 hs)
  have hflags : Flags.ofSettings settings = Flags.ofSettings c.settings :=
    (Flags.ofSettings_perm hperm.symm c.nodup_flags).symm
  rw [request_of_readSettings (readSettings_map_argument hfits c.suitePaths), hflags, Flags.toConfig_ofSettings h,
    Request.ofConfig]

/-- The largest numbers, the flags back to front. -/
theorem request_written_largest :
    let c : Config := { adHoc := some ⟨"naive(92)", "naive", 92, 18446744073709551615, "s", 9223372036854775807⟩
                        clock := "wall", workers := 9223372036854775807, color := "never", reportPath := "--a=b"
                        logFormat := "json", logLevel := "error" }
    c.Writable ∧ request (["-repeat=9223372036854775807", "-unit=s", "-expect=18446744073709551615", "-n=92",
      "-algorithm=naive", "-log-level=error", "-log-format=json", "-report=--a=b", "-color=never",
      "-workers=9223372036854775807", "-clock=wall", "--"]) = .run c := by
  intro c
  have hwritable : c.Writable := by
    refine ⟨by decide, by decide, by decide, by decide, by decide, by decide, ?_⟩
    rintro b hb
    cases hb
    exact ⟨rfl, by decide +kernel, by decide, by decide, by decide, by decide, by decide, by decide⟩
  exact ⟨hwritable, request_written hwritable (List.reverse_perm c.settings)⟩

end CommandLine

end FibTiming
