import SourceGrade.Config.Load
import SourceGrade.Proofs.Attempts
import SourceGrade.Proofs.Config.Layers

set_option autoImplicit false

/-!
# Settings and their defaults

A setting that no layer gives is the default of its field, and every default passes the check of its
field. So settings are read from the values of the known settings alone, whatever else sections
hold and in whatever order: `settingsOf_eq_filled`. The limits that bound work are positive in all
settings that are read.
-/

namespace SourceGrade

/-! ## Checks -/

namespace Checked

variable {α β : Type}

theorem apply_eq_good_iff {f : Checked (α → β)} {a : Checked α} {b : β} :
    f.apply a = .good b ↔ ∃ g x, f = .good g ∧ a = .good x ∧ g x = b := by
  constructor
  · intro h
    cases f with
    | bad cs => cases a <;> cases h
    | good g =>
      cases a with
      | bad cs => cases h
      | good x => exact ⟨g, x, rfl, rfl, Checked.good.inj h⟩
  · rintro ⟨g, x, rfl, rfl, rfl⟩
    rfl

end Checked

namespace Check

variable {α : Type} {entries entries' : List (String × Value)} {key : String}

/-- A default that is written out is read like one that is not. -/
theorem field_eq_of_filled {check : Value → Checked α} {default : α} {v : Value}
    (hfilled : Value.find? entries' key = some ((Value.find? entries key).getD v))
    (hdefault : check v = .good default) :
    field entries' key check default = field entries key check default := by
  unfold field
  rw [hfilled]
  cases Value.find? entries key with
  | none =>
    dsimp only [Option.getD_none]
    rw [hdefault]
    rfl
  | some w => rfl

theorem positive_of_eq_good {v : Value} {n : Int} (h : positive v = .good n) : 1 ≤ n := by
  unfold positive at h
  split at h
  · split at h
    · rename_i hpositive
      exact Checked.good.inj h ▸ hpositive
    · cases h
  · cases h

theorem positive_of_field {default n : Int} (hdefault : 1 ≤ default)
    (h : field entries key positive default = .good n) : 1 ≤ n := by
  unfold field at h
  split at h
  · rename_i v _
    cases hv : positive v with
    | good m =>
      rw [hv] at h
      exact Checked.good.inj h ▸ positive_of_eq_good hv
    | bad cs =>
      rw [hv] at h
      cases h
  · exact Checked.good.inj h ▸ hdefault

end Check

/-- The limits that bound work are positive. -/
theorem AnalysisSettings.positive_of_check {entries : List (String × Value)}
    {s : AnalysisSettings} (h : AnalysisSettings.check entries = .good s) :
    1 ≤ s.maxWorkers ∧ 1 ≤ s.bodyScanLimit ∧ 1 ≤ s.maxFileSize := by
  unfold check at h
  obtain ⟨_, _, h₁, hmaxFileSize, rfl⟩ := Checked.apply_eq_good_iff.mp h
  obtain ⟨_, _, h₂, hmaxWorkers, rfl⟩ := Checked.apply_eq_good_iff.mp h₁
  obtain ⟨_, _, h₃, hbodyScanLimit, rfl⟩ := Checked.apply_eq_good_iff.mp h₂
  obtain ⟨_, _, h₄, -, rfl⟩ := Checked.apply_eq_good_iff.mp h₃
  obtain ⟨_, _, h₅, -, rfl⟩ := Checked.apply_eq_good_iff.mp h₄
  obtain ⟨_, _, h₆, -, rfl⟩ := Checked.apply_eq_good_iff.mp h₅
  obtain ⟨_, _, h₇, -, rfl⟩ := Checked.apply_eq_good_iff.mp h₆
  obtain ⟨_, _, h₈, -, rfl⟩ := Checked.apply_eq_good_iff.mp h₇
  obtain ⟨_, _, h₉, -, rfl⟩ := Checked.apply_eq_good_iff.mp h₈
  obtain rfl := Checked.good.inj h₉
  exact ⟨Check.positive_of_field (by decide) hmaxWorkers,
    Check.positive_of_field (by decide) hbodyScanLimit,
    Check.positive_of_field (by decide) hmaxFileSize⟩

/-! ## The known settings -/

/-- The entries of a section with the known settings written out: each has the given value, or its
default if there is none. -/
def filledEntries (value? : String → Option Value) (standard : List (String × Value)) :
    List (String × Value) :=
  standard.map fun (key, default) => (key, (value? key).getD default)

/-- The known settings of where the service is reached, with their defaults. -/
def ServerSettings.standard : List (String × Value) :=
  let d : ServerSettings := {}
  [("host", .text d.host), ("port", .int d.port)]

/-- The known settings of who may ask, with their defaults. -/
def SecuritySettings.standard : List (String × Value) :=
  let d : SecuritySettings := {}
  [("rate_limit_requests_per_minute", .int d.requestsPerMinute),
    ("cors_origins", .list (d.corsOrigins.map .text))]

/-- The known limits of the analysis, with their defaults. -/
def AnalysisSettings.standard : List (String × Value) :=
  let d : AnalysisSettings := {}
  [("max_line_length", .int d.maxLineLength), ("max_nesting_depth", .int d.maxNestingDepth),
    ("magic_number_allowlist", .list (d.magicNumberAllowlist.map .int)),
    ("short_name_allowlist", .list (d.shortNameAllowlist.map .text)),
    ("long_function_lines", .int d.longFunctionLines),
    ("complex_function_threshold", .int d.complexFunctionThreshold),
    ("body_scan_limit", .int d.bodyScanLimit), ("max_workers", .int d.maxWorkers),
    ("max_file_size", .int d.maxFileSize)]

/-- The known settings of the log, with their defaults. -/
def Settings.standardLog : List (String × Value) :=
  let d : Settings := {}
  [("level", .text d.logLevel), ("file", .text d.logFile), ("format", .text d.logFormat),
    ("log_rotation_max_mb", .int d.logRotationMaxMb),
    ("log_rotation_backups", .int d.logRotationBackups)]

/-! Every default passes the check of its field, so it makes no difference whether it is written
out. -/

section

variable (entries : List (String × Value))

theorem ServerSettings.check_filled :
    check (filledEntries (Value.find? entries) standard) = check entries := by
  unfold check
  repeat refine congrArg₂ Checked.apply ?_ (Check.field_eq_of_filled rfl rfl)
  rfl

theorem SecuritySettings.check_filled :
    check (filledEntries (Value.find? entries) standard) = check entries := by
  unfold check
  repeat refine congrArg₂ Checked.apply ?_ (Check.field_eq_of_filled rfl rfl)
  rfl

theorem AnalysisSettings.check_filled :
    check (filledEntries (Value.find? entries) standard) = check entries := by
  unfold check
  repeat refine congrArg₂ Checked.apply ?_ (Check.field_eq_of_filled rfl rfl)
  rfl

end

namespace Config

open Value (find?)

section

variable (log : Entries)

theorem fileOf_filled : fileOf (filledEntries (find? log) Settings.standardLog) = fileOf log := by
  have hfind : find? (filledEntries (find? log) Settings.standardLog) "file" =
      some ((find? log "file").getD (.text "")) := rfl
  unfold fileOf
  rw [hfind]
  cases find? log "file" <;> rfl

theorem formatOf_filled :
    formatOf (filledEntries (find? log) Settings.standardLog) = formatOf log := by
  have hfind : find? (filledEntries (find? log) Settings.standardLog) "format" =
      some ((find? log "format").getD (.text "")) := rfl
  unfold formatOf
  rw [hfind]
  cases find? log "format" <;> rfl

theorem levelOf_filled :
    levelOf (filledEntries (find? log) Settings.standardLog) "INFO" = levelOf log "INFO" := by
  have hfield : Check.field (filledEntries (find? log) Settings.standardLog) "level"
      Check.string "INFO" = Check.field log "level" Check.string "INFO" :=
    Check.field_eq_of_filled rfl rfl
  unfold levelOf
  rw [hfield]

theorem limitAt_filled {key : String} {default : Int}
    (h : find? (filledEntries (find? log) Settings.standardLog) key =
      some ((find? log key).getD (.int default))) :
    limitAt (filledEntries (find? log) Settings.standardLog) key default =
      limitAt log key default := by
  unfold limitAt
  rw [h]
  cases find? log key <;> rfl

end

/-- The sections with their known settings. -/
def standardSections : List (String × Entries) :=
  [("server", ServerSettings.standard), ("security", SecuritySettings.standard),
    ("analyzer", AnalysisSettings.standard), ("logging", Settings.standardLog)]

/-- The names of the sections. -/
def sectionNames : List String := standardSections.map (·.1)

/-- The sections with the known settings written out. -/
def filled (value? : String → String → Option Value) : Entries :=
  standardSections.map fun (name, standard) =>
    (name, .table (filledEntries (value? name) standard))

/-- The sections that settings are read from are missing or are tables. -/
def AreSections (sections : Entries) : Prop := ∀ name ∈ sectionNames, IsSection sections name

theorem areSections_of_tables {sections : Entries}
    (h : ∀ e ∈ sections, ∃ entries, e.2 = .table entries) : AreSections sections :=
  fun _ _ _ hv => h _ (mem_of_lookup hv)

theorem areSections_filled (value? : String → String → Option Value) :
    AreSections (filled value?) := by
  refine areSections_of_tables fun e he => ?_
  obtain ⟨e', -, rfl⟩ := List.mem_map.mp he
  exact ⟨_, rfl⟩

/-! ## Settings from sections -/

section

variable {sections sections' : Entries} {name : String}

theorem sectionOf_eq_ok (h : IsSection sections name) (otherwise : LoadError) :
    sectionOf sections name otherwise = .ok (entriesOf sections name) := by
  unfold sectionOf
  rcases h.cases with hfind | hfind
  · rw [hfind, entriesOf_of_find?_none hfind]
  · rw [hfind]

theorem checkedSection_eq {α : Type} (h : IsSection sections name) (check : Entries → Checked α) :
    checkedSection sections name check =
      (check (entriesOf sections name)).toExcept.mapError .invalid := by
  unfold checkedSection
  rw [sectionOf_eq_ok h]
  rfl

/-- Sections from which the same is read give the same settings. -/
theorem settingsOf_congr (h : AreSections sections) (hother : AreSections sections')
    (hserver : ServerSettings.check (entriesOf sections "server") =
      ServerSettings.check (entriesOf sections' "server"))
    (hsecurity : SecuritySettings.check (entriesOf sections "security") =
      SecuritySettings.check (entriesOf sections' "security"))
    (hanalyzer : AnalysisSettings.check (entriesOf sections "analyzer") =
      AnalysisSettings.check (entriesOf sections' "analyzer"))
    (hfile : fileOf (entriesOf sections "logging") = fileOf (entriesOf sections' "logging"))
    (hformat : formatOf (entriesOf sections "logging") = formatOf (entriesOf sections' "logging"))
    (hlevel : levelOf (entriesOf sections "logging") "INFO" =
      levelOf (entriesOf sections' "logging") "INFO")
    (hmaxMb : limitAt (entriesOf sections "logging") "log_rotation_max_mb" 5 =
      limitAt (entriesOf sections' "logging") "log_rotation_max_mb" 5)
    (hbackups : limitAt (entriesOf sections "logging") "log_rotation_backups" 3 =
      limitAt (entriesOf sections' "logging") "log_rotation_backups" 3) :
    settingsOf sections = settingsOf sections' := by
  have hmem : ["server", "security", "analyzer", "logging"] = sectionNames := rfl
  rw [AreSections, ← hmem] at h hother
  unfold settingsOf
  rw [checkedSection_eq (h "server" (by decide)), checkedSection_eq (hother "server" (by decide)),
    checkedSection_eq (h "security" (by decide)), checkedSection_eq (hother "security" (by decide)),
    checkedSection_eq (h "analyzer" (by decide)), checkedSection_eq (hother "analyzer" (by decide)),
    sectionOf_eq_ok (h "logging" (by decide)), sectionOf_eq_ok (hother "logging" (by decide)),
    hserver, hsecurity, hanalyzer]
  simp only [bind, Except.bind]
  rw [hfile, hmaxMb, hbackups, hlevel, hformat]

/-- Settings are read from the known settings alone, each of which is its default if it is
missing. -/
theorem settingsOf_eq_filled (h : AreSections sections) :
    settingsOf sections = settingsOf (filled (raw? sections)) := by
  have hfilled := areSections_filled (raw? sections)
  exact settingsOf_congr h hfilled
    (ServerSettings.check_filled (entriesOf sections "server")).symm
    (SecuritySettings.check_filled (entriesOf sections "security")).symm
    (AnalysisSettings.check_filled (entriesOf sections "analyzer")).symm
    (fileOf_filled (entriesOf sections "logging")).symm
    (formatOf_filled (entriesOf sections "logging")).symm
    (levelOf_filled (entriesOf sections "logging")).symm
    (limitAt_filled (entriesOf sections "logging") rfl).symm
    (limitAt_filled (entriesOf sections "logging") rfl).symm

/-- Settings that are read have positive limits on work. -/
theorem positive_of_settingsOf {settings : Settings} (h : settingsOf sections = .ok settings) :
    1 ≤ settings.analyzer.maxWorkers ∧ 1 ≤ settings.analyzer.bodyScanLimit ∧
      1 ≤ settings.analyzer.maxFileSize := by
  unfold settingsOf at h
  obtain ⟨_, -, h₁⟩ := bind_eq_ok_iff.mp h
  obtain ⟨_, -, h₂⟩ := bind_eq_ok_iff.mp h₁
  obtain ⟨analyzer, hanalyzer, h₃⟩ := bind_eq_ok_iff.mp h₂
  obtain ⟨_, -, h₄⟩ := bind_eq_ok_iff.mp h₃
  obtain ⟨_, -, h₅⟩ := bind_eq_ok_iff.mp h₄
  obtain ⟨_, -, h₆⟩ := bind_eq_ok_iff.mp h₅
  obtain ⟨_, -, h₇⟩ := bind_eq_ok_iff.mp h₆
  obtain ⟨_, -, h₈⟩ := bind_eq_ok_iff.mp h₇
  obtain rfl := Except.ok.inj h₈
  unfold checkedSection at hanalyzer
  obtain ⟨entries, -, hchecked⟩ := bind_eq_ok_iff.mp hanalyzer
  cases hcheck : AnalysisSettings.check entries with
  | bad cs =>
    rw [hcheck] at hchecked
    cases hchecked
  | good limits =>
    rw [hcheck] at hchecked
    obtain rfl := Except.ok.inj hchecked
    exact AnalysisSettings.positive_of_check hcheck

end

end Config

end SourceGrade
