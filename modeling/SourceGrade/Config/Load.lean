import SourceGrade.Config.Environment
import SourceGrade.Config.Settings
import SourceGrade.Toml.Document
import SourceGrade.Value.Text

set_option autoImplicit false

/-!
# Settings from documents

Settings are put together from three layers: the default document, the document of a development
machine over it, and the environment over both. `Settings.load` does so and checks the result. The
first section that is wrong is the one that is complained about.
-/

namespace SourceGrade.Config

/-- Why there are no settings. -/
inductive LoadError where
  | unreadable (e : Toml.ReadError)
  /-- A section is not a table. -/
  | notTable (e : SectionError)
  | invalid (complaints : List Complaint)
  /-- The section of the log is not a table. -/
  | logNotTable
  /-- The name of the log file is not a text. -/
  | fileNotText
  /-- A limit of the log files is nothing that stands for an integer. -/
  | limitNotInteger
  /-- A limit of the log files is a text that writes no integer, or an undefined number. -/
  | limitUnreadable
  /-- A limit of the log files is infinite. -/
  | limitInfinite
  deriving DecidableEq, Repr

/-- The entries of a section. A section that is missing or vacant has none. -/
def sectionOf (sections : Entries) (name : String) (otherwise : LoadError) :
    Except LoadError Entries :=
  match Value.find? sections name with
  | none => .ok []
  | some (.table entries) => .ok entries
  | some v => if v.isVacant then .ok [] else .error otherwise

/-- The settings of a section. -/
def checkedSection {α : Type} (sections : Entries) (name : String)
    (check : Entries → Checked α) : Except LoadError α := do
  let entries ← sectionOf sections name (.notTable ⟨name⟩)
  (check entries).toExcept.mapError .invalid

/-- The name of the log file. Anything vacant stands for the empty text. -/
def fileOf (log : Entries) : Except LoadError String :=
  match Value.find? log "file" with
  | none => .ok ""
  | some (.text s) => .ok (String.ofList (Text.trim s.toList))
  | some v => if v.isVacant then .ok "" else .error .fileNotText

/-- The name of the form of the log, in small letters and without blanks around it. -/
def formatOf (log : Entries) : String :=
  let shown := ((Value.find? log "format").map (·.display)).getD ""
  String.ofList (Text.lower (Text.trim shown.toList))

/-- The integer that a value stands for. The fraction of a number is dropped. -/
def limitOf : Value → Except LoadError Int
  | .int n => .ok n
  | .bool b => .ok (if b then 1 else 0)
  | .float (.finite q) => .ok (Number.truncate q)
  | .float .minusZero => .ok 0
  | .float (.infinite _) => .error .limitInfinite
  | .float .undefined => .error .limitUnreadable
  | .text s => (Text.Numeral.lenient s.toList).mapError fun _ => .limitUnreadable
  | _ => .error .limitNotInteger

/-- A limit of the log files. -/
def limitAt (log : Entries) (key : String) (default : Int) : Except LoadError Int :=
  match Value.find? log key with
  | none => .ok default
  | some v => limitOf v

/-- The name of the least level that is logged. -/
def levelOf (log : Entries) (default : String) : Except LoadError String :=
  ((Check.field log "level" Check.string default).toExcept.mapError
    fun _ => .invalid [⟨[.key "log_level"], .notText⟩])

/-- The settings in sections. -/
def settingsOf (sections : Entries) : Except LoadError Settings := do
  let server ← checkedSection sections "server" ServerSettings.check
  let security ← checkedSection sections "security" SecuritySettings.check
  let analyzer ← checkedSection sections "analyzer" AnalysisSettings.check
  let log ← sectionOf sections "logging" .logNotTable
  let defaults : Settings := {}
  let logFile ← fileOf log
  let logRotationMaxMb ← limitAt log "log_rotation_max_mb" defaults.logRotationMaxMb
  let logRotationBackups ← limitAt log "log_rotation_backups" defaults.logRotationBackups
  let logLevel ← levelOf log defaults.logLevel
  pure { server, security, analyzer, logLevel, logFile, logRotationMaxMb, logRotationBackups,
         logFormat := formatOf log }

/-- The sections with those of a document laid over them. A document that is not there changes
nothing. -/
def addDocument (sections : Entries) (document : Option (List Char)) :
    Except LoadError Entries :=
  match document with
  | none => .ok sections
  | some t => ((Toml.read t).mapError .unreadable).map (merge sections)

/-- The sections of all layers. -/
def sectionsOf (standard development : Option (List Char)) (env : Environment) :
    Except LoadError Entries := do
  let sections ← addDocument [] standard
  let sections ← addDocument sections development
  (withEnvironment env sections).mapError .notTable

/-- The settings of all layers. -/
def load (standard development : Option (List Char)) (env : Environment) :
    Except LoadError Settings := do
  settingsOf (← sectionsOf standard development env)

end SourceGrade.Config
