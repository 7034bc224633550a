import SourceGrade.Config.Layers
import SourceGrade.Text.LetterCase
import SourceGrade.Text.Numeral

set_option autoImplicit false

/-!
# Settings from the environment

Nine variables of the environment win over the documents. A variable that is not set, is empty or
does not hold what is expected of it has no effect.
-/

namespace SourceGrade.Config

/-- The variables that are set, with their texts. -/
abbrev Environment := List (String × String)

/-- A variable that overrides a setting. -/
structure Override where
  variableName : String
  sectionName : String
  key : String
  /-- The setting that a text stands for. -/
  cast : List Char → Option Value

/-- An integer, with digits of any script. -/
def castInteger (t : List Char) : Option Value := (Text.Numeral.lenient t).toOption.map .int

/-- A text as it is, after a change. -/
def castText (change : List Char → List Char) (t : List Char) : Option Value :=
  some (.text (String.ofList (change t)))

/-- A list of texts between commas, without blanks around them. Those that are blank are left
out. -/
def castList (t : List Char) : Option Value :=
  let items := ((t.splitOn ',').map Text.trim).filter fun item => !item.isEmpty
  some (.list (items.map fun item => .text (String.ofList item)))

/-- The overrides, in the order in which they are applied. -/
def overrides : List Override := [
  ⟨"PORT", "server", "port", castInteger⟩,
  ⟨"LOG_LEVEL", "logging", "level", castText Text.upper⟩,
  ⟨"LOG_FORMAT", "logging", "format", castText fun t => Text.lower (Text.trim t)⟩,
  ⟨"LOG_FILE", "logging", "file", castText Text.trim⟩,
  ⟨"CORS_ORIGINS", "security", "cors_origins", castList⟩,
  ⟨"RATE_LIMIT_PER_MINUTE", "security", "rate_limit_requests_per_minute", castInteger⟩,
  ⟨"ANALYZER_MAX_WORKERS", "analyzer", "max_workers", castInteger⟩,
  ⟨"ANALYZER_MAX_LINE_LENGTH", "analyzer", "max_line_length", castInteger⟩,
  ⟨"ANALYZER_MAX_FILE_SIZE", "analyzer", "max_file_size", castInteger⟩]

/-- A section that has to be a table and is none. -/
structure SectionError where
  sectionName : String
  deriving DecidableEq, Repr

namespace Override

/-- The setting that an override gives in an environment. -/
def value? (o : Override) (env : Environment) : Option Value :=
  match env.lookup o.variableName with
  | some s => if s.isEmpty then none else o.cast s.toList
  | none => none

/-- The sections with a setting put at a key. A missing section is made. -/
def set (sections : Entries) (sectionName key : String) (v : Value) :
    Except SectionError Entries :=
  match Value.find? sections sectionName with
  | none => .ok (Value.put sectionName (.table [(key, v)]) sections)
  | some (.table entries) =>
    .ok (Value.put sectionName (.table (Value.put key v entries)) sections)
  | some _ => .error ⟨sectionName⟩

/-- The sections with an override applied. -/
def apply (env : Environment) (sections : Entries) (o : Override) : Except SectionError Entries :=
  match o.value? env with
  | some v => set sections o.sectionName o.key v
  | none => .ok sections

end Override

/-- The sections with overrides applied one after another. -/
def applyAll (env : Environment) (os : List Override) (sections : Entries) :
    Except SectionError Entries :=
  os.foldlM (Override.apply env) sections

/-- The sections with what the environment says. -/
def withEnvironment (env : Environment) (sections : Entries) : Except SectionError Entries :=
  applyAll env overrides sections

end SourceGrade.Config
