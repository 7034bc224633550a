import SourceGrade.Check.Basic

set_option autoImplicit false

/-!
# Settings

The settings of the analysis, of the service and of its log, each with its default, and the checks
by which a table of a document becomes settings. Entries that no field asks for are ignored.
-/

namespace SourceGrade

/-- The limits by which a text is judged. -/
structure AnalysisSettings where
  /-- The longest line that is not reported. -/
  maxLineLength : Int := 120
  /-- The greatest depth of braces that is not reported. -/
  maxNestingDepth : Int := 4
  /-- The numbers that need no explanation. -/
  magicNumberAllowlist : List Int := [100, 200, 404, 500, 1000, 1024]
  /-- The one-letter names that need no reason. -/
  shortNameAllowlist : List String := ["i", "j", "k", "x", "y", "e", "_"]
  /-- The number of lines of the longest function that is not called long. -/
  longFunctionLines : Int := 50
  /-- The complexity of the most complex function that is not called complex. -/
  complexFunctionThreshold : Int := 10
  /-- The number of characters that are scanned for the end of a body. -/
  bodyScanLimit : Int := 5000
  /-- The number of texts that are analysed at the same time. -/
  maxWorkers : Int := 8
  /-- The number of bytes of the largest file that is read. -/
  maxFileSize : Int := 1048576
  deriving DecidableEq, Repr

namespace AnalysisSettings

/-- The settings in a table. The three limits that bound work have to be positive. -/
def check (entries : List (String × Value)) : Checked AnalysisSettings :=
  let d : AnalysisSettings := {}
  ((((((((((Checked.good AnalysisSettings.mk).apply
    (Check.field entries "max_line_length" Check.integer d.maxLineLength)).apply
    (Check.field entries "max_nesting_depth" Check.integer d.maxNestingDepth)).apply
    (Check.field entries "magic_number_allowlist" (Check.listOf Check.integer)
      d.magicNumberAllowlist)).apply
    (Check.field entries "short_name_allowlist" (Check.listOf Check.string)
      d.shortNameAllowlist)).apply
    (Check.field entries "long_function_lines" Check.integer d.longFunctionLines)).apply
    (Check.field entries "complex_function_threshold" Check.integer
      d.complexFunctionThreshold)).apply
    (Check.field entries "body_scan_limit" Check.positive d.bodyScanLimit)).apply
    (Check.field entries "max_workers" Check.positive d.maxWorkers)).apply
    (Check.field entries "max_file_size" Check.positive d.maxFileSize))

/-- The settings as a table. -/
def toValue (s : AnalysisSettings) : Value := .table [
  ("max_line_length", .int s.maxLineLength), ("max_nesting_depth", .int s.maxNestingDepth),
  ("magic_number_allowlist", .list (s.magicNumberAllowlist.map .int)),
  ("short_name_allowlist", .list (s.shortNameAllowlist.map .text)),
  ("long_function_lines", .int s.longFunctionLines),
  ("complex_function_threshold", .int s.complexFunctionThreshold),
  ("body_scan_limit", .int s.bodyScanLimit), ("max_workers", .int s.maxWorkers),
  ("max_file_size", .int s.maxFileSize)]

end AnalysisSettings

/-- How often a client may ask, and from where. -/
structure SecuritySettings where
  /-- The number of requests that are answered in a minute. -/
  requestsPerMinute : Int := 100
  /-- The origins from which a page may ask. -/
  corsOrigins : List String := ["http://localhost:5173"]
  deriving DecidableEq, Repr

namespace SecuritySettings

/-- The settings in a table. -/
def check (entries : List (String × Value)) : Checked SecuritySettings :=
  let d : SecuritySettings := {}
  ((Checked.good SecuritySettings.mk).apply
    (Check.field entries "rate_limit_requests_per_minute" Check.integer
      d.requestsPerMinute)).apply
    (Check.field entries "cors_origins" (Check.listOf Check.string) d.corsOrigins)

/-- The settings as a table. -/
def toValue (s : SecuritySettings) : Value := .table [
  ("rate_limit_requests_per_minute", .int s.requestsPerMinute),
  ("cors_origins", .list (s.corsOrigins.map .text))]

end SecuritySettings

/-- Where the service is reached. -/
structure ServerSettings where
  host : String := "0.0.0.0"
  port : Int := 8000
  deriving DecidableEq, Repr

namespace ServerSettings

/-- The settings in a table. -/
def check (entries : List (String × Value)) : Checked ServerSettings :=
  let d : ServerSettings := {}
  ((Checked.good ServerSettings.mk).apply
    (Check.field entries "host" Check.string d.host)).apply
    (Check.field entries "port" Check.integer d.port)

/-- The settings as a table. -/
def toValue (s : ServerSettings) : Value :=
  .table [("host", .text s.host), ("port", .int s.port)]

end ServerSettings

/-- All settings. -/
structure Settings where
  server : ServerSettings := {}
  /-- How often a client may ask, and from where. -/
  security : SecuritySettings := {}
  /-- The limits by which a text is judged. -/
  analyzer : AnalysisSettings := {}
  /-- The name of the least level that is logged. -/
  logLevel : String := "INFO"
  /-- The log file, or the empty text where there is none. -/
  logFile : String := ""
  /-- The number of megabytes at which a log file is set aside. -/
  logRotationMaxMb : Int := 5
  /-- The number of log files that are kept. -/
  logRotationBackups : Int := 3
  /-- The name of the form of the log, or the empty text. -/
  logFormat : String := ""
  deriving DecidableEq, Repr

namespace Settings

/-- The settings as a table. -/
def toValue (s : Settings) : Value := .table [
  ("server", s.server.toValue), ("security", s.security.toValue),
  ("analyzer", s.analyzer.toValue), ("log_level", .text s.logLevel),
  ("log_file", .text s.logFile), ("log_format", .text s.logFormat),
  ("log_rotation_max_mb", .int s.logRotationMaxMb),
  ("log_rotation_backups", .int s.logRotationBackups)]

end Settings

end SourceGrade
