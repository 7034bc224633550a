import SourceGrade.Config.Load

set_option autoImplicit false

/-!
# The settings that ship with the program

The default document that stands beside the program. It writes out the defaults.
-/

namespace SourceGrade.Config

/-- The lines of the default document. -/
def shippedLines : List String := [
  "[server]",
  "host = \"0.0.0.0\"",
  "port = 8000",
  "",
  "[security]",
  "rate_limit_requests_per_minute = 100",
  "cors_origins = [\"http://localhost:5173\"]",
  "",
  "[analyzer]",
  "max_line_length = 120",
  "max_nesting_depth = 4",
  "magic_number_allowlist = [100, 200, 404, 500, 1000, 1024]",
  "short_name_allowlist = [\"i\", \"j\", \"k\", \"x\", \"y\", \"e\", \"_\"]",
  "long_function_lines = 50",
  "complex_function_threshold = 10",
  "body_scan_limit = 5000",
  "max_workers = 8",
  "max_file_size = 1048576",
  "",
  "[logging]",
  "level = \"INFO\"",
  "file = \"\"",
  "format = \"\"  # json | console; empty = console for DEBUG",
  "log_rotation_max_mb = 5",
  "log_rotation_backups = 3"]

/-- The default document. -/
def shippedDocument : String := "\n".intercalate shippedLines ++ "\n"

/-- The shipped settings in an environment. -/
def loadShipped (env : Environment) : Except LoadError Settings :=
  load (some shippedDocument.toList) none env

end SourceGrade.Config
