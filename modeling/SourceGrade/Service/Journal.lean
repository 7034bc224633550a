import SourceGrade.Log.Book
import SourceGrade.Report.Summary

set_option autoImplicit false

/-!
# What the service logs

The records that the service and the analysis leave in the log. Those of the analysis of several
texts at a time come from workers that do not know which request they work for.
-/

namespace SourceGrade.Service

/-- A record, with whether it is known to belong to a request. -/
structure Entry where
  /-- Whether it is known to which request it belongs. -/
  isBound : Bool
  record : Log.Record

namespace Journal

/-- The logger of the program as a whole. -/
def mainLogger : String := "src.main"

/-- The logger of the routes. -/
def routeLogger : String := "src.api.routes.analyze"

/-- The logger of the analysis of one text. -/
def fileLogger : String := "src.infrastructure.analyzer.file_analyzer"

/-- The logger of the analysis of several texts. -/
def projectLogger : String := "src.infrastructure.analyzer.project_analyzer"

/-- The service has started. -/
def started (s : Settings) : Entry where
  isBound := false
  record := {
    logger := mainLogger, level := .info, event := "startup_complete"
    fields := [("max_workers", .int s.analyzer.maxWorkers),
      ("rate_limit", .int s.security.requestsPerMinute)] }

/-- The service has stopped. -/
def stopped : Entry where
  isBound := false
  record := { logger := mainLogger, level := .info, event := "shutdown_complete" }

/-- A text has been analysed. -/
def measured (isBound : Bool) (r : Report) : Entry where
  isBound
  record := {
    logger := fileLogger, level := .debug
    event := "Analyzed " ++ r.filename ++ " (" ++ r.language ++ "): score=" ++ toString r.score ++
      " functions=" ++ toString r.functions.total ++ " smells=" ++ toString r.smells.length }

/-- A text has been analysed on request. -/
def answeredFile (r : Report) : Entry where
  isBound := true
  record := {
    logger := routeLogger, level := .info, event := "analyze_file"
    fields := [("filename", .text r.filename), ("language", .text r.language),
      ("score", .int r.score)] }

/-- A text could not be analysed. -/
def skipped (failure : String × AnalysisError) : Entry where
  isBound := true
  record := {
    logger := projectLogger, level := .warning
    event := "Failed to analyze " ++ failure.1 ++ ": " ++ failure.2.message }

/-- Several texts have been analysed. -/
def summarized (s : Summary) : Entry where
  isBound := true
  record := {
    logger := projectLogger, level := .info
    event := "Analyzed " ++ toString s.reports.length ++ " files: overall=" ++
      toString s.overallScore ++ " (" ++ s.overallGrade.letter ++ "), skipped=" ++
      toString s.skipped.length }

/-- A directory is about to be analysed. -/
def scanning (directory : Path) : Entry where
  isBound := true
  record := {
    logger := projectLogger, level := .info
    event := "Analyzing project: " ++ Path.fromTop directory }

/-- Several texts have been analysed on request. -/
def answeredSummary (event : String) (s : Summary) : Entry where
  isBound := true
  record := {
    logger := routeLogger, level := .info, event
    fields := [("files", .int s.reports.length), ("overall_score", .int s.overallScore),
      ("grade", .text s.overallGrade.letter), ("skipped", .int s.skipped.length)] }

/-- All that is logged of the analysis of several texts, whose outcomes arrive in an order. -/
def arrived (arrivals : List Arrival) : List Entry :=
  (Project.reportsOf arrivals).map (measured false) ++
    (Project.failuresOf arrivals).map skipped ++ [summarized (Project.ofArrivals arrivals)]

end Journal

end SourceGrade.Service
