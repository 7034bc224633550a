import SourceGrade.File.Scan
import SourceGrade.Report.Encode
import SourceGrade.Report.Markdown
import SourceGrade.Service.Forms
import SourceGrade.Service.Journal
import SourceGrade.Service.Quota
import SourceGrade.Service.Response

set_option autoImplicit false

/-!
# Tasks

A task is a request that has been understood: a route with what its body asks for. Carrying it out
gives the body of the answer or the reason of a refusal, and what is logged of it.
-/

namespace SourceGrade.Service

/-- A request that has been understood. -/
inductive Task where
  /-- To say that the service is well. -/
  | health
  | languages
  | file (form : FileForm)
  | batch (form : BatchForm)
  /-- To write a report on several texts. -/
  | report (form : BatchForm)
  | project (form : ProjectForm)

/-- What tasks are carried out with. -/
structure Bench where
  settings : Settings
  /-- The surroundings. -/
  host : Host
  /-- The time that reports are written at. -/
  writtenAt : String

/-- What comes of a task: the body of the answer or the reason of a refusal, with what is
logged. -/
abbrev Result := Except Refusal Body × List Entry

namespace Task

/-- The refusal of a body for complaints. The answer shows what they are about, and the service
fails where that cannot be written. -/
def refusalFor (p : Payload) (cs : List Complaint) : Refusal :=
  if cs.all p.canShow then .invalid cs else .failed

/-- What a checked body asks for. -/
def ofChecked {α : Type} (p : Payload) (task : α → Task) : Checked α → Except Refusal Task
  | .good form => .ok (task form)
  | .bad cs => .error (refusalFor p cs)

/-- The task of a body at a route. -/
def ofPayload (r : Route) (p : Payload) : Except Refusal Task :=
  match r with
  | .health => .ok health
  | .languages => .ok languages
  | .file => ofChecked p file (p.check FileForm.check)
  | .batch => ofChecked p batch (p.check BatchForm.check)
  | .report => ofChecked p report (p.check BatchForm.check)
  | .project => ofChecked p project (p.check ProjectForm.check)

/-- The task of a request at a route. -/
def ofRequest (r : Route) (q : Request) : Except Refusal Task :=
  match r with
  | .health => .ok health
  | .languages => .ok languages
  | _ =>
    match q.payload with
    | .ok p => ofPayload r p
    | .error (.malformed n) => .error (.invalid [⟨[.key "body", .index n], .malformed⟩])
    | .error .unreadable => .error .unreadable

/-- That the service is well. -/
def healthValue : Value :=
  .table [("status", .text "ok"), ("service", .text "code-quality-analyzer")]

/-- A registered language with what is known of it. -/
def languageValue (l : Language) : Value := .table [
  ("name", .text l.tag), ("extensions", .list (l.extensions.map .text)),
  ("naming_convention", .text l.convention.name)]

/-- The registered languages. -/
def languagesValue : Value := .table [
  ("default", .text Language.fallback.tag),
  ("languages", .list (Language.registry.map languageValue))]

/-- What comes of the analysis of one text. -/
def runFile (b : Bench) (form : FileForm) : Result :=
  let limits := b.settings.analyzer
  match Upload.receive limits.maxFileSize form.file with
  | .error e => (.error (.upload e), [])
  | .ok received =>
    match Report.ofText limits received.name received.text with
    | .ok r =>
      (.ok (.json (r.toValue form.includeBodies)),
        [Journal.measured true r, Journal.answeredFile r])
    | .error _ => (.error .failed, [])

/-- The arrivals of accepted texts. -/
def arrivalsOf (b : Bench) (sent : List SentFile) : Except Refusal (List Arrival) :=
  match Upload.accept b.settings.analyzer.maxFileSize sent with
  | .ok files => .ok (files.map (Project.analyse b.settings.analyzer))
  | .error e => .error (.upload e)

/-- What comes of the analysis of several texts. -/
def runBatch (b : Bench) (form : BatchForm) : Result :=
  match arrivalsOf b form.files with
  | .error e => (.error e, [])
  | .ok arrivals =>
    let s := Project.ofArrivals arrivals
    (.ok (.json (s.toValue form.includeBodies)),
      Journal.arrived arrivals ++ [Journal.answeredSummary "analyze_batch" s])

/-- What comes of a report on several texts. -/
def runReport (b : Bench) (form : BatchForm) : Result :=
  match arrivalsOf b form.files with
  | .error e => (.error e, [])
  | .ok arrivals =>
    let s := Project.ofArrivals arrivals
    (.ok (.text (Markdown.ofSummary b.writtenAt (some s))), Journal.arrived arrivals)

/-- What comes of the analysis of a directory. -/
def runProject (b : Bench) (form : ProjectForm) : Result :=
  match b.host.directoryWithin form.path with
  | .error e => (.error (.workspace e), [])
  | .ok place =>
    let limits := b.settings.analyzer
    let files := Scan.sourceFiles b.host.files limits.maxFileSize place
    let arrivals := files.map (Project.analyse limits)
    let s := Project.ofArrivals arrivals
    (.ok (.json (s.toValue form.includeBodies)),
      Journal.scanning place :: Journal.arrived arrivals ++
        [Journal.answeredSummary "analyze_project" s])

/-- What comes of a task. -/
def run (b : Bench) : Task → Result
  | health => (.ok (.json healthValue), [])
  | languages => (.ok (.json languagesValue), [])
  | file form => runFile b form
  | batch form => runBatch b form
  | report form => runReport b form
  | project form => runProject b form

end Task

end SourceGrade.Service
