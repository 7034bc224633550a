import Mathlib
import SourceGrade.Proofs.Service.Serve
import SourceGrade.Proofs.Service.Upload

set_option autoImplicit false

/-!
# Several texts at a time

Two routes take several texts, one for their analysis and one for a report on them. Both read the
same form and accept the same texts, so a body is refused by both or by neither, and for the same
reason. What is refused is not analysed: nothing is logged of it. Where the first text at fault is
one without bytes, the service fails instead of refusing it.
-/

namespace SourceGrade.Service

open Upload (Fine AtFault RefusedFor)

variable {s : Server} {t t' : Tally} {q q' : Request} {r r' : Route} {form : BatchForm}
  {files : List SourceFile} {b : Bench}

/-! ## Answers -/

/-- The status and the body of the answer to texts that are refused. -/
def UploadError.answer : UploadError → Nat × Body
  | .empty => (400, Refusal.words "No files to analyze")
  | .duplicate name => (400, Refusal.words ("Duplicate filename: " ++ name))
  | .unencodable => Refusal.failure
  | .tooLarge name => (413, Refusal.words ("File too large: " ++ name))

theorem Refusal.reply_upload (host : Host) (e : UploadError) :
    (Refusal.upload e).reply host = e.answer := by
  cases e <;> rfl

/-- The answer to files that are accepted at a route: the summary of all of them, as a table or as a
report. -/
def Bench.answerTo (b : Bench) (r : Route) (files : List SourceFile) (includeBodies : Bool) :
    Body :=
  let summary := Project.ofFiles b.settings.analyzer files
  match r with
  | .report => .text (Markdown.ofSummary b.writtenAt (some summary))
  | _ => .json (summary.toValue includeBodies)

/-- What is logged of the analysis of files. -/
def Bench.analysisOf (b : Bench) (files : List SourceFile) : List Entry :=
  Journal.arrived (files.map (Project.analyse b.settings.analyzer))

/-! ## The form of a body -/

/-- A route for several texts. -/
inductive Route.TakesSeveral : Route → Prop where
  | batch : TakesSeveral .batch
  | report : TakesSeveral .report

/-- What is asked for at a route for several texts. -/
def Route.several : Route → BatchForm → Task
  | .report => .report
  | _ => .batch

/-- The form for several texts that the body of a request fills in, or why it does not. -/
def Request.batchForm (q : Request) : Except Refusal BatchForm :=
  match q.payload with
  | .ok p =>
    match p.check BatchForm.check with
    | .good form => .ok form
    | .bad cs => .error (Task.refusalFor p cs)
  | .error (.malformed n) => .error (.invalid [⟨[.key "body", .index n], .malformed⟩])
  | .error .unreadable => .error .unreadable

/-- What a body holds depends on the body and the headers. -/
theorem Request.payload_congr (hbody : q.body = q'.body) (hheaders : q.headers = q'.headers) :
    q.payload = q'.payload := by
  unfold payload bodyIsJson bodyText? header?
  rw [hbody, hheaders]

/-- The form depends on what the body holds and on nothing else of a request. -/
theorem Request.batchForm_congr (h : q.payload = q'.payload) : q.batchForm = q'.batchForm := by
  unfold batchForm
  rw [h]

/-- Both routes read the same form. -/
theorem Task.ofRequest_of_takesSeveral (hr : r.TakesSeveral) (q : Request) :
    Task.ofRequest r q = q.batchForm.map r.several := by
  unfold ofRequest Request.batchForm
  cases hr <;>
  · dsimp only
    cases q.payload with
    | error e => cases e <;> rfl
    | ok p =>
      dsimp only [ofPayload]
      cases p.check BatchForm.check <;> rfl

/-! ## Tasks -/

/-- Texts that are refused end a task before anything is analysed. -/
theorem Task.run_several_of_refusedFor {e : UploadError} (hr : r.TakesSeveral)
    (h : RefusedFor b.settings.analyzer.maxFileSize form.files e) :
    (r.several form).run b = (.error (.upload e), []) := by
  have harrivals : arrivalsOf b form.files = .error (.upload e) := by
    unfold arrivalsOf
    rw [Upload.accept_of_refusedFor h]
  cases hr with
  | batch =>
    show runBatch b form = _
    unfold runBatch
    rw [harrivals]
  | report =>
    show runReport b form = _
    unfold runReport
    rw [harrivals]

/-- Texts that are accepted are all analysed. -/
theorem Task.run_several_of_fine (hr : r.TakesSeveral) (hfiles : form.files = files.map .ofFile)
    (hne : files ≠ []) (h : Fine b.settings.analyzer.maxFileSize files) :
    ((r.several form).run b).1 = .ok (b.answerTo r files form.includeBodies) ∧
      b.analysisOf files <+: ((r.several form).run b).2 := by
  have harrivals : arrivalsOf b form.files =
      .ok (files.map (Project.analyse b.settings.analyzer)) := by
    unfold arrivalsOf
    rw [hfiles, Upload.accept_of_fine hne h]
  cases hr with
  | batch =>
    show (runBatch b form).1 = _ ∧ _ <+: (runBatch b form).2
    unfold runBatch
    rw [harrivals]
    exact ⟨rfl, List.prefix_append _ _⟩
  | report =>
    show (runReport b form).1 = _ ∧ _ <+: (runReport b form).2
    unfold runReport
    rw [harrivals]
    exact ⟨rfl, List.prefix_refl _⟩

/-! ## Requests -/

/-- The quota of a route is not used up. -/
def Server.HasRoom (s : Server) (t : Tally) (r : Route) : Prop :=
  t.exceeded? s.bench.settings.security.requestsPerMinute r = none

/-- A request leads to a route for several texts. -/
structure Request.LeadsTo (q : Request) (r : Route) : Prop where
  takesSeveral : r.TakesSeveral
  found : Routing.of q.method q.path = .found r

/-- What comes of a request whose body fills in the form. -/
theorem Server.serve_several (id : String) (hq : q.LeadsTo r) (hform : q.batchForm = .ok form)
    (hroom : s.HasRoom t r) :
    (s.serve id t q).response =
        s.respond q (q.givenId?.getD id) ((r.several form).run s.bench).1 ∧
      (s.serve id t q).entries = ((r.several form).run s.bench).2 := by
  have htask : Task.ofRequest r q = .ok (r.several form) := by
    rw [Task.ofRequest_of_takesSeveral hq.takesSeveral, hform]
    rfl
  unfold HasRoom at hroom
  unfold serve dispatch carryOut
  rw [Request.plannedMethod?_of_found hq.found, hq.found]
  dsimp only
  rw [htask]
  dsimp only
  rw [hroom]
  exact ⟨rfl, rfl⟩

/-- A body that does not fill in the form is refused, and nothing is analysed. -/
theorem Server.serve_of_batchForm_error {e : Refusal} (s : Server) (id : String) (t : Tally)
    (hq : q.LeadsTo r) (hform : q.batchForm = .error e) :
    (s.serve id t q).response = s.respond q (q.givenId?.getD id) (.error e) := by
  have htask : Task.ofRequest r q = .error e := by
    rw [Task.ofRequest_of_takesSeveral hq.takesSeveral, hform]
    rfl
  unfold serve dispatch carryOut
  rw [Request.plannedMethod?_of_found hq.found, hq.found]
  dsimp only
  rw [htask]

theorem Server.body_respond_error (s : Server) (q : Request) (id : String) (e : Refusal) :
    (s.respond q id (.error e)).body = (e.reply s.bench.host).2 := by
  unfold respond
  dsimp only
  split <;> rfl

/-- Texts that are accepted are all analysed, and the answer is what comes of that. -/
theorem Server.serve_several_of_fine (id : String) (hq : q.LeadsTo r)
    (hform : q.batchForm = .ok form) (hroom : s.HasRoom t r)
    (hfiles : form.files = files.map .ofFile) (hne : files ≠ [])
    (hfine : Fine s.bench.settings.analyzer.maxFileSize files) :
    (s.serve id t q).response.status = 200 ∧
      (s.serve id t q).response.body = s.bench.answerTo r files form.includeBodies ∧
      s.bench.analysisOf files <+: (s.serve id t q).entries := by
  obtain ⟨hresponse, hentries⟩ := serve_several id hq hform hroom
  obtain ⟨hresult, hlogged⟩ := Task.run_several_of_fine hq.takesSeveral hfiles hne hfine
  rw [hresponse, hentries, hresult]
  exact ⟨rfl, rfl, hlogged⟩

/-- Texts that are refused are not analysed, and the answer says why. -/
theorem Server.serve_several_of_refusedFor {e : UploadError} (id : String) (hq : q.LeadsTo r)
    (hform : q.batchForm = .ok form) (hroom : s.HasRoom t r)
    (hrefused : RefusedFor s.bench.settings.analyzer.maxFileSize form.files e) :
    (s.serve id t q).response.status = e.answer.1 ∧
      (s.serve id t q).response.body = e.answer.2 ∧
      (s.serve id t q).entries = [] := by
  obtain ⟨hresponse, hentries⟩ := serve_several id hq hform hroom
  rw [hresponse, hentries, Task.run_several_of_refusedFor hq.takesSeveral hrefused,
    status_respond_error, body_respond_error, Refusal.reply_upload]
  exact ⟨rfl, rfl, rfl⟩

/-- Two requests with the same body, be they for the same route or not, have the same status, and
the same words where they are refused. -/
theorem Server.serve_alike (id : String) (hq : q.LeadsTo r) (hq' : q'.LeadsTo r')
    (hpayload : q.payload = q'.payload) (hroom : s.HasRoom t r) (hroom' : s.HasRoom t' r') :
    (s.serve id t q).response.status = (s.serve id t' q').response.status ∧
      ((s.serve id t q).response.status ≠ 200 →
        (s.serve id t q).response.body = (s.serve id t' q').response.body) := by
  have hsame := Request.batchForm_congr hpayload
  cases hform : q.batchForm with
  | error e =>
    rw [s.serve_of_batchForm_error id t hq hform,
      s.serve_of_batchForm_error id t' hq' (hsame.symm.trans hform)]
    simp only [status_respond_error, body_respond_error]
    exact ⟨trivial, fun _ => trivial⟩
  | ok form =>
    have hform' := hsame.symm.trans hform
    rcases Upload.fine_or_refusedFor s.bench.settings.analyzer.maxFileSize form.files with
      ⟨files, hfiles, hne, hfine⟩ | ⟨e, he⟩
    · have hstatus := (serve_several_of_fine id hq hform hroom hfiles hne hfine).1
      have hstatus' := (serve_several_of_fine id hq' hform' hroom' hfiles hne hfine).1
      exact ⟨hstatus.trans hstatus'.symm, fun hother => absurd hstatus hother⟩
    · obtain ⟨hstatus, hbody, -⟩ := serve_several_of_refusedFor id hq hform hroom he
      obtain ⟨hstatus', hbody', -⟩ := serve_several_of_refusedFor id hq' hform' hroom' he
      exact ⟨hstatus.trans hstatus'.symm, fun _ => hbody.trans hbody'.symm⟩

/-- What a service makes of several texts that are sent to it. -/
structure Server.JudgesTexts (s : Server) : Prop where
  /-- Fine texts are all analysed, in their order, and the answer is what comes of that. -/
  analyses : ∀ id t q r form files, q.LeadsTo r → q.batchForm = .ok form → s.HasRoom t r →
    form.files = files.map SentFile.ofFile → files ≠ [] →
    Fine s.bench.settings.analyzer.maxFileSize files →
      (s.serve id t q).response.status = 200 ∧
      (s.serve id t q).response.body = s.bench.answerTo r files form.includeBodies ∧
      s.bench.analysisOf files <+: (s.serve id t q).entries
  /-- Other texts are not analysed, and the answer says what is wrong with the first one at fault,
  unless that one has no bytes: then the service fails. -/
  refuses : ∀ id t q r form e, q.LeadsTo r → q.batchForm = .ok form → s.HasRoom t r →
    RefusedFor s.bench.settings.analyzer.maxFileSize form.files e →
      (s.serve id t q).response.status = e.answer.1 ∧
      (s.serve id t q).response.body = e.answer.2 ∧
      (s.serve id t q).entries = []
  /-- Both routes accept the same bodies, and refuse the others in the same words. -/
  alike : ∀ id t t' q q' r r', q.LeadsTo r → q'.LeadsTo r' → q.payload = q'.payload →
    s.HasRoom t r → s.HasRoom t' r' →
      (s.serve id t q).response.status = (s.serve id t' q').response.status ∧
      ((s.serve id t q).response.status ≠ 200 →
        (s.serve id t q).response.body = (s.serve id t' q').response.body)

/-- Texts are accepted, all of them in their order, if and only if there are some and all are files
that are fine, and they are refused for nothing but the first one at fault. A service analyses the
texts that it accepts and no others, whichever of the two routes they are sent to. -/
theorem Server.judges_first_fault (s : Server) :
    (∀ maxSize sent,
      (∀ accepted, Upload.accept maxSize sent = .ok accepted ↔
        sent = accepted.map SentFile.ofFile ∧ accepted ≠ [] ∧ Fine maxSize accepted) ∧
      ∀ e, Upload.accept maxSize sent = .error e ↔ RefusedFor maxSize sent e) ∧
    s.JudgesTexts where
  left := fun _ _ => ⟨fun _ => Upload.accept_eq_ok_iff, fun _ => Upload.accept_eq_error_iff⟩
  right := {
    analyses := fun id _ _ _ _ _ hq hform hroom hfiles hne hfine =>
      serve_several_of_fine id hq hform hroom hfiles hne hfine
    refuses := fun id _ _ _ _ _ hq hform hroom hrefused =>
      serve_several_of_refusedFor id hq hform hroom hrefused
    alike := fun id _ _ _ _ _ _ hq hq' hpayload hroom hroom' =>
      serve_alike id hq hq' hpayload hroom hroom' }

/-! ### A name that comes twice, the second time with too large a text -/

/-- A service that takes texts of one byte. -/
def tinyServer : Server where
  bench := {
    settings := { analyzer := { maxFileSize := 1 } }
    host := { workingDirectory := ["w"], files := ⟨[(["w"], .directory)]⟩ }
    writtenAt := "" }
  allowedOrigins := []

/-- A request for the analysis of a text of one byte. -/
def fineTexts : Request where
  method := "POST"
  target := "/analyze/batch"
  body := "\x7b\"files\":[\x7b\"filename\":\"a\",\"text\":\"x\"\x7d]\x7d".toList

/-- A request with a second text of the same name, which is too large. -/
def repeatedTexts : Request where
  method := "POST"
  target := "/analyze/batch"
  body := ("\x7b\"files\":[\x7b\"filename\":\"a\",\"text\":\"x\"\x7d," ++
    "\x7b\"filename\":\"a\",\"text\":\"xx\"\x7d]\x7d").toList

/-- The same body, sent for a report. -/
def repeatedReport : Request := { repeatedTexts with target := "/analyze/report" }

theorem hasRoom_tinyServer (r : Route) : tinyServer.HasRoom Tally.zero r := by
  unfold Server.HasRoom
  cases r <;> decide

theorem leadsTo_fineTexts : fineTexts.LeadsTo .batch := ⟨.batch, rfl⟩

theorem leadsTo_repeatedTexts : repeatedTexts.LeadsTo .batch := ⟨.batch, rfl⟩

theorem leadsTo_repeatedReport : repeatedReport.LeadsTo .report := ⟨.report, rfl⟩

/-- A file of one byte, as it is sent. -/
def oneByte : SentFile := .ofFile ⟨"a", ['x']⟩

/-- A file of the same name with two bytes, as it is sent. -/
def twoBytes : SentFile := .ofFile ⟨"a", ['x', 'x']⟩

theorem batchForm_fineTexts : fineTexts.batchForm = .ok ⟨[oneByte], false⟩ := by cbv

theorem batchForm_repeatedTexts :
    repeatedTexts.batchForm = .ok ⟨[oneByte, twoBytes], false⟩ := by cbv

theorem fine_oneByte : Fine 1 [⟨"a", ['x']⟩] := ⟨by decide, by decide⟩

/-- The repeated name counts before the size, at both routes. -/
theorem judges_first_fault_repeatedTexts :
    (fineTexts.LeadsTo .batch ∧ tinyServer.HasRoom Tally.zero .batch ∧
      fineTexts.batchForm = .ok ⟨[oneByte], false⟩ ∧ Fine 1 [⟨"a", ['x']⟩] ∧
      (tinyServer.serve "id" Tally.zero fineTexts).response.status = 200) ∧
    (repeatedTexts.LeadsTo .batch ∧
      repeatedTexts.batchForm = .ok ⟨[oneByte, twoBytes], false⟩ ∧
      RefusedFor 1 [oneByte, twoBytes] (.duplicate "a") ∧
      (tinyServer.serve "id" Tally.zero repeatedTexts).response.status = 400 ∧
      (tinyServer.serve "id" Tally.zero repeatedTexts).entries = []) ∧
    repeatedReport.LeadsTo .report ∧ repeatedTexts.payload = repeatedReport.payload ∧
      tinyServer.HasRoom Tally.zero .report ∧
      (tinyServer.serve "id" Tally.zero repeatedTexts).response.status =
        (tinyServer.serve "id" Tally.zero repeatedReport).response.status := by
  obtain ⟨-, hanalyses, hrefuses, halike⟩ := Server.judges_first_fault tinyServer
  have hroom := hasRoom_tinyServer .batch
  have hroom' := hasRoom_tinyServer .report
  have hrefused : RefusedFor 1 [oneByte, twoBytes] (.duplicate "a") :=
    .first (f := twoBytes) fine_oneByte (.duplicate (by decide)) []
  obtain ⟨hstatus, -, hentries⟩ := hrefuses "id" _ _ _ _ _ leadsTo_repeatedTexts
    batchForm_repeatedTexts hroom hrefused
  have hfine := hanalyses "id" _ _ _ _ [⟨"a", ['x']⟩] leadsTo_fineTexts batchForm_fineTexts hroom
    rfl (by decide) fine_oneByte
  have hpayload : repeatedTexts.payload = repeatedReport.payload :=
    Request.payload_congr rfl rfl
  have hsame := halike "id" _ _ _ _ _ _ leadsTo_repeatedTexts leadsTo_repeatedReport hpayload
    hroom hroom'
  exact ⟨⟨leadsTo_fineTexts, hroom, batchForm_fineTexts, fine_oneByte, hfine.1⟩,
    ⟨leadsTo_repeatedTexts, batchForm_repeatedTexts, hrefused, hstatus, hentries⟩,
    leadsTo_repeatedReport, hpayload, hroom', hsame.1⟩

/-! ### A text without bytes -/

/-- A text of half a pair of code units and two characters, as it is sent. -/
def brokenText : SentFile := ⟨"a", [.ofNat 0xD800, .char 'x', .char 'x']⟩

/-- A request for the analysis of that text. -/
def brokenUpload : Request where
  method := "POST"
  target := "/analyze/batch"
  body := "\x7b\"files\":[\x7b\"filename\":\"a\",\"text\":\"\\ud800xx\"\x7d]\x7d".toList

/-- Half a pair has no bytes that could be counted. So the service fails for a text that holds one,
although the characters beside it alone have more bytes than it takes. -/
theorem brokenUpload_fails :
    brokenUpload.LeadsTo .batch ∧ tinyServer.HasRoom Tally.zero .batch ∧
    brokenUpload.batchForm = .ok ⟨[brokenText], false⟩ ∧
    (∀ file : SourceFile, brokenText ≠ .ofFile file) ∧
    tinyServer.bench.settings.analyzer.maxFileSize <
      ((Text.Utf8.encode (brokenText.text.filterMap (·.char?))).length : Int) ∧
    (tinyServer.serve "id" Tally.zero brokenUpload).response.status = 500 := by
  have hleads : brokenUpload.LeadsTo .batch := ⟨.batch, rfl⟩
  have hroom := hasRoom_tinyServer .batch
  have hform : brokenUpload.batchForm = .ok ⟨[brokenText], false⟩ := by cbv
  have hbroken : ∀ file : SourceFile, brokenText ≠ .ofFile file := by
    intro file heq
    have hchars : brokenText.text.chars? = some file.text :=
      Text.WideText.chars?_eq_some_iff.mpr (congrArg SentFile.text heq)
    cases hchars
  have hrefused : RefusedFor 1 [brokenText] .unencodable :=
    .first (Upload.fine_nil 1) (.unencodable List.not_mem_nil hbroken) []
  have hfails := Server.serve_several_of_refusedFor "id" hleads hform hroom hrefused
  exact ⟨hleads, hroom, hform, hbroken, by decide, hfails.1⟩

end SourceGrade.Service
