import Mathlib
import SourceGrade.Proofs.File.Scan
import SourceGrade.Proofs.File.Spelling
import SourceGrade.Proofs.Service.Serve

set_option autoImplicit false

/-!
# Requests stay in the workspace

A path is judged by the place that it means: `Host.destination?` tells it from what stands between
the slashes of the path as it is spelled. A request for a directory is refused if and only if that
place is not at or below the working directory, and nothing outside has an influence on what comes
of a request.
-/

namespace SourceGrade

namespace Service

open PathText (enter isStill namesOf)
open SourceGrade.Text (WideText)

/-! ## The place that a path leads to -/

namespace Host

variable {h : Host} {path : String} {wide : WideText} {place : Path}

/-- The place that a written path leads to. A path that begins with a slash is followed from the
top. If the first part that changes something begins with a tilde, it stands for a home directory,
and the rest is followed from there. Any other path is followed from the working directory. -/
def destinationOf? (h : Host) (path : String) : Option Path :=
  let parts := path.toList.splitOn '/'
  if path.toList.head? = some '/' then some (parts.foldl enter [])
  else
    match parts.dropWhile isStill with
    | ('~' :: user) :: rest =>
      (h.homes.lookup (String.ofList user)).map fun home =>
        rest.foldl enter (home.foldl PathText.step [])
    | _ => some (parts.foldl enter h.workingDirectory)

/-- The place that a path leads to, if it can be spelled. -/
def destination? (h : Host) (path : WideText) : Option Path :=
  (PathText.spelling? path).bind fun written => h.destinationOf? (String.ofList written)

theorem destination?_ofString (h : Host) (path : String) :
    h.destination? (.ofString path) = h.destinationOf? path := by
  unfold destination? WideText.ofString
  rw [PathText.spelling?_ofChars, Option.bind_some, String.ofList_toList]

theorem resolve_home (home : Path) (rest : List (List Char)) (workingDirectory : Path) :
    PathText.resolve ⟨1, home ++ namesOf rest⟩ workingDirectory =
      rest.foldl enter (home.foldl PathText.step []) := by
  unfold PathText.resolve PathText.start
  rw [if_neg Nat.one_ne_zero, List.foldl_append, PathText.foldl_step_namesOf]

theorem expandHome_of_slashes {p : PathText} (hslashes : p.slashes ≠ 0) :
    h.expandHome p = some p := by
  unfold expandHome
  split
  · rename_i hzero _
    exact absurd hzero hslashes
  · rfl

theorem expandHome_of_names {p : PathText} {name : String} {rest : List String}
    (hslashes : p.slashes = 0) (hnames : p.names = name :: rest) :
    h.expandHome p =
      match name.toList with
      | '~' :: user =>
        (h.homes.lookup (String.ofList user)).map fun home => ⟨1, home ++ rest⟩
      | _ => some p := by
  unfold expandHome
  rw [hslashes, hnames]
  rfl

/-- In a path that does not begin with a slash, only the first part that changes something decides
whether there is a home directory. -/
theorem expandHome_ofText (hrelative : path.toList.head? ≠ some '/') :
    h.expandHome (PathText.ofText path) =
      match (path.toList.splitOn '/').dropWhile isStill with
      | ('~' :: user) :: rest =>
        (h.homes.lookup (String.ofList user)).map fun home => ⟨1, home ++ namesOf rest⟩
      | _ => some (PathText.ofText path) := by
  have hslashes : (PathText.ofText path).slashes = 0 :=
    (PathText.slashes_ofText_eq_zero_iff path).mpr hrelative
  have hnames := PathText.names_ofText path
  rw [← PathText.namesOf_dropWhile] at hnames
  have hfirst := List.head?_dropWhile_not isStill (path.toList.splitOn '/')
  cases hparts : (path.toList.splitOn '/').dropWhile isStill with
  | nil =>
    rw [hparts] at hnames
    unfold expandHome
    rw [hslashes, hnames]
    rfl
  | cons part rest =>
    rw [hparts] at hfirst hnames
    rw [PathText.namesOf_cons hfirst] at hnames
    rw [expandHome_of_names hslashes hnames, String.toList_ofList]
    split
    · rfl
    · rename_i hother
      split
      · rename_i user _ hpart
        exact absurd (List.cons.inj hpart).1 (hother user)
      · rfl

/-- A written path is taken for the place that it leads to. -/
theorem map_resolve_expandHome (h : Host) (path : String) :
    (h.expandHome (PathText.ofText path)).map (·.resolve h.workingDirectory) =
      h.destinationOf? path := by
  unfold destinationOf?
  by_cases habsolute : path.toList.head? = some '/'
  · have hslashes : (PathText.ofText path).slashes ≠ 0 := fun hzero =>
      (PathText.slashes_ofText_eq_zero_iff path).mp hzero habsolute
    rw [expandHome_of_slashes hslashes, Option.map_some, PathText.resolve_ofText,
      if_pos habsolute, if_pos habsolute]
  · rw [if_neg habsolute, expandHome_ofText habsolute]
    split
    · rw [Option.map_map]
      exact congrArg (fun f => Option.map f _) (funext fun home => resolve_home home _ _)
    · rw [Option.map_some, PathText.resolve_ofText, if_neg habsolute]

/-- The place that a path is taken for is the one that it leads to. -/
theorem placeOf?_eq_destination? (hnull : .char '\x00' ∉ wide) :
    h.placeOf? wide = h.destination? wide := by
  have hcontains : wide.contains (.char '\x00') = false := by
    rw [List.contains_eq_mem, decide_eq_false hnull]
  unfold placeOf? destination?
  rw [hcontains, if_neg Bool.false_ne_true]
  exact congrArg _ (funext fun written => h.map_resolve_expandHome (String.ofList written))

/-! ## Directories within the workspace -/

theorem directoryWithin_of_not_within (hplace : h.placeOf? wide = some place)
    (hwithin : ¬ h.workingDirectory <+: place) : h.directoryWithin wide = .error .outside := by
  have houtside : h.workingDirectory.isWithin place = false :=
    Bool.eq_false_iff.mpr (mt Path.isWithin_iff.mp hwithin)
  unfold directoryWithin
  rw [hplace]
  dsimp only
  rw [houtside]
  rfl

theorem directoryWithin_of_within (hplace : h.placeOf? wide = some place)
    (hwithin : h.workingDirectory <+: place) :
    h.directoryWithin wide =
      match h.files.look (h.stored place) with
      | .ok (some .directory) => .ok (h.stored place)
      | .ok (some (.file _)) => .error .notDirectory
      | .ok none => .error (missing wide)
      | .error _ => .error .unusable := by
  unfold directoryWithin
  rw [hplace]
  dsimp only
  rw [Path.isWithin_iff.mpr hwithin]
  rfl

theorem missing_ne_outside (wide : WideText) : missing wide ≠ .outside := by
  unfold missing
  split <;> exact nofun

/-- A path is refused for where it leads if and only if that is outside the working directory,
whatever there may be. -/
theorem directoryWithin_eq_outside_iff (hplace : h.placeOf? wide = some place) :
    h.directoryWithin wide = .error .outside ↔ ¬ h.workingDirectory <+: place := by
  refine ⟨fun houtside hwithin => ?_, directoryWithin_of_not_within hplace⟩
  rw [directoryWithin_of_within hplace hwithin] at houtside
  split at houtside
  · cases houtside
  · cases houtside
  · exact missing_ne_outside wide (Except.error.inj houtside)
  · cases houtside

/-- The names that are looked up are those below the working directory. -/
theorem within_stored (h : Host) (place : Path) : h.workingDirectory <+: h.stored place :=
  List.prefix_append _ _

/-- A directory is taken only if it is the working directory or lies within it. -/
theorem within_of_directoryWithin_eq_ok (hok : h.directoryWithin wide = .ok place) :
    h.workingDirectory <+: place := by
  cases hplace : h.placeOf? wide with
  | none =>
    unfold directoryWithin at hok
    rw [hplace] at hok
    cases hok
  | some meant =>
    by_cases hwithin : h.workingDirectory <+: meant
    · rw [directoryWithin_of_within hplace hwithin] at hok
      split at hok
      · exact Except.ok.inj hok ▸ h.within_stored meant
      all_goals cases hok
    · rw [directoryWithin_of_not_within hplace hwithin] at hok
      cases hok

/-- The surroundings with other files. -/
def onFiles (h : Host) (files : FileSystem) : Host := { h with files }

theorem upward_notMem_placeOf? (hplain : PathText.upward ∉ h.workingDirectory)
    (hplace : h.placeOf? wide = some place) : PathText.upward ∉ place := by
  unfold placeOf? at hplace
  split at hplace
  · cases hplace
  · obtain ⟨written, -, hplace⟩ := Option.bind_eq_some_iff.mp hplace
    obtain ⟨p, -, rfl⟩ := Option.map_eq_some_iff.mp hplace
    exact PathText.upward_notMem_resolve hplain p

theorem upward_notMem_stored (hplain : PathText.upward ∉ h.workingDirectory)
    (hplace : PathText.upward ∉ place) : PathText.upward ∉ h.stored place := by
  unfold stored Path.relativeTo
  rw [List.mem_append, List.mem_map]
  rintro (hmem | ⟨name, hmem, hname⟩)
  · exact hplain hmem
  · refine PathText.storedName_ne_upward (fun heq => hplace ?_) hname
    exact heq ▸ List.mem_of_mem_drop hmem

variable {files files' : FileSystem}

/-- What lies outside the working directory has no influence on which directory is taken. -/
theorem directoryWithin_onFiles_eq (htree : files.IsTree) (htree' : files'.IsTree)
    (hdirectory : files.get? h.workingDirectory = some .directory)
    (hagree : FileSystem.AgreeWithin h.workingDirectory files files') (wide : WideText) :
    (h.onFiles files).directoryWithin wide = (h.onFiles files').directoryWithin wide := by
  have hdirectory' : files'.get? h.workingDirectory = some .directory := by
    have hhere := hagree []
    rwa [List.append_nil, hdirectory, eq_comm] at hhere
  cases hplace : h.placeOf? wide with
  | none =>
    have hnone : ∀ files, (h.onFiles files).directoryWithin wide = .error .unusable := by
      intro files
      have hplace' : (h.onFiles files).placeOf? wide = none := hplace
      unfold directoryWithin
      rw [hplace']
    rw [hnone, hnone]
  | some place =>
    have hplace' : ∀ files, (h.onFiles files).placeOf? wide = some place := fun _ => hplace
    by_cases hwithin : h.workingDirectory <+: place
    · have hplain : PathText.upward ∉ h.workingDirectory :=
        (htree.isPlain hdirectory).upward_notMem
      have hlook : (h.onFiles files).files.look ((h.onFiles files).stored place) =
          (h.onFiles files').files.look ((h.onFiles files').stored place) :=
        FileSystem.look_eq_of_agreeWithin htree htree' hdirectory hdirectory' hagree
          (h.within_stored place)
          (upward_notMem_stored hplain (upward_notMem_placeOf? hplain hplace))
      rw [directoryWithin_of_within (hplace' files) hwithin,
        directoryWithin_of_within (hplace' files') hwithin, hlook]
      rfl
    · rw [directoryWithin_of_not_within (hplace' files) hwithin,
        directoryWithin_of_not_within (hplace' files') hwithin]

end Host

/-! ## Requests -/

/-- The status is that of a path outside the workspace. -/
theorem Refusal.status_eq_forbidden_iff (e : Refusal) (host : Host) :
    (e.reply host).1 = 403 ↔ e = .workspace .outside := by
  constructor
  · intro h
    cases e with
    | workspace e =>
      cases e with
      | outside => rfl
      | _ => cases h
    | upload e => cases e <;> cases h
    | _ => cases h
  · rintro rfl
    rfl

namespace Task

variable {b : Bench}

theorem runProject_eq_outside_iff (form : ProjectForm) :
    (runProject b form).1 = .error (.workspace .outside) ↔
      b.host.directoryWithin form.path = .error .outside := by
  unfold runProject
  cases h : b.host.directoryWithin form.path with
  | error e =>
    dsimp only
    rw [Except.error.injEq, Refusal.workspace.injEq, Except.error.injEq]
  | ok place =>
    constructor
    · exact nofun
    · exact nofun

end Task

/-- What tasks are carried out with, with other files. -/
def Bench.onFiles (b : Bench) (files : FileSystem) : Bench :=
  { b with host := b.host.onFiles files }

/-- The service with other files. -/
def Server.onFiles (s : Server) (files : FileSystem) : Server :=
  { s with bench := s.bench.onFiles files }

variable {files files' : FileSystem}

/-- Nothing outside the working directory has an influence on what comes of a task. -/
theorem Task.run_onFiles_eq (b : Bench) (htree : files.IsTree) (htree' : files'.IsTree)
    (hdirectory : files.get? b.host.workingDirectory = some .directory)
    (hagree : FileSystem.AgreeWithin b.host.workingDirectory files files') (task : Task) :
    task.run (b.onFiles files) = task.run (b.onFiles files') := by
  cases task with
  | project form =>
    show runProject (b.onFiles files) form = runProject (b.onFiles files') form
    have hsame : (b.onFiles files).host.directoryWithin form.path =
        (b.onFiles files').host.directoryWithin form.path :=
      Host.directoryWithin_onFiles_eq htree htree' hdirectory hagree form.path
    unfold runProject
    rw [hsame]
    cases hplace : (b.onFiles files').host.directoryWithin form.path with
    | error e => rfl
    | ok place =>
      have hwithin : (b.onFiles files').host.workingDirectory <+: place :=
        Host.within_of_directoryWithin_eq_ok hplace
      have hfiles : Scan.sourceFiles files b.settings.analyzer.maxFileSize place =
          Scan.sourceFiles files' b.settings.analyzer.maxFileSize place :=
        Scan.sourceFiles_eq_of_agreeWithin htree htree' (hagree.of_prefix hwithin)
      dsimp only [Bench.onFiles, Host.onFiles]
      rw [hfiles]
  | health => rfl
  | languages => rfl
  | file form => simp only [run, runFile, Bench.onFiles]
  | batch form => simp only [run, runBatch, arrivalsOf, Bench.onFiles]
  | report form => simp only [run, runReport, arrivalsOf, Bench.onFiles]

theorem Refusal.reply_onFiles (host : Host) (files : FileSystem) (e : Refusal) :
    e.reply (host.onFiles files) = e.reply host := by
  cases e with
  | upload e => cases e <;> rfl
  | workspace e => cases e <;> rfl
  | _ => rfl

namespace Server

variable {s : Server} {t : Tally} {q : Request} {id : String} {form : ProjectForm} {place : Path}

theorem respond_onFiles (s : Server) (files : FileSystem) (q : Request) (id : String)
    (result : Except Refusal Body) :
    (s.onFiles files).respond q id result = s.respond q id result := by
  cases result with
  | ok body => rfl
  | error e =>
    have hreply : e.reply (s.onFiles files).bench.host = e.reply s.bench.host :=
      Refusal.reply_onFiles s.bench.host files e
    unfold respond
    dsimp only
    rw [hreply]
    rfl

theorem status_respond_eq_forbidden_iff {result : Except Refusal Body} :
    (s.respond q id result).status = 403 ↔ result = .error (.workspace .outside) := by
  rw [status_respond_eq_iff (by decide)]
  constructor
  · rintro ⟨e, rfl, hstatus⟩
    exact congrArg Except.error ((e.status_eq_forbidden_iff s.bench.host).mp hstatus)
  · rintro rfl
    exact ⟨_, rfl, rfl⟩

/-- Files have an influence on what comes of a request only through its task. -/
theorem serve_onFiles_eq (s : Server)
    (hrun : ∀ task : Task, task.run (s.bench.onFiles files) = task.run (s.bench.onFiles files'))
    (id : String) (t : Tally) (q : Request) :
    (s.onFiles files).serve id t q = (s.onFiles files').serve id t q := by
  have hcarry : ∀ r, (s.onFiles files).carryOut t r q = (s.onFiles files').carryOut t r q := by
    intro r
    unfold carryOut
    cases Task.ofRequest r q with
    | error e => rfl
    | ok task =>
      have htask : task.run (s.onFiles files).bench = task.run (s.onFiles files').bench := hrun task
      dsimp only
      rw [htask]
      rfl
  have hdispatch : (s.onFiles files).dispatch t q = (s.onFiles files').dispatch t q := by
    unfold dispatch
    cases Routing.of q.method q.path with
    | refused e => rfl
    | found r => exact hcarry r
  unfold serve
  simp only [hdispatch, respond_onFiles]
  rfl

/-- A request that reaches the analysis of directories in time is refused for where its path leads
if and only if that is outside the working directory. -/
theorem status_serve_eq_forbidden_iff (s : Server) (id : String)
    (hfound : Routing.of q.method q.path = .found .project)
    (htask : Task.ofRequest .project q = .ok (.project form)) (hcount : t.count .project < 10)
    (hnull : .char '\x00' ∉ form.path)
    (hplace : s.bench.host.destination? form.path = some place) :
    (s.serve id t q).response.status = 403 ↔ ¬ s.bench.host.workingDirectory <+: place := by
  have hexceeded : t.exceeded? s.bench.settings.security.requestsPerMinute .project = none :=
    if_neg (Nat.not_le.mpr hcount)
  rw [← Host.placeOf?_eq_destination? hnull] at hplace
  rw [(s.serve_of_reached id t hfound htask).2, hexceeded]
  rw [← Host.directoryWithin_eq_outside_iff hplace, status_respond_eq_forbidden_iff]
  exact Task.runProject_eq_outside_iff form

/-- A name that begins like the name of the working directory is that of another directory. -/
theorem not_within_of_longer_name {parent rest : Path} {name suffix : String} (h : suffix ≠ "") :
    ¬ parent ++ [name] <+: parent ++ (name ++ suffix) :: rest := by
  intro hprefix
  rw [List.prefix_append_right_inj, List.cons_prefix_cons] at hprefix
  have hlength := congrArg String.length hprefix.1
  rw [String.length_append] at hlength
  have hsuffix : suffix.length = 0 := by omega
  exact h (String.length_eq_zero_iff.mp hsuffix)

/-- Where there are no symbolic links, what comes of any request is the same for any two file
systems with the same at and below the working directory. A request for a directory that is
understood and in time is answered with 403 if and only if the place that its path leads to does not
begin with the names of the working directory, whatever files there are; so it is for a sibling
whose name only begins like that of the working directory. -/
theorem confined_to_workspace (s : Server) :
    (∀ files files' : FileSystem, files.IsTree → files'.IsTree →
      files.get? s.bench.host.workingDirectory = some .directory →
      FileSystem.AgreeWithin s.bench.host.workingDirectory files files' →
      ∀ id t q, (s.onFiles files).serve id t q = (s.onFiles files').serve id t q) ∧
    ∀ (id : String) (t : Tally) (q : Request) (form : ProjectForm) (place : Path),
      Routing.of q.method q.path = .found .project →
      Task.ofRequest .project q = .ok (.project form) → t.count .project < 10 →
      .char '\x00' ∉ form.path → s.bench.host.destination? form.path = some place →
      ((s.serve id t q).response.status = 403 ↔ ¬ s.bench.host.workingDirectory <+: place) ∧
      ∀ (parent rest : Path) (name suffix : String),
        s.bench.host.workingDirectory = parent ++ [name] → suffix ≠ "" →
        place = parent ++ (name ++ suffix) :: rest → (s.serve id t q).response.status = 403 := by
  refine ⟨fun files files' htree htree' hdirectory hagree => ?_, ?_⟩
  · exact s.serve_onFiles_eq (Task.run_onFiles_eq s.bench htree htree' hdirectory hagree)
  · intro id t q form place hfound htask hcount hnull hplace
    have hforbidden := s.status_serve_eq_forbidden_iff id hfound htask hcount hnull hplace
    refine ⟨hforbidden, ?_⟩
    rintro parent rest name suffix hparent hsuffix rfl
    rw [hforbidden, hparent]
    exact not_within_of_longer_name hsuffix

/-! ### A sibling, and a home directory behind a dot -/

/-- A directory with a file, next to a home directory. -/
def workspaceFiles : FileSystem :=
  ⟨[(["w"], .directory), (["w", "a.go"], .file []), (["home"], .directory)]⟩

/-- The same with a sibling. -/
def siblingFiles : FileSystem :=
  ⟨[(["w-old"], .directory), (["w"], .directory), (["w", "a.go"], .file []),
    (["w-old", "b.go"], .file [])]⟩

/-- A service in that directory. -/
def workspaceServer : Server where
  bench := {
    settings := {}
    host := { workingDirectory := ["w"], files := workspaceFiles, homes := [("", ["home"])] }
    writtenAt := "" }
  allowedOrigins := []

/-- A request for the sibling. -/
def siblingRequest : Request where
  method := "POST"
  target := "/analyze/project"
  body := "\x7b\"path\":\"../w-old\"\x7d".toList

theorem isTree_workspaceFiles : workspaceFiles.IsTree where
  distinct := by decide
  proper := by decide
  plain := by decide
  nested := by decide

theorem isTree_siblingFiles : siblingFiles.IsTree where
  distinct := by decide
  proper := by decide
  plain := by decide
  nested := by decide

theorem agreeWithin_workspaceFiles :
    FileSystem.AgreeWithin ["w"] workspaceFiles siblingFiles := by
  intro rest
  rw [List.singleton_append, FileSystem.get?_of_ne_nil (List.cons_ne_nil _ _),
    FileSystem.get?_of_ne_nil (List.cons_ne_nil _ _)]
  simp [workspaceFiles, siblingFiles, List.lookup_cons]

theorem confined_to_workspace_sibling :
    (∀ id t q, (workspaceServer.onFiles workspaceFiles).serve id t q =
      (workspaceServer.onFiles siblingFiles).serve id t q) ∧
    Routing.of siblingRequest.method siblingRequest.path = .found .project ∧
    Task.ofRequest .project siblingRequest = .ok (.project ⟨.ofString "../w-old", false⟩) ∧
    workspaceServer.bench.host.destination? (.ofString "../w-old") = some ["w-old"] ∧
    (workspaceServer.serve "id" Tally.zero siblingRequest).response.status = 403 := by
  have hfound : Routing.of siblingRequest.method siblingRequest.path = .found .project := rfl
  have htask : Task.ofRequest .project siblingRequest =
      .ok (.project ⟨.ofString "../w-old", false⟩) := by cbv
  have hplace : workspaceServer.bench.host.destination? (.ofString "../w-old") =
      some ["w-old"] := (Host.destination?_ofString _ _).trans (by decide)
  obtain ⟨hsame, hforbidden⟩ := confined_to_workspace workspaceServer
  refine ⟨hsame _ _ isTree_workspaceFiles isTree_siblingFiles rfl agreeWithin_workspaceFiles,
    hfound, htask, hplace, ?_⟩
  exact (hforbidden "id" Tally.zero siblingRequest _ _ hfound htask (by decide) (by decide)
    hplace).2 [] [] "w" "-old" rfl (by decide) rfl

/-- A request for a name that is a tilde, written with a dot before it. -/
def dottedRequest : Request where
  method := "POST"
  target := "/analyze/project"
  body := "\x7b\"path\":\"./~\"\x7d".toList

/-- A name that is half a pair of code units. -/
def halfName : WideText := [.ofNat 0xD800]

/-- A path from the top to that name. -/
def halfPath : WideText := .char '/' :: halfName

/-- A request for that path. -/
def halfRequest : Request where
  method := "POST"
  target := "/analyze/project"
  body := "\x7b\"path\":\"/\\ud800\"\x7d".toList

/-- A dot before a tilde does not keep it from standing for the home directory: the path does not
begin with a tilde and its names lead into the workspace, and yet it is refused. A name that is half
a pair of code units leads out of the workspace from the top, and yet it is not refused, but makes
the service fail. -/
theorem dotted_tilde_forbidden :
    (Routing.of dottedRequest.method dottedRequest.path = .found .project ∧
      Task.ofRequest .project dottedRequest = .ok (.project ⟨.ofString "./~", false⟩) ∧
      "./~".toList.head? ≠ some '~' ∧
      ("./~".toList.splitOn '/').foldl enter workspaceServer.bench.host.workingDirectory =
        ["w", "~"] ∧
      workspaceServer.bench.host.workingDirectory <+: ["w", "~"] ∧
      (workspaceServer.serve "id" Tally.zero dottedRequest).response.status = 403) ∧
    Routing.of halfRequest.method halfRequest.path = .found .project ∧
      Task.ofRequest .project halfRequest = .ok (.project ⟨halfPath, false⟩) ∧
      .char '\x00' ∉ halfPath ∧ halfPath.splitOn (.char '/') = [[], halfName] ∧
      ¬ workspaceServer.bench.host.workingDirectory.map WideText.ofString <+: [halfName] ∧
      (workspaceServer.serve "id" Tally.zero halfRequest).response.status = 500 := by
  have hfound : Routing.of dottedRequest.method dottedRequest.path = .found .project := rfl
  have htask : Task.ofRequest .project dottedRequest =
      .ok (.project ⟨.ofString "./~", false⟩) := by cbv
  have hplace : workspaceServer.bench.host.destination? (.ofString "./~") = some ["home"] :=
    (Host.destination?_ofString _ _).trans (by decide)
  have hfound' : Routing.of halfRequest.method halfRequest.path = .found .project := rfl
  have htask' : Task.ofRequest .project halfRequest = .ok (.project ⟨halfPath, false⟩) := by cbv
  refine ⟨⟨hfound, htask, by decide, by decide, by decide, ?_⟩,
    hfound', htask', by decide, by decide, by decide, ?_⟩
  · exact (status_serve_eq_forbidden_iff workspaceServer "id" hfound htask (by decide) (by decide)
      hplace).mpr (by decide)
  · rw [(workspaceServer.serve_of_reached "id" Tally.zero hfound' htask').2]
    rfl

end Server

end Service

end SourceGrade
