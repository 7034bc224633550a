import SourceGrade.Proofs.Report.Analysis
import SourceGrade.Proofs.Report.Ranking

set_option autoImplicit false

/-!
# The account of a project

Every file of a project is accounted for once: by its report or by its name among the files that
could not be analysed. The account does not depend on the order in which results arrive.
-/

namespace SourceGrade

/-- A report has the name of the file that it was made for. -/
theorem Report.filename_of_ofText {settings : AnalysisSettings} {filename : String}
    {t : List Char} {r : Report} (h : ofText settings filename t = .ok r) :
    r.filename = filename := by
  obtain ⟨-, rfl⟩ := ofText_eq_ok_iff.mp h
  rfl

namespace Project

/-! ## Reports and failures among arrivals -/

theorem reportsOf_cons_of_ok {name : String} {r : Report} (arrivals : List Arrival) :
    reportsOf (⟨name, .ok r⟩ :: arrivals) = r :: reportsOf arrivals := rfl

theorem reportsOf_cons_of_error {name : String} {e : AnalysisError} (arrivals : List Arrival) :
    reportsOf (⟨name, .error e⟩ :: arrivals) = reportsOf arrivals := rfl

theorem failuresOf_cons_of_ok {name : String} {r : Report} (arrivals : List Arrival) :
    failuresOf (⟨name, .ok r⟩ :: arrivals) = failuresOf arrivals := rfl

theorem failuresOf_cons_of_error {name : String} {e : AnalysisError} (arrivals : List Arrival) :
    failuresOf (⟨name, .error e⟩ :: arrivals) = (name, e) :: failuresOf arrivals := rfl

theorem mem_reportsOf {arrivals : List Arrival} {r : Report} :
    r ∈ reportsOf arrivals ↔ ∃ a ∈ arrivals, a.outcome = .ok r := by
  induction arrivals with
  | nil => exact iff_of_false List.not_mem_nil (by simp)
  | cons a arrivals ih =>
    obtain ⟨name, outcome⟩ := a
    rw [List.exists_mem_cons_iff]
    cases outcome with
    | ok r' =>
      rw [reportsOf_cons_of_ok, List.mem_cons, ih, Except.ok.injEq, eq_comm]
    | error e =>
      rw [reportsOf_cons_of_error, ih]
      exact (or_iff_right (by simp)).symm

theorem mem_failuresOf {arrivals : List Arrival} {name : String} {e : AnalysisError} :
    (name, e) ∈ failuresOf arrivals ↔
      ∃ a ∈ arrivals, a.filename = name ∧ a.outcome = .error e := by
  induction arrivals with
  | nil => exact iff_of_false List.not_mem_nil (by simp)
  | cons a arrivals ih =>
    obtain ⟨name', outcome⟩ := a
    rw [List.exists_mem_cons_iff]
    cases outcome with
    | ok r =>
      rw [failuresOf_cons_of_ok, ih]
      exact (or_iff_right (by simp)).symm
    | error e' =>
      rw [failuresOf_cons_of_error, List.mem_cons, ih, Prod.mk.injEq, Except.error.injEq,
        eq_comm (a := name), eq_comm (a := e)]

/-- What arrives for a file bears its name, and so does its report. -/
def Named (a : Arrival) : Prop := ∀ r, a.outcome = .ok r → r.filename = a.filename

theorem named_analyse (settings : AnalysisSettings) (file : SourceFile) :
    Named (analyse settings file) :=
  fun _ => Report.filename_of_ofText

/-- Every arrival is a report or a failure, and not both. -/
theorem names_perm {arrivals : List Arrival} (hnamed : ∀ a ∈ arrivals, Named a) :
    ((reportsOf arrivals).map (·.filename) ++ (failuresOf arrivals).map (·.1)).Perm
      (arrivals.map (·.filename)) := by
  induction arrivals with
  | nil => exact List.Perm.refl []
  | cons a arrivals ih =>
    have hrest := ih fun b hb => hnamed b (List.mem_cons_of_mem a hb)
    have hname := hnamed a List.mem_cons_self
    obtain ⟨name, outcome⟩ := a
    cases outcome with
    | ok r =>
      rw [reportsOf_cons_of_ok, failuresOf_cons_of_ok, List.map_cons, List.map_cons, hname r rfl]
      exact hrest.cons name
    | error e =>
      rw [reportsOf_cons_of_error, failuresOf_cons_of_error, List.map_cons, List.map_cons]
      exact List.perm_middle.trans (hrest.cons name)

/-- Reports of different files have different names. -/
theorem nodup_reportsOf {arrivals : List Arrival} (hnamed : ∀ a ∈ arrivals, Named a)
    (hdistinct : (arrivals.map (·.filename)).Nodup) :
    ((reportsOf arrivals).map (·.filename)).Nodup :=
  ((names_perm hnamed).nodup_iff.mpr hdistinct).of_append_left

/-! ## The summary of arrivals -/

/-- The names of the files that could not be analysed, in their order. -/
theorem skipped_ofArrivals (arrivals : List Arrival) :
    (ofArrivals arrivals).skipped = ((failuresOf arrivals).map (·.1)).mergeSort nameBefore := rfl

theorem reports_ofArrivals (arrivals : List Arrival) :
    (ofArrivals arrivals).reports = Summary.ranking (reportsOf arrivals) :=
  Summary.reports_ofGraded (reportsOf arrivals)

/-- The summary does not depend on the order in which results arrive. -/
theorem ofArrivals_eq_of_perm {arrivals arrivals' : List Arrival}
    (hnamed : ∀ a ∈ arrivals, Named a) (hdistinct : (arrivals.map (·.filename)).Nodup)
    (h : arrivals.Perm arrivals') : ofArrivals arrivals = ofArrivals arrivals' := by
  have hreports : Summary.ofGraded (reportsOf arrivals) = Summary.ofGraded (reportsOf arrivals') :=
    Summary.ofGraded_eq_of_perm (nodup_reportsOf hnamed hdistinct) (h.filterMap _)
  have hfailures : ((failuresOf arrivals).map (·.1)).Perm ((failuresOf arrivals').map (·.1)) :=
    (h.filterMap _).map _
  have hskipped : (ofArrivals arrivals).skipped = (ofArrivals arrivals').skipped := by
    rw [skipped_ofArrivals, skipped_ofArrivals]
    exact mergeSort_eq_of_perm nameBefore_trans nameBefore_total
      (fun _ _ _ _ => nameBefore_antisymm) hfailures
  unfold ofArrivals at hskipped ⊢
  rw [hreports]
  exact congrArg ({ Summary.ofGraded (reportsOf arrivals') with skipped := · }) hskipped

/-! ## The summary of files -/

theorem named_of_mem_map {settings : AnalysisSettings} {files : List SourceFile} {a : Arrival}
    (h : a ∈ files.map (analyse settings)) : Named a := by
  obtain ⟨file, -, rfl⟩ := List.mem_map.mp h
  exact named_analyse settings file

theorem names_map_analyse (settings : AnalysisSettings) (files : List SourceFile) :
    (files.map (analyse settings)).map (·.filename) = files.map (·.name) := by
  rw [List.map_map]
  rfl

/-- Results that arrive for files in any order have the summary of the files. -/
theorem ofArrivals_eq_ofFiles {settings : AnalysisSettings} {files : List SourceFile}
    (hdistinct : (files.map (·.name)).Nodup) {arrivals : List Arrival}
    (h : arrivals.Perm (files.map (analyse settings))) :
    ofArrivals arrivals = ofFiles settings files := by
  refine (ofArrivals_eq_of_perm (fun a => named_of_mem_map) ?_ h.symm).symm
  rw [names_map_analyse]
  exact hdistinct

end Project

/-- What a summary has to say of files that are analysed with the given settings. -/
structure Summary.Accounts (settings : AnalysisSettings) (files : List SourceFile)
    (s : Summary) : Prop where
  /-- Every file is named once, as a report or among the skipped ones. -/
  once : (s.reports.map (·.filename) ++ s.skipped).Perm (files.map (·.name))
  /-- The reports are those that the files have each by itself. -/
  reported : ∀ r, r ∈ s.reports ↔
    ∃ file ∈ files, Report.ofText settings file.name file.text = .ok r
  /-- The skipped files are those that have no report. -/
  skipped : ∀ name, name ∈ s.skipped ↔ ∃ file ∈ files, file.name = name ∧
    ∃ e, Report.ofText settings file.name file.text = .error e
  /-- The skipped files are sorted by name. -/
  sorted : s.skipped.Pairwise (· ≤ ·)
  /-- The reports are ranked by score and then by name, without ties. -/
  ranked : s.reports.Pairwise Summary.Below

namespace Project

theorem once_ofFiles (settings : AnalysisSettings) (files : List SourceFile) :
    ((ofFiles settings files).reports.map (·.filename) ++ (ofFiles settings files).skipped).Perm
      (files.map (·.name)) := by
  unfold ofFiles
  rw [reports_ofArrivals, skipped_ofArrivals, ← names_map_analyse settings files]
  have hreports := (Summary.ranking_perm (reportsOf (files.map (analyse settings)))).map
    fun r => r.filename
  have hskipped := List.mergeSort_perm ((failuresOf (files.map (analyse settings))).map (·.1))
    nameBefore
  exact (hreports.append hskipped).trans (names_perm fun a => named_of_mem_map)

theorem mem_reports_ofFiles {settings : AnalysisSettings} {files : List SourceFile} {r : Report} :
    r ∈ (ofFiles settings files).reports ↔
      ∃ file ∈ files, Report.ofText settings file.name file.text = .ok r := by
  unfold ofFiles
  rw [reports_ofArrivals, (Summary.ranking_perm _).mem_iff, mem_reportsOf]
  constructor
  · rintro ⟨a, ha, hr⟩
    obtain ⟨file, hfile, rfl⟩ := List.mem_map.mp ha
    exact ⟨file, hfile, hr⟩
  · rintro ⟨file, hfile, hr⟩
    exact ⟨analyse settings file, List.mem_map_of_mem hfile, hr⟩

theorem languages_ofFiles (settings : AnalysisSettings) (files : List SourceFile) :
    (ofFiles settings files).languages =
      Summary.countLanguages (ofFiles settings files).reports :=
  Summary.languages_ofGraded (reportsOf (files.map (analyse settings)))

theorem mem_skipped_ofFiles {settings : AnalysisSettings} {files : List SourceFile}
    {name : String} :
    name ∈ (ofFiles settings files).skipped ↔ ∃ file ∈ files, file.name = name ∧
      ∃ e, Report.ofText settings file.name file.text = .error e := by
  unfold ofFiles
  rw [skipped_ofArrivals, List.mem_mergeSort, List.mem_map]
  constructor
  · rintro ⟨⟨name', e⟩, hmem, rfl⟩
    obtain ⟨a, ha, hname, he⟩ := mem_failuresOf.mp hmem
    obtain ⟨file, hfile, rfl⟩ := List.mem_map.mp ha
    exact ⟨file, hfile, hname, e, he⟩
  · rintro ⟨file, hfile, hname, e, he⟩
    exact ⟨(name, e), mem_failuresOf.mpr ⟨_, List.mem_map_of_mem hfile, hname, he⟩, rfl⟩

/-- The summary of files with different names accounts for them. -/
theorem accounts_ofFiles (settings : AnalysisSettings) {files : List SourceFile}
    (hdistinct : (files.map (·.name)).Nodup) :
    Summary.Accounts settings files (ofFiles settings files) where
  once := once_ofFiles settings files
  reported := fun _ => mem_reports_ofFiles
  skipped := fun _ => mem_skipped_ofFiles
  sorted := (List.pairwise_mergeSort nameBefore_trans nameBefore_total _).imp nameBefore_iff.mp
  ranked := by
    unfold ofFiles
    rw [reports_ofArrivals]
    refine Summary.pairwise_ranking (nodup_reportsOf (fun a => named_of_mem_map) ?_)
    rw [names_map_analyse]
    exact hdistinct

end Project

end SourceGrade
