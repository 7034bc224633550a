import Mathlib.Data.List.Perm.Basic
import SourceGrade.Project.Pool
import SourceGrade.Proofs.Project.Arrivals

set_option autoImplicit false

/-!
# What a pool of workers comes to

However the workers of a pool take turns, no result is lost and none is made twice, and after three
moves for each file all results have been collected. They may arrive in any order, and the summary
that is made of them is the same for every order and every number of workers.
-/

namespace SourceGrade.Pool

open SourceGrade.Project (analyse)

variable {settings : AnalysisSettings} {workers : Nat} {p q : Pool}

/-! ## One move -/

theorem after_start {file : SourceFile} {rest : List SourceFile} (hw : p.waiting = file :: rest)
    (hfree : p.running.length < workers) :
    p.after settings workers .start =
      some { p with waiting := rest, running := p.running ++ [file] } := by
  unfold after
  dsimp only
  rw [hw]
  exact if_pos hfree

theorem after_finish {i : Nat} (hi : i < p.running.length) :
    p.after settings workers (.finish i) = some { p with
      running := p.running.eraseIdx i
      finished := p.finished ++ [analyse settings p.running[i]] } := by
  unfold after
  dsimp only
  rw [List.getElem?_eq_getElem hi]
  rfl

theorem after_collect {i : Nat} (hi : i < p.finished.length) :
    p.after settings workers (.collect i) = some { p with
      finished := p.finished.eraseIdx i
      arrivals := p.arrivals ++ [p.finished[i]] } := by
  unfold after
  dsimp only
  rw [List.getElem?_eq_getElem hi]
  rfl

/-- All that may happen in a move. -/
theorem after_cases {m : Move} (h : p.after settings workers m = some q) :
    (∃ file rest, m = .start ∧ p.waiting = file :: rest ∧ p.running.length < workers ∧
      q = { p with waiting := rest, running := p.running ++ [file] }) ∨
    (∃ (i : Nat) (hi : i < p.running.length), m = .finish i ∧
      q = { p with
        running := p.running.eraseIdx i
        finished := p.finished ++ [analyse settings p.running[i]] }) ∨
    (∃ (i : Nat) (hi : i < p.finished.length), m = .collect i ∧
      q = { p with
        finished := p.finished.eraseIdx i
        arrivals := p.arrivals ++ [p.finished[i]] }) := by
  cases m with
  | start =>
    unfold after at h
    dsimp only at h
    cases hw : p.waiting with
    | nil =>
      rw [hw] at h
      cases h
    | cons file rest =>
      rw [hw] at h
      dsimp only at h
      split at h
      · rename_i hfree
        exact .inl ⟨file, rest, rfl, rfl, hfree, (Option.some.inj h).symm⟩
      · cases h
  | finish i =>
    obtain ⟨file, hfile, rfl⟩ := Option.map_eq_some_iff.mp h
    obtain ⟨hi, rfl⟩ := List.getElem?_eq_some_iff.mp hfile
    exact .inr (.inl ⟨i, hi, rfl, rfl⟩)
  | collect i =>
    obtain ⟨a, ha, rfl⟩ := Option.map_eq_some_iff.mp h
    obtain ⟨hi, rfl⟩ := List.getElem?_eq_some_iff.mp ha
    exact .inr (.inr ⟨i, hi, rfl, rfl⟩)

/-- The results that a pool has collected or still will. -/
def results (settings : AnalysisSettings) (p : Pool) : List Arrival :=
  p.arrivals ++ (p.finished ++ (p.running ++ p.waiting).map (analyse settings))

/-- The number of moves that a pool has left: three for a file that waits, two for one that a worker
is at and one for a result. -/
def left (p : Pool) : Nat := 3 * p.waiting.length + 2 * p.running.length + p.finished.length

/-- A move neither loses nor adds a result. -/
theorem results_after {m : Move} (h : p.after settings workers m = some q) :
    (q.results settings).Perm (p.results settings) := by
  rcases after_cases h with ⟨file, rest, -, hw, -, rfl⟩ | ⟨i, hi, -, rfl⟩ | ⟨i, hi, -, rfl⟩
  · unfold results
    rw [hw]
    dsimp only
    rw [List.append_assoc, List.singleton_append]
  · unfold results
    dsimp only
    have hfile : (p.running[i] :: p.running.eraseIdx i).Perm p.running :=
      List.getElem_cons_eraseIdx_perm hi
    have hmapped := (hfile.append_right p.waiting).map (analyse settings)
    rw [List.append_assoc p.finished]
    exact (hmapped.append_left p.finished).append_left p.arrivals
  · unfold results
    dsimp only
    have hresult : (p.finished[i] :: p.finished.eraseIdx i).Perm p.finished :=
      List.getElem_cons_eraseIdx_perm hi
    rw [List.append_assoc p.arrivals]
    exact (hresult.append_right _).append_left p.arrivals

theorem left_after {m : Move} (h : p.after settings workers m = some q) :
    q.left + 1 = p.left := by
  rcases after_cases h with ⟨file, rest, -, hw, -, rfl⟩ | ⟨i, hi, -, rfl⟩ | ⟨i, hi, -, rfl⟩
  · unfold left
    simp only [hw, List.length_cons, List.length_append, List.length_nil]
    omega
  · have hpos : 0 < p.running.length := Nat.lt_of_le_of_lt (Nat.zero_le i) hi
    unfold left
    simp only [List.length_eraseIdx_of_lt hi, List.length_append, List.length_cons,
      List.length_nil]
    omega
  · have hpos : 0 < p.finished.length := Nat.lt_of_le_of_lt (Nat.zero_le i) hi
    unfold left
    simp only [List.length_eraseIdx_of_lt hi]
    omega

theorem isDone_iff_left : p.IsDone ↔ p.left = 0 := by
  unfold left
  constructor
  · rintro ⟨hw, hr, hf⟩
    rw [hw, hr, hf]
    rfl
  · intro h
    exact {
      waiting := List.length_eq_zero_iff.mp (by omega)
      running := List.length_eq_zero_iff.mp (by omega)
      finished := List.length_eq_zero_iff.mp (by omega) }

/-- A pool with a worker can go on until it is done. -/
theorem exists_after (settings : AnalysisSettings) (hworkers : 0 < workers) (hnot : ¬p.IsDone) :
    ∃ m q, p.after settings workers m = some q := by
  by_cases hr : p.running = []
  · by_cases hf : p.finished = []
    · cases hw : p.waiting with
      | nil => exact absurd ⟨hw, hr, hf⟩ hnot
      | cons file rest =>
        have hfree : p.running.length < workers := by
          rw [hr]
          exact hworkers
        exact ⟨.start, _, after_start hw hfree⟩
    · exact ⟨.collect 0, _, after_collect (List.length_pos_of_ne_nil hf)⟩
  · exact ⟨.finish 0, _, after_finish (List.length_pos_of_ne_nil hr)⟩

/-! ## Many moves -/

theorem afterAll_append (ms ms' : List Move) :
    p.afterAll settings workers (ms ++ ms') =
      (p.afterAll settings workers ms).bind fun q => q.afterAll settings workers ms' := by
  induction ms generalizing p with
  | nil => rfl
  | cons m ms ih =>
    show (p.after settings workers m).bind _ = ((p.after settings workers m).bind _).bind _
    rw [Option.bind_assoc]
    exact congrArg _ (funext fun q => ih)

/-- Moves neither lose nor add a result, and each is one of those that were left. -/
theorem results_afterAll {ms : List Move} (h : p.afterAll settings workers ms = some q) :
    (q.results settings).Perm (p.results settings) ∧ q.left + ms.length = p.left := by
  induction ms generalizing p with
  | nil =>
    obtain rfl := Option.some.inj h
    exact ⟨List.Perm.refl _, rfl⟩
  | cons m ms ih =>
    obtain ⟨o, hm, hms⟩ := Option.bind_eq_some_iff.mp h
    obtain ⟨hresults, hleft⟩ := ih hms
    have hone := left_after hm
    refine ⟨hresults.trans (results_after hm), ?_⟩
    rw [List.length_cons]
    omega

/-- A pool that is done has collected what comes of each file. -/
theorem arrivals_perm {files : List SourceFile} {ms : List Move}
    (h : afterAll settings workers { waiting := files } ms = some p) (hdone : p.IsDone) :
    p.arrivals.Perm (files.map (analyse settings)) := by
  have hresults := (results_afterAll h).1
  unfold results at hresults
  rw [hdone.waiting, hdone.running, hdone.finished] at hresults
  simpa using hresults

/-! ## Every order of arrival -/

/-- Workers may be done with all files before any result is collected. -/
theorem exists_moves_finish (settings : AnalysisSettings) (hworkers : 0 < workers)
    (files : List SourceFile) (finished arrivals : List Arrival) :
    ∃ ms, afterAll settings workers ⟨files, [], finished, arrivals⟩ ms =
      some ⟨[], [], finished ++ files.map (analyse settings), arrivals⟩ := by
  induction files generalizing finished with
  | nil => exact ⟨[], by rw [List.map_nil, List.append_nil]; rfl⟩
  | cons file files ih =>
    obtain ⟨ms, hms⟩ := ih (finished ++ [analyse settings file])
    have hstart : after settings workers ⟨file :: files, [], finished, arrivals⟩ .start =
        some ⟨files, [file], finished, arrivals⟩ := after_start rfl hworkers
    refine ⟨.start :: .finish 0 :: ms, ?_⟩
    unfold afterAll
    rw [hstart]
    show afterAll settings workers ⟨files, [], finished ++ [analyse settings file], arrivals⟩ ms = _
    rw [hms, List.append_assoc]
    rfl

/-- Results may be collected in any order. -/
theorem exists_moves_collect (settings : AnalysisSettings) (workers : Nat)
    {order finished : List Arrival} (h : order.Perm finished) (arrivals : List Arrival) :
    ∃ ms, afterAll settings workers ⟨[], [], finished, arrivals⟩ ms =
      some ⟨[], [], [], arrivals ++ order⟩ := by
  induction order generalizing finished arrivals with
  | nil =>
    obtain rfl := h.nil_eq
    exact ⟨[], by rw [List.append_nil]; rfl⟩
  | cons a order ih =>
    obtain ⟨i, hi, ha⟩ := List.getElem_of_mem (h.subset List.mem_cons_self)
    have hrest : order.Perm (finished.eraseIdx i) := by
      have hperm := h.trans (List.getElem_cons_eraseIdx_perm hi).symm
      rw [ha] at hperm
      exact hperm.cons_inv
    obtain ⟨ms, hms⟩ := ih hrest (arrivals ++ [a])
    have hcollect : after settings workers ⟨[], [], finished, arrivals⟩ (.collect i) =
        some ⟨[], [], finished.eraseIdx i, arrivals ++ [a]⟩ := ha ▸ after_collect hi
    refine ⟨.collect i :: ms, ?_⟩
    unfold afterAll
    rw [hcollect]
    show afterAll settings workers ⟨[], [], finished.eraseIdx i, arrivals ++ [a]⟩ ms = _
    rw [hms, List.append_assoc]
    rfl

/-- The results of files may arrive in any order. -/
theorem exists_moves (hworkers : 0 < workers) {files : List SourceFile} {order : List Arrival}
    (h : order.Perm (files.map (analyse settings))) :
    ∃ ms p, afterAll settings workers { waiting := files } ms = some p ∧ p.IsDone ∧
      p.arrivals = order := by
  obtain ⟨ms, hms⟩ := exists_moves_finish settings hworkers files [] []
  obtain ⟨ms', hms'⟩ := exists_moves_collect settings workers h []
  refine ⟨ms ++ ms', ⟨[], [], [], order⟩, ?_, ⟨rfl, rfl, rfl⟩, rfl⟩
  rw [afterAll_append, hms]
  exact hms'

/-! ## The summary -/

theorem workers_pos {files : List SourceFile} (hworkers : 0 < settings.maxWorkers)
    (hne : files ≠ []) : 0 < Pool.workers settings files := by
  have hlength : 0 < files.length := List.length_pos_of_ne_nil hne
  unfold Pool.workers
  omega

/-- A pool never makes more than three moves for each file, and goes on until it is done. -/
theorem run_goes_on {files : List SourceFile} (hworkers : 0 < settings.maxWorkers)
    {ms : List Move} (h : run settings files ms = some p) :
    ms.length ≤ 3 * files.length ∧ (p.IsDone ∨ ∃ m q, run settings files (ms ++ [m]) = some q) := by
  have hleft : p.left + ms.length = 3 * files.length := (results_afterAll h).2
  refine ⟨by omega, ?_⟩
  by_cases hdone : p.IsDone
  · exact .inl hdone
  · right
    have hne : files ≠ [] := by
      rintro rfl
      rw [List.length_nil] at hleft
      exact hdone (isDone_iff_left.mpr (by omega))
    obtain ⟨m, q, hq⟩ := exists_after settings (workers_pos hworkers hne) hdone
    refine ⟨m, q, ?_⟩
    unfold run at h ⊢
    rw [afterAll_append, h]
    show (p.after settings _ m).bind _ = _
    rw [hq]
    rfl

theorem exists_run {files : List SourceFile} (hworkers : 0 < settings.maxWorkers)
    {order : List Arrival} (h : order.Perm (files.map (analyse settings))) :
    ∃ ms p, run settings files ms = some p ∧ p.IsDone ∧ p.arrivals = order := by
  cases files with
  | nil => exact ⟨[], _, rfl, ⟨rfl, rfl, rfl⟩, h.eq_nil.symm⟩
  | cons file files => exact exists_moves (workers_pos hworkers (List.cons_ne_nil _ _)) h

/-- The analysis of a file does not depend on the number of workers. -/
theorem analyse_maxWorkers (settings : AnalysisSettings) (n : Int) :
    analyse { settings with maxWorkers := n } = analyse settings := rfl

/-- A pool with any number of workers goes on until it is done. Its results may arrive in any order,
and the summary of every order is the same: it accounts for each file once. -/
theorem summary_of_any_pool (settings : AnalysisSettings) (files : List SourceFile)
    (hworkers : 0 < settings.maxWorkers) (hdistinct : (files.map (·.name)).Nodup) :
    (∀ ms p, run settings files ms = some p → ms.length ≤ 3 * files.length ∧
      (p.IsDone ∨ ∃ m q, run settings files (ms ++ [m]) = some q)) ∧
    (∀ order, order.Perm (files.map (analyse settings)) →
      ∃ ms p, run settings files ms = some p ∧ p.IsDone ∧ p.arrivals = order) ∧
    (∀ n ms p, run { settings with maxWorkers := n } files ms = some p → p.IsDone →
      Project.ofArrivals p.arrivals = Project.ofFiles settings files) ∧
    Summary.Accounts settings files (Project.ofFiles settings files) := by
  refine ⟨fun ms p h => run_goes_on hworkers h, fun order h => exists_run hworkers h, ?_,
    Project.accounts_ofFiles settings hdistinct⟩
  intro n ms p h hdone
  have hperm := arrivals_perm h hdone
  rw [analyse_maxWorkers] at hperm
  exact Project.ofArrivals_eq_ofFiles hdistinct hperm

/-- Two files. -/
def twoFiles : List SourceFile :=
  [⟨"a.js", "let n = a == 42;".toList⟩, ⟨"b.go", "func f() {}".toList⟩]

/-- The second file is done first and its result is collected first. -/
theorem summary_of_twoFiles :
    0 < ({} : AnalysisSettings).maxWorkers ∧ (twoFiles.map (·.name)).Nodup ∧
    ∃ p, run {} twoFiles [.start, .start, .finish 1, .collect 0, .finish 0, .collect 0] = some p ∧
      p.arrivals = (twoFiles.map (analyse {})).reverse ∧
      Project.ofArrivals p.arrivals = Project.ofFiles {} twoFiles ∧
      Summary.Accounts {} twoFiles (Project.ofFiles {} twoFiles) := by
  have hworkers : 0 < ({} : AnalysisSettings).maxWorkers := by decide
  have hdistinct : (twoFiles.map (·.name)).Nodup := by decide
  have hrun : run {} twoFiles [.start, .start, .finish 1, .collect 0, .finish 0, .collect 0] =
      some ⟨[], [], [], (twoFiles.map (analyse {})).reverse⟩ := rfl
  obtain ⟨-, -, hsame, haccounts⟩ := summary_of_any_pool {} twoFiles hworkers hdistinct
  exact ⟨hworkers, hdistinct, _, hrun, rfl, hsame 8 _ _ hrun ⟨rfl, rfl, rfl⟩, haccounts⟩

end SourceGrade.Pool
