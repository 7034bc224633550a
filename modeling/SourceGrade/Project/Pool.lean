import SourceGrade.Report.Summary

set_option autoImplicit false

/-!
# The pool of workers

The files of a project are analysed by several workers at the same time. A worker takes the next
file when it is free, workers are done with their files in any order, and results are collected in
any order. What happens in a pool is a list of moves, one for each of these events.
-/

namespace SourceGrade

/-- What has become of the files of a project. -/
structure Pool where
  /-- The files that no worker has taken yet, in their order. -/
  waiting : List SourceFile
  /-- The files that workers are at. -/
  running : List SourceFile := []
  /-- The results that have not been collected yet. -/
  finished : List Arrival := []
  /-- The results that have been collected, in the order of their arrival. -/
  arrivals : List Arrival := []

namespace Pool

/-- What may happen in a pool. -/
inductive Move where
  /-- A free worker takes the next file. -/
  | start
  /-- A worker is done with a file, given by its place among those that workers are at. -/
  | finish (i : Nat)
  /-- A result is collected, given by its place among those that can be. -/
  | collect (i : Nat)
  deriving DecidableEq, Repr

/-- The number of workers, of which there are no more than files. -/
def workers (settings : AnalysisSettings) (files : List SourceFile) : Nat :=
  min settings.maxWorkers.toNat files.length

/-- The pool after a move, if the move is possible. -/
def after (settings : AnalysisSettings) (workers : Nat) (p : Pool) : Move → Option Pool
  | .start =>
    match p.waiting with
    | [] => none
    | file :: rest =>
      if p.running.length < workers then
        some { p with waiting := rest, running := p.running ++ [file] }
      else none
  | .finish i =>
    (p.running[i]?).map fun file =>
      { p with
        running := p.running.eraseIdx i
        finished := p.finished ++ [Project.analyse settings file] }
  | .collect i =>
    (p.finished[i]?).map fun a =>
      { p with finished := p.finished.eraseIdx i, arrivals := p.arrivals ++ [a] }

/-- The pool after a list of moves, if they are possible one after the other. -/
def afterAll (settings : AnalysisSettings) (workers : Nat) (p : Pool) : List Move → Option Pool
  | [] => some p
  | m :: ms => (p.after settings workers m).bind fun q => q.afterAll settings workers ms

/-- The pool for the files of a project after a list of moves. -/
def run (settings : AnalysisSettings) (files : List SourceFile) (ms : List Move) : Option Pool :=
  afterAll settings (workers settings files) { waiting := files } ms

/-- All results have been collected. -/
structure IsDone (p : Pool) : Prop where
  waiting : p.waiting = []
  running : p.running = []
  finished : p.finished = []

end Pool

end SourceGrade
