import SourceGrade.Config.Settings

set_option autoImplicit false

/-!
# Containers of components

The service is made of components that are made when they are first asked for and kept from then
on: its settings, the analyser with its limits, and the writer of reports. A container keeps them
until it is reset. A container may be given its settings; those are kept over resets. Beside
containers of one's own there is one that all share, which is made when it is first asked for.
-/

namespace SourceGrade.Service

/-- A component: a value that is told from others by its number. -/
structure Component (α : Type) where
  number : Nat
  value : α
  deriving DecidableEq, Repr

/-- The limits of the analysis in settings. They are told from those of others by the number of the
settings. -/
def Component.limits (s : Component Settings) : Component AnalysisSettings :=
  ⟨s.number, s.value.analyzer⟩

/-- An analyser. -/
structure Analyzer where
  /-- The limits that it applies. -/
  limits : Component AnalysisSettings
  deriving DecidableEq, Repr

/-- A container of components. -/
structure Container where
  /-- The number of the container itself. -/
  number : Nat
  /-- The settings that were given to it. -/
  given : Option (Component Settings) := none
  /-- The settings, once they have been asked for. -/
  settings : Option (Component Settings) := none
  /-- The analyser, once it has been asked for. -/
  analyzer : Option (Component Analyzer) := none
  /-- The writer of reports, once it has been asked for. -/
  reportWriter : Option (Component Unit) := none
  deriving DecidableEq, Repr

/-- Who holds a container. -/
inductive Holder where
  /-- One container is one's own. -/
  | own
  /-- The other one is shared. -/
  | shared
  deriving DecidableEq, Repr

/-- The containers of a program and the number of the next component. -/
structure Containers where
  /-- The number of the next component or container. -/
  next : Nat
  own : Container
  /-- The shared container, if it is there. -/
  shared : Option Container := none
  deriving DecidableEq, Repr

namespace Container

/-- The container without what it has kept. -/
def reset (c : Container) : Container :=
  { c with settings := none, analyzer := none, reportWriter := none }

/-- The settings of a container, with the container that keeps them and the number of the next
component. What a container without settings of its own gets are the standard ones. -/
def readSettings (standard : Settings) (next : Nat) (c : Container) :
    Component Settings × Container × Nat :=
  match c.settings with
  | some s => (s, c, next)
  | none =>
    match c.given with
    | some s => (s, { c with settings := some s }, next)
    | none =>
      let s : Component Settings := ⟨next, standard⟩
      (s, { c with settings := some s }, next + 1)

/-- The analyser of a container. It has the limits of the settings. -/
def readAnalyzer (standard : Settings) (next : Nat) (c : Container) :
    Component Analyzer × Container × Nat :=
  match c.analyzer with
  | some a => (a, c, next)
  | none =>
    let (s, c, next) := c.readSettings standard next
    let a : Component Analyzer := ⟨next, ⟨s.limits⟩⟩
    (a, { c with analyzer := some a }, next + 1)

/-- The writer of reports of a container. -/
def readReportWriter (next : Nat) (c : Container) : Component Unit × Container × Nat :=
  match c.reportWriter with
  | some w => (w, c, next)
  | none =>
    let w : Component Unit := ⟨next, ()⟩
    (w, { c with reportWriter := some w }, next + 1)

end Container

namespace Containers

/-- The containers at the beginning, before anything has been asked for. -/
def initial (given : Option Settings) : Containers :=
  match given with
  | none => { next := 1, own := { number := 0 } }
  | some s => { next := 2, own := { number := 1, given := some ⟨0, s⟩ } }

/-- The container of a holder, and the containers with it. The shared one is made if it is
missing. -/
def ofHolder (cs : Containers) : Holder → Container × Containers
  | .own => (cs.own, cs)
  | .shared =>
    match cs.shared with
    | some c => (c, cs)
    | none =>
      let c : Container := { number := cs.next }
      (c, { cs with next := cs.next + 1, shared := some c })

/-- The containers with the container of a holder replaced. -/
def replace (cs : Containers) (c : Container) : Holder → Containers
  | .own => { cs with own := c }
  | .shared => { cs with shared := some c }

end Containers

/-- What may be done with containers. -/
inductive ContainerStep where
  /-- To ask for the container of a holder. -/
  | container (h : Holder)
  | settings (h : Holder)
  | analyzer (h : Holder)
  /-- To ask for its writer of reports. -/
  | reportWriter (h : Holder)
  /-- To ask its analyser for the longest line that is not reported. -/
  | maxLineLength (h : Holder)
  | reset (h : Holder)
  /-- To reset the shared container and forget it. -/
  | forgetShared
  deriving DecidableEq, Repr

/-- What comes of a step. -/
inductive ContainerAnswer where
  /-- The component or container with a number. -/
  | component (number : Nat)
  | integer (n : Int)
  | nothing
  deriving DecidableEq, Repr

namespace ContainerStep

/-- The holder of a name. -/
def holderOf? (name : String) : Option Holder :=
  if name = "own" then some .own else if name = "global" then some .shared else none

/-- The step that asks a holder's container for what a name says. -/
def ofPart? (h : Holder) (name : String) : Option ContainerStep :=
  match name with
  | "config" => some (.settings h)
  | "analyzer" => some (.analyzer h)
  | "report_generator" => some (.reportWriter h)
  | "max_line_length" => some (.maxLineLength h)
  | "reset" => some (.reset h)
  | _ => none

/-- The step that a text names. -/
def ofText? (s : String) : Option ContainerStep :=
  if s = "reset_container" then some .forgetShared
  else
    match s.toList.splitOn '.' with
    | [holder] => (holderOf? (String.ofList holder)).map .container
    | [holder, part] => do ofPart? (← holderOf? (String.ofList holder)) (String.ofList part)
    | _ => none

/-- What comes of a step, and the containers after it. -/
def run (standard : Settings) (cs : Containers) : ContainerStep → ContainerAnswer × Containers
  | container h =>
    let (c, cs) := cs.ofHolder h
    (.component c.number, cs)
  | settings h =>
    let (c, cs) := cs.ofHolder h
    let (s, c, next) := c.readSettings standard cs.next
    (.component s.number, { cs with next }.replace c h)
  | analyzer h =>
    let (c, cs) := cs.ofHolder h
    let (a, c, next) := c.readAnalyzer standard cs.next
    (.component a.number, { cs with next }.replace c h)
  | reportWriter h =>
    let (c, cs) := cs.ofHolder h
    let (w, c, next) := c.readReportWriter cs.next
    (.component w.number, { cs with next }.replace c h)
  | maxLineLength h =>
    let (c, cs) := cs.ofHolder h
    let (a, c, next) := c.readAnalyzer standard cs.next
    (.integer a.value.limits.value.maxLineLength, { cs with next }.replace c h)
  | reset h =>
    let (c, cs) := cs.ofHolder h
    (.nothing, cs.replace c.reset h)
  | forgetShared => (.nothing, { cs with shared := none })

/-- What comes of steps one after another. -/
def runAll (standard : Settings) : Containers → List ContainerStep → List ContainerAnswer
  | _, [] => []
  | cs, step :: steps =>
    let (answer, cs) := run standard cs step
    answer :: runAll standard cs steps

end ContainerStep

namespace ContainerAnswer

/-- The numbers of the components in answers, each once, in the order of their first
appearance. -/
def numbers (answers : List ContainerAnswer) : List Nat :=
  (answers.filterMap fun a => match a with
    | component n => some n
    | _ => none).eraseDups

/-- The answers with the components numbered in the order of their first appearance. -/
def renumber (answers : List ContainerAnswer) : List ContainerAnswer :=
  answers.map fun a => match a with
    | component n => .component ((numbers answers).idxOf n)
    | other => other

end ContainerAnswer

end SourceGrade.Service
