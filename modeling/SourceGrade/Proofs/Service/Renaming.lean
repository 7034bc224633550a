import Mathlib.Order.Monotone.Basic
import SourceGrade.Proofs.Service.Containers
import SourceGrade.Proofs.Sublist

set_option autoImplicit false

/-!
# Containers that do not disturb each other

What a holder gets does not depend on what another one does in between, except for the numbers: with
more components made, the next one is further up. So the containers of a run are compared with those
of the run of one holder's steps alone up to a renaming of numbers. It moves all free numbers alike,
so that what is made next on both sides is renamed as well.
-/

namespace SourceGrade.Service

/-- A component under another number. -/
def Component.rename {α : Type} (f : Nat → Nat) (s : Component α) : Component α :=
  ⟨f s.number, s.value⟩

/-- An analyser with its limits under another number. -/
def Analyzer.rename (f : Nat → Nat) (a : Analyzer) : Analyzer :=
  ⟨a.limits.rename f⟩

/-- From a number on, a renaming moves all numbers alike. -/
def ShiftsFrom (f : Nat → Nat) (next : Nat) : Prop :=
  ∀ k, f (next + k) = f next + k

theorem ShiftsFrom.of_le {f : Nat → Nat} {next next' : Nat} (hf : ShiftsFrom f next)
    (hle : next ≤ next') : ShiftsFrom f next' := by
  intro k
  obtain ⟨m, rfl⟩ := Nat.exists_eq_add_of_le hle
  rw [Nat.add_assoc, hf, hf, Nat.add_assoc]

variable {standard : Settings} {f g : Nat → Nat} {next next' : Nat} {c c' : Container}

namespace Container

/-- A container with all its numbers renamed. -/
def rename (f : Nat → Nat) (c : Container) : Container where
  number := f c.number
  given := c.given.map (·.rename f)
  settings := c.settings.map (·.rename f)
  analyzer := c.analyzer.map fun a => ⟨f a.number, a.value.rename f⟩
  reportWriter := c.reportWriter.map (·.rename f)

theorem rename_id (c : Container) : c.rename id = c := by
  obtain ⟨number, given, settings, analyzer, reportWriter⟩ := c
  cases given <;> cases settings <;> cases analyzer <;> cases reportWriter <;> rfl

/-- Only the numbers that a container has in use matter. -/
theorem Coherent.rename_congr (hc : c.Coherent)
    (hfg : ∀ p n, c.held? p = some n → f n = g n) : c.rename f = c.rename g := by
  have hsettings : c.settings.map (·.rename f) = c.settings.map (·.rename g) := by
    cases hs : c.settings with
    | none => rfl
    | some s => simp [Component.rename, hfg .settings s.number (by simp [held?, hs])]
  have hgiven : c.given.map (·.rename f) = c.given.map (·.rename g) := by
    cases hg : c.given with
    | none => rfl
    | some s =>
      have hheld : c.held? .settings = some s.number := by
        cases hs : c.settings with
        | none => simp [held?, hs, hg]
        | some s' => simp [held?, hs, hc.given s s' hg hs]
      simp [Component.rename, hfg .settings s.number hheld]
  have hanalyzer : c.analyzer.map (fun a => Component.mk (f a.number) (a.value.rename f)) =
      c.analyzer.map fun a => ⟨g a.number, a.value.rename g⟩ := by
    cases ha : c.analyzer with
    | none => rfl
    | some a =>
      obtain ⟨s, hs, hlimits⟩ := hc.limits a ha
      have hnumber := hfg .analyzer a.number (by simp [held?, ha])
      have hlimit := hfg .settings s.number (by simp [held?, hs])
      simp [Analyzer.rename, Component.rename, hlimits, Component.limits, hnumber, hlimit]
  have hwriter : c.reportWriter.map (·.rename f) = c.reportWriter.map (·.rename g) := by
    cases hw : c.reportWriter with
    | none => rfl
    | some w => simp [Component.rename, hfg .reportWriter w.number (by simp [held?, hw])]
  unfold rename
  rw [hgiven, hsettings, hanalyzer, hwriter, hfg .container c.number rfl]

theorem rename_reset (f : Nat → Nat) (c : Container) : (c.rename f).reset = c.reset.rename f :=
  rfl

/-! What a renamed container returns is what the container returns, renamed. -/

theorem readSettings_rename (hf : ShiftsFrom f next) {s : Component Settings}
    (hread : c.readSettings standard next = (s, c', next')) :
    (c.rename f).readSettings standard (f next) = (s.rename f, c'.rename f, f next') := by
  cases hs : c.settings with
  | some s' =>
    rw [readSettings_of_kept hs] at hread
    cases hread
    exact readSettings_of_kept (by simp [rename, hs])
  | none =>
    cases hg : c.given with
    | some g =>
      rw [readSettings_of_given hs hg] at hread
      cases hread
      exact readSettings_of_given (by simp [rename, hs]) (by simp [rename, hg])
    | none =>
      rw [readSettings_of_none hs hg] at hread
      cases hread
      rw [readSettings_of_none (by simp [rename, hs]) (by simp [rename, hg]), hf 1]
      rfl

theorem readAnalyzer_rename (hf : ShiftsFrom f next) {a : Component Analyzer}
    (hread : c.readAnalyzer standard next = (a, c', next')) :
    (c.rename f).readAnalyzer standard (f next) =
      (⟨f a.number, a.value.rename f⟩, c'.rename f, f next') := by
  cases ha : c.analyzer with
  | some a' =>
    rw [readAnalyzer_of_kept ha] at hread
    cases hread
    exact readAnalyzer_of_kept (by simp [rename, ha])
  | none =>
    obtain ⟨s, c'', next'', hs⟩ : ∃ s c'' next'', c.readSettings standard next = (s, c'', next'') :=
      ⟨_, _, _, rfl⟩
    have hf'' := hf.of_le (grows_readSettings hs).next_le
    rw [readAnalyzer_of_none ha hs] at hread
    cases hread
    rw [readAnalyzer_of_none (by simp [rename, ha]) (readSettings_rename hf hs), hf'' 1]
    rfl

theorem readReportWriter_rename (hf : ShiftsFrom f next) {w : Component Unit}
    (hread : c.readReportWriter next = (w, c', next')) :
    (c.rename f).readReportWriter (f next) = (w.rename f, c'.rename f, f next') := by
  cases hw : c.reportWriter with
  | some w' =>
    rw [readReportWriter_of_kept hw] at hread
    cases hread
    exact readReportWriter_of_kept (by simp [rename, hw])
  | none =>
    rw [readReportWriter_of_none hw] at hread
    cases hread
    rw [readReportWriter_of_none (by simp [rename, hw]), hf 1]
    rfl

end Container

/-- An answer with the component in it under another number. -/
def ContainerAnswer.rename (f : Nat → Nat) : ContainerAnswer → ContainerAnswer
  | component n => .component (f n)
  | integer n => .integer n
  | nothing => .nothing

namespace Containers

variable {h : Holder} {cs ds : Containers}

/-- A holder's container is the same in two programs, up to a renaming that also takes the next
number of one to that of the other. -/
structure Mirrors (f : Nat → Nat) (h : Holder) (ds cs : Containers) : Prop where
  strictMono : StrictMono f
  next : f ds.next = cs.next
  shifts : ShiftsFrom f ds.next
  container : cs.container? h = (ds.container? h).map (·.rename f)

theorem Mirrors.refl (h : Holder) (cs : Containers) : Mirrors id h cs cs where
  strictMono := strictMono_id
  next := rfl
  shifts := fun _ => rfl
  container := by
    have hid : Container.rename id = id := funext Container.rename_id
    rw [hid, Option.map_id]
    rfl

theorem Mirrors.ofHolder (hm : Mirrors f h ds cs) :
    Mirrors f h (ds.ofHolder h).2 (cs.ofHolder h).2 ∧
      (cs.ofHolder h).1 = (ds.ofHolder h).1.rename f := by
  rcases ofHolder_cases ds h with ⟨hds, heq⟩ | ⟨-, hnone, hnew, hnext⟩
  · have hcs : cs.container? h = some ((ds.ofHolder h).1.rename f) := by
      rw [hm.container, hds, Option.map_some]
    rcases ofHolder_cases cs h with ⟨hcs', heq'⟩ | ⟨-, hnone', -, -⟩
    · rw [heq, heq']
      exact ⟨hm, Option.some.inj (hcs'.symm.trans hcs)⟩
    · rw [hnone'] at hcs
      cases hcs
  · rcases ofHolder_cases cs h with ⟨hcs, -⟩ | ⟨-, -, hnew', hnext'⟩
    · rw [hm.container, hnone] at hcs
      cases hcs
    · -- Both make an empty container under their next number.
      have hrename : (cs.ofHolder h).1 = (ds.ofHolder h).1.rename f := by
        rw [hnew, hnew', ← hm.next]
        rfl
      refine ⟨⟨hm.strictMono, ?_, ?_, ?_⟩, hrename⟩
      · rw [hnext, hnext', hm.shifts, hm.next]
      · exact hm.shifts.of_le (by omega)
      · rw [container?_ofHolder, container?_ofHolder, hrename]
        rfl

theorem Mirrors.replace (hm : Mirrors f h ds cs) (hle : ds.next ≤ next') (c' : Container) :
    Mirrors f h ({ ds with next := next' }.replace c' h)
      ({ cs with next := f next' }.replace (c'.rename f) h) where
  strictMono := hm.strictMono
  next := by rw [next_replace, next_replace]
  shifts := by
    rw [next_replace]
    exact hm.shifts.of_le hle
  container := by
    rw [container?_replace_self, container?_replace_self]
    rfl

/-- Containers of another program may change as long as those of the holder stay. -/
theorem Mirrors.shift {given : Option (Component Settings)} {cs' : Containers}
    (hm : Mirrors f h ds cs) (hs : Sound given ds)
    (hsame : cs'.container? h = cs.container? h) (hle : cs.next ≤ cs'.next) :
    ∃ g, Mirrors g h ds cs' ∧ ∀ n, n < ds.next → g n = f n := by
  let g n := if n < ds.next then f n else cs'.next + (n - ds.next)
  have hbelow : ∀ n, n < ds.next → g n = f n := fun n hn => if_pos hn
  have habove : ∀ k, g (ds.next + k) = cs'.next + k := by
    intro k
    show (if _ then _ else _) = _
    rw [if_neg (by omega), Nat.add_sub_cancel_left]
  refine ⟨g, ⟨?_, habove 0, fun k => ?_, ?_⟩, hbelow⟩
  · intro m n hmn
    by_cases hn : n < ds.next
    · rw [hbelow m (by omega), hbelow n hn]
      exact hm.strictMono hmn
    · obtain ⟨k, rfl⟩ := Nat.exists_eq_add_of_le (Nat.le_of_not_lt hn)
      rw [habove k]
      by_cases hm' : m < ds.next
      · -- What is in use stays below the next number.
        have hlt := hm.strictMono hm'
        rw [hm.next] at hlt
        rw [hbelow m hm']
        omega
      · obtain ⟨l, rfl⟩ := Nat.exists_eq_add_of_le (Nat.le_of_not_lt hm')
        rw [habove l]
        omega
  · rw [habove k]
    exact congrArg (· + k) (habove 0).symm
  · rw [hsame, hm.container]
    cases hc : ds.container? h with
    | none => rfl
    | some c =>
      refine congrArg some ((hs.coherent hc).rename_congr fun p n hn => ?_)
      exact (hbelow n (hs.bounded h p n (by rw [held?_of_container? hc, hn]))).symm

end Containers

namespace ContainerStep

open Containers

variable {h : Holder} {cs ds : Containers} {step : ContainerStep}

/-- A step of a holder gets the same in both programs, and they stay the same. -/
theorem run_mirrors (hm : Mirrors f h ds cs) (standard : Settings) (hh : step.holder = h) :
    (run standard cs step).1 = (run standard ds step).1.rename f ∧
      Mirrors f h (run standard ds step).2 (run standard cs step).2 := by
  obtain ⟨hm', hc⟩ := hm.ofHolder
  cases step with
  | container h' =>
    obtain rfl : h' = h := hh
    exact ⟨congrArg (fun c : Container => ContainerAnswer.component c.number) hc, hm'⟩
  | settings h' =>
    obtain rfl : h' = h := hh
    obtain ⟨⟨_, c', _⟩, hread⟩ :
        ∃ r, (ds.ofHolder h').1.readSettings standard (ds.ofHolder h').2.next = r := ⟨_, rfl⟩
    simp only [run]
    rw [hc, ← hm'.next, Container.readSettings_rename hm'.shifts hread, hread]
    exact ⟨rfl, hm'.replace (Container.grows_readSettings hread).next_le c'⟩
  | analyzer h' =>
    obtain rfl : h' = h := hh
    obtain ⟨⟨_, c', _⟩, hread⟩ :
        ∃ r, (ds.ofHolder h').1.readAnalyzer standard (ds.ofHolder h').2.next = r := ⟨_, rfl⟩
    simp only [run]
    rw [hc, ← hm'.next, Container.readAnalyzer_rename hm'.shifts hread, hread]
    exact ⟨rfl, hm'.replace (Container.grows_readAnalyzer hread).next_le c'⟩
  | reportWriter h' =>
    obtain rfl : h' = h := hh
    obtain ⟨⟨_, c', _⟩, hread⟩ :
        ∃ r, (ds.ofHolder h').1.readReportWriter (ds.ofHolder h').2.next = r := ⟨_, rfl⟩
    simp only [run]
    rw [hc, ← hm'.next, Container.readReportWriter_rename hm'.shifts hread, hread]
    exact ⟨rfl, hm'.replace (Container.grows_readReportWriter hread).next_le c'⟩
  | maxLineLength h' =>
    obtain rfl : h' = h := hh
    obtain ⟨⟨_, c', _⟩, hread⟩ :
        ∃ r, (ds.ofHolder h').1.readAnalyzer standard (ds.ofHolder h').2.next = r := ⟨_, rfl⟩
    simp only [run]
    rw [hc, ← hm'.next, Container.readAnalyzer_rename hm'.shifts hread, hread]
    exact ⟨rfl, hm'.replace (Container.grows_readAnalyzer hread).next_le c'⟩
  | reset h' =>
    obtain rfl : h' = h := hh
    have hreplace := hm'.replace (Nat.le_refl _) (ds.ofHolder h').1.reset
    rw [hm'.next, ← Container.rename_reset, ← hc] at hreplace
    exact ⟨rfl, hreplace⟩
  | forgetShared =>
    obtain rfl : Holder.shared = h := hh
    exact ⟨rfl, ⟨hm.strictMono, hm.next, hm.shifts, rfl⟩⟩

/-- A step leaves the containers of others as they are. -/
theorem container?_run_of_ne (standard : Settings) (cs : Containers) (hne : step.holder ≠ h) :
    (run standard cs step).2.container? h = cs.container? h := by
  rcases run_cases standard cs step with ⟨c', next', -, hrun, -⟩ | ⟨h', rfl, hrun⟩ | ⟨rfl, hrun⟩
  · rw [hrun, container?_replace_of_ne (Ne.symm hne), container?_ofHolder_of_ne (Ne.symm hne)]
  · have hother : h ≠ h' := Ne.symm hne
    rw [hrun]
    exact (container?_replace_of_ne hother _ _ _).trans (container?_ofHolder_of_ne hother cs)
  · rw [hrun]
    cases h with
    | own => rfl
    | shared => exact absurd rfl hne

/-- The answers to the steps of a holder among those to all steps. -/
def answersOf (h : Holder) (steps : List ContainerStep) (answers : List ContainerAnswer) :
    List ContainerAnswer :=
  ((steps.zip answers).filter fun x => x.1.holder = h).map (·.2)

/-- The holder of a part that is answered with has it under a number that is in use. -/
theorem lt_next_of_run {given : Option (Component Settings)} (hs : Sound given cs)
    (standard : Settings) {n : Nat} (hrun : (run standard cs step).1 = .component n) :
    n < (run standard cs step).2.next := by
  obtain ⟨p, hask⟩ := exists_eq_ask hrun
  obtain ⟨m, hm, hheld⟩ := run_ask standard cs step.holder p
  rw [← hask] at hm hheld
  obtain rfl := ContainerAnswer.component.inj (hrun.symm.trans hm)
  exact (run_follows hs standard step).2.bounded _ _ _ hheld

/-- What a holder gets and keeps among steps of others is what it gets and keeps alone, renamed. -/
theorem exists_mirrors_after {given : Option (Component Settings)} (standard : Settings)
    (steps : List ContainerStep) (hm : Mirrors f h ds cs) (hcs : Sound given cs)
    (hds : Sound given ds) :
    ∃ g, (∀ n, n < ds.next → g n = f n) ∧
      Mirrors g h (after standard ds (steps.filter (·.holder = h))) (after standard cs steps) ∧
      answersOf h steps (runAll standard cs steps) =
        (runAll standard ds (steps.filter (·.holder = h))).map (·.rename g) := by
  induction steps generalizing cs ds f with
  | nil => exact ⟨f, fun _ _ => rfl, hm, rfl⟩
  | cons step steps ih =>
    by_cases hh : step.holder = h
    · -- Both programs take the step.
      obtain ⟨hanswer, hm'⟩ := run_mirrors hm standard hh
      obtain ⟨hf, hds'⟩ := run_follows hds standard step
      obtain ⟨g, hbelow, hg, hanswers⟩ := ih hm' (run_follows hcs standard step).2 hds'
      have hrename : (run standard ds step).1.rename g = (run standard ds step).1.rename f := by
        cases hrun : (run standard ds step).1 with
        | component n => exact congrArg _ (hbelow n (lt_next_of_run hds standard hrun))
        | _ => rfl
      rw [List.filter_cons_of_pos (by simpa using hh)]
      refine ⟨g, fun n hn => hbelow n (Nat.lt_of_lt_of_le hn hf.next_le), hg, ?_⟩
      simp only [runAll, List.map_cons]
      rw [hrename, ← hanswer, ← hanswers]
      simp [answersOf, hh]
    · -- The step is another holder's.
      obtain ⟨g, hm', hbelow⟩ := hm.shift hds (container?_run_of_ne standard cs hh)
        (run_follows hcs standard step).1.next_le
      obtain ⟨g', hbelow', hg', hanswers⟩ := ih hm' (run_follows hcs standard step).2 hds
      rw [List.filter_cons_of_neg (by simpa using hh)]
      refine ⟨g', fun n hn => (hbelow' n hn).trans (hbelow n hn), hg', ?_⟩
      rw [← hanswers]
      simp [runAll, answersOf, hh]

end ContainerStep

namespace ContainerAnswer

theorem numbers_rename (hf : Function.Injective f) (answers : List ContainerAnswer) :
    numbers (answers.map (·.rename f)) = (numbers answers).map f := by
  unfold numbers
  have hkeeps : ∀ m n : Nat, (f m == f n) = (m == n) := by simp [hf.eq_iff]
  show List.eraseDupsBy _ _ = List.map f (List.eraseDupsBy _ _)
  rw [← eraseDupsBy_map hkeeps, List.filterMap_map, List.map_filterMap]
  congr 2
  funext a
  cases a <;> rfl

/-- Numbers in the order of their first appearance are the same after a renaming. -/
theorem renumber_rename (hf : Function.Injective f) (answers : List ContainerAnswer) :
    renumber (answers.map (·.rename f)) = renumber answers := by
  unfold renumber
  rw [List.map_map, numbers_rename hf]
  refine List.map_congr_left fun a _ => ?_
  cases a with
  | component n =>
    have hsame : (fun m => m == f n) ∘ f = fun m => m == n := by
      funext m
      simp [hf.eq_iff]
    show component (((numbers answers).map f).idxOf (f n)) = _
    rw [List.idxOf, List.findIdx_map, hsame]
    rfl
  | _ => rfl

end ContainerAnswer

end SourceGrade.Service
