import SourceGrade.Proofs.Service.Renaming

set_option autoImplicit false

/-!
# Components are made once

What is told of one step of a container and of two programs side by side is put together for a run
from the beginning: when two reads get the same component, that settings which were given are kept,
that an analyser goes with the settings, and that the holders do not disturb each other.
-/

namespace SourceGrade.Service

namespace Containers

/-- The settings that a holder's container returns. -/
def settingsOf (standard : Settings) (cs : Containers) (h : Holder) : Component Settings :=
  ((cs.ofHolder h).1.readSettings standard (cs.ofHolder h).2.next).1

/-- The analyser that a holder's container returns. -/
def analyzerOf (standard : Settings) (cs : Containers) (h : Holder) : Component Analyzer :=
  ((cs.ofHolder h).1.readAnalyzer standard (cs.ofHolder h).2.next).1

variable {cs : Containers} {given : Option (Component Settings)}

theorem shared_initial (given : Option Settings) : (initial given).shared = none := by
  cases given <;> rfl

/-- At the beginning there is nothing but one's own container and what was given to it. -/
theorem sound_initial (given : Option Settings) :
    Sound (initial given).own.given (initial given) where
  fits := by
    intro h c hc
    cases h with
    | own =>
      obtain rfl := Option.some.inj hc
      cases given <;> exact ⟨rfl, by simp [initial], by simp [initial]⟩
    | shared =>
      have hnone : some c = none := hc.symm.trans (shared_initial given)
      cases hnone
  bounded := by
    intro h p n hn
    cases h with
    | own =>
      cases given with
      | none =>
        cases p with
        | container =>
          obtain rfl := Option.some.inj hn
          exact Nat.zero_lt_one
        | _ => cases hn
      | some s =>
        cases p with
        | container =>
          obtain rfl := Option.some.inj hn
          exact Nat.one_lt_two
        | settings =>
          obtain rfl := Option.some.inj hn
          exact Nat.two_pos
        | _ => cases hn
    | shared =>
      unfold held? container? at hn
      rw [shared_initial] at hn
      cases hn

theorem Sound.settingsOf_eq_given (hs : Sound given cs) (standard : Settings)
    {g : Component Settings} (hg : given = some g) : cs.settingsOf standard .own = g := by
  have hc := container?_ofHolder cs .own
  exact (hs.coherent hc).readSettings_eq_given ((hs.given_eq hc).trans hg) standard _

theorem Sound.limits_analyzerOf (hs : Sound given cs) (standard : Settings) (h : Holder) :
    (cs.analyzerOf standard h).value.limits = (cs.settingsOf standard h).limits := by
  have hds := hs.ofHolder h
  exact (hds.coherent (container?_ofHolder cs h)).limits_readAnalyzer rfl

end Containers

namespace ContainerStep

open Containers

/-- What holds of all runs of steps from the beginning. -/
structure KeepsComponents (standard : Settings) (given : Option Settings)
    (steps : List ContainerStep) : Prop where
  /-- What is asked for is answered with a component. -/
  answered : ∀ (i : Nat) (h : Holder) (p : Part), steps[i]? = some (ask h p) →
    ∃ n, (runAll standard (initial given) steps)[i]? = some (.component n)
  /-- Two reads get the same component exactly if no step between them loses it. -/
  same_iff : ∀ (i j : Nat) (h : Holder) (p : Part), i < j →
    steps[i]? = some (ask h p) → steps[j]? = some (ask h p) →
    ((runAll standard (initial given) steps)[i]? = (runAll standard (initial given) steps)[j]? ↔
      ∀ k step, i < k → k < j → steps[k]? = some step →
        step.loses (initial given).own.given h p = false)
  /-- Settings that were given to a container, as the first component, are what it returns. -/
  settings_eq_given : ∀ s, given = some s →
    (after standard (initial given) steps).settingsOf standard .own = ⟨0, s⟩
  /-- The limits of an analyser are those of the settings that its container returns. -/
  limits : ∀ h, ((after standard (initial given) steps).analyzerOf standard h).value.limits =
    ((after standard (initial given) steps).settingsOf standard h).limits
  /-- A holder's container is as if the steps of the other one had not been, up to the numbers. -/
  undisturbed : ∀ h, ∃ f, StrictMono f ∧
    (after standard (initial given) steps).container? h =
      ((after standard (initial given) (steps.filter (·.holder = h))).container? h).map
        (·.rename f) ∧
    answersOf h steps (runAll standard (initial given) steps) =
      (runAll standard (initial given) (steps.filter (·.holder = h))).map (·.rename f)
  /-- With the components numbered as they appear, a holder gets what it gets alone. -/
  renumbered : ∀ h,
    ContainerAnswer.renumber (answersOf h steps (runAll standard (initial given) steps)) =
      ContainerAnswer.renumber (runAll standard (initial given) (steps.filter (·.holder = h)))

/-- A container makes each component once and keeps it until it is reset, whatever is done with
another one. -/
theorem keeps_components (standard : Settings) (given : Option Settings)
    (steps : List ContainerStep) : KeepsComponents standard given steps := by
  have hs := sound_initial given
  have hafter := (after_follows hs standard steps).2
  have hmirrors : ∀ h, ∃ f, Mirrors f h
      (after standard (initial given) (steps.filter (·.holder = h)))
      (after standard (initial given) steps) ∧
      answersOf h steps (runAll standard (initial given) steps) =
        (runAll standard (initial given) (steps.filter (·.holder = h))).map (·.rename f) := by
    intro h
    obtain ⟨f, -, hm, hanswers⟩ := exists_mirrors_after standard steps (.refl h _) hs hs
    exact ⟨f, hm, hanswers⟩
  exact
    { answered := by
        intro i h p hi
        obtain ⟨n, hn, -⟩ :=
          run_ask standard (after standard (initial given) (steps.take i)) h p
        refine ⟨n, ?_⟩
        rw [getElem?_runAll, hi, Option.map_some, hn]
      same_iff := fun i j h p hij hi hj => reads_eq_iff hs standard hij hi hj
      settings_eq_given := by
        rintro s rfl
        exact hafter.settingsOf_eq_given standard rfl
      limits := fun h => hafter.limits_analyzerOf standard h
      undisturbed := by
        intro h
        obtain ⟨f, hm, hanswers⟩ := hmirrors h
        exact ⟨f, hm.strictMono, hm.container, hanswers⟩
      renumbered := by
        intro h
        obtain ⟨f, hm, hanswers⟩ := hmirrors h
        rw [hanswers, ContainerAnswer.renumber_rename hm.strictMono.injective] }

end ContainerStep

end SourceGrade.Service
