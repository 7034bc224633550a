import SourceGrade.Proofs.Service.Container

set_option autoImplicit false

/-!
# What becomes of containers

All that a step can do to the containers of a program is told by `Containers.Follows`: what is not
lost is kept, and what was not there before has a number that was free. This is carried over from
one step to a run of steps.
-/

namespace SourceGrade.Service

variable {standard : Settings} {cs : Containers} {c : Container} {h : Holder} {p : Part} {n : Nat}
  {given : Option (Component Settings)}

/-- What a holder's container was given, if one's own was given something. -/
def Holder.given? {α : Type} (given : Option α) : Holder → Option α
  | .own => given
  | .shared => none

namespace ContainerStep

/-- The step by which a holder asks for a part. -/
def ask (h : Holder) : Part → ContainerStep
  | .container => .container h
  | .settings => .settings h
  | .analyzer => .analyzer h
  | .reportWriter => .reportWriter h

/-- The holder whose container a step is about. -/
def holder : ContainerStep → Holder
  | container h | settings h | analyzer h | reportWriter h | maxLineLength h | reset h => h
  | forgetShared => .shared

/-- Whether a holder loses a part by a step: by a reset of the container, or with the shared
container itself. -/
def loses (given : Option (Component Settings)) (h : Holder) (p : Part) : ContainerStep → Bool
  | reset h' => h == h' && Container.isLostByReset (h'.given? given) p
  | forgetShared => h == .shared
  | _ => false

@[simp] theorem loses_ask (given : Option (Component Settings)) (h h' : Holder) (p p' : Part) :
    (ask h' p').loses given h p = false := by
  cases p' <;> rfl

end ContainerStep

namespace Containers

/-- The container of a holder, if it is there. -/
def container? (cs : Containers) : Holder → Option Container
  | .own => some cs.own
  | .shared => cs.shared

/-- The number under which a holder has a part, if it is there. -/
def held? (cs : Containers) (h : Holder) (p : Part) : Option Nat :=
  (cs.container? h).bind (·.held? p)

theorem container?_replace_self (cs : Containers) (c : Container) (h : Holder) :
    (cs.replace c h).container? h = some c := by
  cases h <;> rfl

/-- The containers of others stay, whatever the next number is. -/
theorem container?_replace_of_ne {h h' : Holder} (hne : h' ≠ h) (cs : Containers)
    (c : Container) (next : Nat) :
    ({ cs with next }.replace c h).container? h' = cs.container? h' := by
  cases h with
  | own =>
    cases h' with
    | own => exact absurd rfl hne
    | shared => rfl
  | shared =>
    cases h' with
    | own => rfl
    | shared => exact absurd rfl hne

theorem next_replace (cs : Containers) (c : Container) (h : Holder) :
    (cs.replace c h).next = cs.next := by
  cases h <;> rfl

/-- The containers of a program after some steps: each has what was given to it, what it keeps
belongs together, and the numbers in use are below the next one. -/
structure Sound (given : Option (Component Settings)) (cs : Containers) : Prop where
  fits : ∀ h c, cs.container? h = some c → c.given = h.given? given ∧ c.Coherent
  bounded : ∀ h p n, cs.held? h p = some n → n < cs.next

theorem Sound.given_eq (hs : Sound given cs) (hc : cs.container? h = some c) :
    c.given = h.given? given :=
  (hs.fits h c hc).1

theorem Sound.coherent (hs : Sound given cs) (hc : cs.container? h = some c) : c.Coherent :=
  (hs.fits h c hc).2

/-- Containers come after others by steps in which some parts are lost. -/
structure Follows (lost : Holder → Part → Bool) (cs cs' : Containers) : Prop where
  /-- Numbers are used up. -/
  next_le : cs.next ≤ cs'.next
  /-- What is not lost is kept. -/
  kept : ∀ h p n, lost h p = false → cs.held? h p = some n → cs'.held? h p = some n
  /-- All else has a new number. -/
  fresh : ∀ h p n, cs'.held? h p = some n →
    (lost h p = false ∧ cs.held? h p = some n) ∨ (cs.next ≤ n ∧ n < cs'.next)

theorem Follows.refl (cs : Containers) : Follows (fun _ _ => false) cs cs where
  next_le := Nat.le_refl _
  kept := fun _ _ _ _ hn => hn
  fresh := fun _ _ _ hn => .inl ⟨rfl, hn⟩

theorem Follows.trans {lost lost' : Holder → Part → Bool} {cs cs' cs'' : Containers}
    (hf : Follows lost cs cs') (hf' : Follows lost' cs' cs'') :
    Follows (fun h p => lost h p || lost' h p) cs cs'' where
  next_le := Nat.le_trans hf.next_le hf'.next_le
  kept := by
    intro h p n hlost hn
    rw [Bool.or_eq_false_iff] at hlost
    exact hf'.kept h p n hlost.2 (hf.kept h p n hlost.1 hn)
  fresh := by
    intro h p n hn
    have hle := hf.next_le
    have hle' := hf'.next_le
    rcases hf'.fresh h p n hn with ⟨hlost', hn⟩ | hn
    · rcases hf.fresh h p n hn with ⟨hlost, hn⟩ | hn
      · exact .inl ⟨by rw [hlost, hlost', Bool.false_or], hn⟩
      · exact .inr (by omega)
    · exact .inr (by omega)

/-- What follows sound containers has its numbers below the next one. -/
theorem Follows.bounded {lost : Holder → Part → Bool} {cs' : Containers} (hf : Follows lost cs cs')
    (hs : Sound given cs) (hn : cs'.held? h p = some n) : n < cs'.next := by
  rcases hf.fresh h p n hn with ⟨-, hn⟩ | ⟨-, hlt⟩
  · exact Nat.lt_of_lt_of_le (hs.bounded h p n hn) hf.next_le
  · exact hlt

/-! A holder's container is there once it has been asked for. -/

theorem container?_ofHolder (cs : Containers) (h : Holder) :
    (cs.ofHolder h).2.container? h = some (cs.ofHolder h).1 := by
  cases h with
  | own => rfl
  | shared =>
    unfold ofHolder
    cases hshared : cs.shared with
    | none => rfl
    | some c => exact hshared

theorem container?_ofHolder_of_ne {h h' : Holder} (hne : h' ≠ h) (cs : Containers) :
    (cs.ofHolder h).2.container? h' = cs.container? h' := by
  cases h with
  | own => rfl
  | shared =>
    cases h' with
    | shared => exact absurd rfl hne
    | own =>
      unfold ofHolder
      cases cs.shared <;> rfl

/-- What is asked for is the container that is there, or an empty one with the next number. -/
theorem ofHolder_cases (cs : Containers) (h : Holder) :
    (cs.container? h = some (cs.ofHolder h).1 ∧ (cs.ofHolder h).2 = cs) ∨
      (h = .shared ∧ cs.container? h = none ∧ (cs.ofHolder h).1 = { number := cs.next } ∧
        (cs.ofHolder h).2.next = cs.next + 1) := by
  cases h with
  | own => exact .inl ⟨rfl, rfl⟩
  | shared =>
    unfold ofHolder
    cases hshared : cs.shared with
    | none => exact .inr ⟨rfl, hshared, rfl, rfl⟩
    | some c => exact .inl ⟨hshared, rfl⟩

theorem held?_of_container? (hc : cs.container? h = some c) : cs.held? h p = c.held? p := by
  unfold held?
  rw [hc]
  rfl

theorem held?_congr {cs' : Containers} (hsame : cs'.container? h = cs.container? h) :
    cs'.held? h p = cs.held? h p := by
  unfold held?
  rw [hsame]

theorem follows_ofHolder (cs : Containers) (h : Holder) :
    Follows (fun _ _ => false) cs (cs.ofHolder h).2 := by
  rcases ofHolder_cases cs h with ⟨-, heq⟩ | ⟨hshared, hnone, hnew, hnext⟩
  · rw [heq]
    exact .refl cs
  · refine ⟨by omega, fun h' p n _ hn => ?_, fun h' p n hn => ?_⟩
    · have hne : h' ≠ h := by
        rintro rfl
        unfold held? at hn
        rw [hnone] at hn
        cases hn
      rwa [held?_congr (container?_ofHolder_of_ne hne cs)]
    · by_cases heq : h' = h
      · -- The new container has nothing but its own number.
        rw [heq, held?_of_container? (container?_ofHolder cs h), hnew] at hn
        cases p with
        | container =>
          obtain rfl := Option.some.inj hn
          exact .inr ⟨Nat.le_refl _, by show cs.next < _; omega⟩
        | _ => cases hn
      · rw [held?_congr (container?_ofHolder_of_ne heq cs)] at hn
        exact .inl ⟨rfl, hn⟩

theorem Sound.ofHolder (hs : Sound given cs) (h : Holder) : Sound given (cs.ofHolder h).2 where
  fits := by
    intro h' c hc
    rcases ofHolder_cases cs h with ⟨-, heq⟩ | ⟨hshared, -, hnew, -⟩
    · rw [heq] at hc
      exact hs.fits h' c hc
    · by_cases heq : h' = h
      · rw [heq, container?_ofHolder, hnew] at hc
        obtain rfl := Option.some.inj hc
        rw [heq, hshared]
        exact ⟨rfl, ⟨by simp, by simp⟩⟩
      · rw [container?_ofHolder_of_ne heq] at hc
        exact hs.fits h' c hc
  bounded := fun _ _ _ hn => (follows_ofHolder cs h).bounded hs hn

/-! A holder's container is replaced by what has become of it. -/

/-- The containers with a holder's container replaced and numbers used up. -/
theorem follows_replace {c' : Container} {next' : Nat} (lost : Part → Bool)
    (hc : cs.container? h = some c) (hle : cs.next ≤ next')
    (hkept : ∀ p n, lost p = false → c.held? p = some n → c'.held? p = some n)
    (hfresh : ∀ p n, c'.held? p = some n →
      (lost p = false ∧ c.held? p = some n) ∨ (cs.next ≤ n ∧ n < next')) :
    Follows (fun h' p => h' == h && lost p) cs ({ cs with next := next' }.replace c' h) := by
  have hself : ∀ p, ({ cs with next := next' }.replace c' h).held? h p = c'.held? p :=
    fun p => held?_of_container? (container?_replace_self _ c' h)
  have hother : ∀ h' p, h' ≠ h →
      ({ cs with next := next' }.replace c' h).held? h' p = cs.held? h' p := by
    intro h' p hne
    exact held?_congr (container?_replace_of_ne hne cs c' next')
  refine ⟨?_, fun h' p n hlost hn => ?_, fun h' p n hn => ?_⟩
  · rw [next_replace]
    exact hle
  · by_cases heq : h' = h
    · subst heq
      rw [held?_of_container? hc] at hn
      rw [hself]
      exact hkept p n (by simpa using hlost) hn
    · rw [hother h' p heq]
      exact hn
  · rw [next_replace]
    by_cases heq : h' = h
    · subst heq
      rw [hself] at hn
      rw [held?_of_container? hc]
      simpa using hfresh p n hn
    · rw [hother h' p heq] at hn
      exact .inl ⟨by simp [heq], hn⟩

theorem Sound.replace {c' : Container} {next' : Nat} {lost : Holder → Part → Bool}
    (hs : Sound given cs) (hgiven : c'.given = h.given? given) (hc' : c'.Coherent)
    (hf : Follows lost cs ({ cs with next := next' }.replace c' h)) :
    Sound given ({ cs with next := next' }.replace c' h) where
  fits := by
    intro h' d hd
    by_cases heq : h' = h
    · rw [heq, container?_replace_self] at hd
      obtain rfl := Option.some.inj hd
      rw [heq]
      exact ⟨hgiven, hc'⟩
    · rw [container?_replace_of_ne heq] at hd
      exact hs.fits h' d hd
  bounded := fun _ _ _ hn => hf.bounded hs hn

end Containers

namespace ContainerStep

open Containers

/-! A step loses some parts, and all else that it does is that the container of its holder grows. -/

/-- What a step makes of the containers: a holder's container grows, or it is reset, or the shared
one is forgotten. -/
theorem run_cases (standard : Settings) (cs : Containers) (step : ContainerStep) :
    (∃ c' next',
      Container.Grows (cs.ofHolder step.holder).2.next (cs.ofHolder step.holder).1 next' c' ∧
      (run standard cs step).2 =
        { (cs.ofHolder step.holder).2 with next := next' }.replace c' step.holder ∧
      ∀ given h p, step.loses given h p = false) ∨
    (∃ h, step = reset h ∧
      (run standard cs step).2 = (cs.ofHolder h).2.replace (cs.ofHolder h).1.reset h) ∨
    (step = forgetShared ∧ (run standard cs step).2 = { cs with shared := none }) := by
  cases step with
  | container h =>
    have hc := container?_ofHolder cs h
    refine .inl ⟨_, _, .refl _ _, ?_, fun _ _ _ => rfl⟩
    show (cs.ofHolder h).2 = (cs.ofHolder h).2.replace (cs.ofHolder h).1 h
    cases h with
    | own => rfl
    | shared =>
      show _ = { (cs.ofHolder .shared).2 with shared := some (cs.ofHolder .shared).1 }
      rw [← hc]
      rfl
  | settings h => exact .inl ⟨_, _, Container.grows_readSettings rfl, rfl, fun _ _ _ => rfl⟩
  | analyzer h => exact .inl ⟨_, _, Container.grows_readAnalyzer rfl, rfl, fun _ _ _ => rfl⟩
  | reportWriter h =>
    exact .inl ⟨_, _, Container.grows_readReportWriter rfl, rfl, fun _ _ _ => rfl⟩
  | maxLineLength h => exact .inl ⟨_, _, Container.grows_readAnalyzer rfl, rfl, fun _ _ _ => rfl⟩
  | reset h => exact .inr (.inl ⟨h, rfl, rfl⟩)
  | forgetShared => exact .inr (.inr ⟨rfl, rfl⟩)

/-- What has grown loses nothing. -/
theorem follows_grows {c' : Container} {next' : Nat} (hs : Sound given cs)
    (hc : cs.container? h = some c) (hg : Container.Grows cs.next c next' c') :
    Follows (fun _ _ => false) cs ({ cs with next := next' }.replace c' h) ∧
      Sound given ({ cs with next := next' }.replace c' h) := by
  have hf : Follows (fun _ _ => false) cs ({ cs with next := next' }.replace c' h) := by
    simpa using follows_replace (fun _ => false) hc hg.next_le (fun p n _ => hg.kept p n)
      (by simpa using hg.fresh)
  exact ⟨hf, hs.replace (hg.given.trans (hs.given_eq hc)) (hg.coherent (hs.coherent hc)) hf⟩

theorem follows_reset (hs : Sound given cs) (hc : cs.container? h = some c) :
    Follows ((reset h).loses given) cs (cs.replace c.reset h) ∧
      Sound given (cs.replace c.reset h) := by
  have hheld := Container.held?_reset (hs.coherent hc)
  rw [hs.given_eq hc] at hheld
  have hf : Follows ((reset h).loses given) cs (cs.replace c.reset h) := by
    refine follows_replace (Container.isLostByReset (h.given? given)) hc (Nat.le_refl _)
      (fun p n hlost hn => ?_) (fun p n hn => ?_)
    · rwa [hheld, hlost]
    · rw [hheld] at hn
      cases hlost : Container.isLostByReset (h.given? given) p with
      | true => simp [hlost] at hn
      | false => exact .inl ⟨rfl, by simpa [hlost] using hn⟩
  have hgiven : c.given = h.given? given := hs.given_eq hc
  exact ⟨hf, hs.replace hgiven (Container.coherent_reset c) hf⟩

theorem follows_forgetShared (hs : Sound given cs) :
    Follows (forgetShared.loses given) cs { cs with shared := none } ∧
      Sound given { cs with shared := none } := by
  have hf : Follows (forgetShared.loses given) cs { cs with shared := none } := by
    refine ⟨Nat.le_refl _, fun h p n hlost hn => ?_, fun h p n hn => ?_⟩
    · cases h with
      | own => exact hn
      | shared => cases hlost
    · cases h with
      | own => exact .inl ⟨rfl, hn⟩
      | shared => cases hn
  refine ⟨hf, fun h c hc => ?_, fun _ _ _ hn => hf.bounded hs hn⟩
  cases h with
  | own => exact hs.fits .own c hc
  | shared => cases hc

/-- What one step does: it loses what a reset loses, it keeps all else, and what it makes has a new
number. -/
theorem run_follows (hs : Sound given cs) (standard : Settings) (step : ContainerStep) :
    Follows (step.loses given) cs (run standard cs step).2 ∧
      Sound given (run standard cs step).2 := by
  rcases run_cases standard cs step with
    ⟨c', next', hg, hrun, hloses⟩ | ⟨h, rfl, hrun⟩ | ⟨rfl, hrun⟩
  · have hloses : step.loses given = fun _ _ => false := by
      funext h p
      exact hloses given h p
    obtain ⟨hf, hsound⟩ :=
      follows_grows (hs.ofHolder step.holder) (container?_ofHolder cs step.holder) hg
    rw [hrun, hloses]
    exact ⟨by simpa using (follows_ofHolder cs step.holder).trans hf, hsound⟩
  · obtain ⟨hf, hsound⟩ := follows_reset (hs.ofHolder h) (container?_ofHolder cs h)
    rw [hrun]
    exact ⟨by simpa using (follows_ofHolder cs h).trans hf, hsound⟩
  · rw [hrun]
    exact follows_forgetShared hs

/-! What is asked for is there afterwards. -/

theorem run_ask (standard : Settings) (cs : Containers) (h : Holder) (p : Part) :
    ∃ n, (run standard cs (ask h p)).1 = .component n ∧
      (run standard cs (ask h p)).2.held? h p = some n := by
  cases p with
  | container => exact ⟨_, rfl, held?_of_container? (container?_ofHolder cs h)⟩
  | settings =>
    refine ⟨_, rfl, (held?_of_container? (container?_replace_self _ _ h)).trans ?_⟩
    exact Container.held?_readSettings rfl
  | analyzer =>
    refine ⟨_, rfl, (held?_of_container? (container?_replace_self _ _ h)).trans ?_⟩
    exact Container.held?_readAnalyzer rfl
  | reportWriter =>
    refine ⟨_, rfl, (held?_of_container? (container?_replace_self _ _ h)).trans ?_⟩
    exact Container.held?_readReportWriter rfl

/-- Only a part that was asked for is answered with. -/
theorem exists_eq_ask {step : ContainerStep} (hrun : (run standard cs step).1 = .component n) :
    ∃ p, step = ask step.holder p := by
  cases step with
  | container h => exact ⟨.container, rfl⟩
  | settings h => exact ⟨.settings, rfl⟩
  | analyzer h => exact ⟨.analyzer, rfl⟩
  | reportWriter h => exact ⟨.reportWriter, rfl⟩
  | _ => cases hrun

/-! A run of steps loses what one of them loses. -/

/-- The containers after steps one after another. -/
def after (standard : Settings) (cs : Containers) (steps : List ContainerStep) : Containers :=
  steps.foldl (fun cs step => (run standard cs step).2) cs

theorem after_append (standard : Settings) (cs : Containers) (steps steps' : List ContainerStep) :
    after standard cs (steps ++ steps') = after standard (after standard cs steps) steps' :=
  List.foldl_append

theorem getElem?_runAll (standard : Settings) (cs : Containers) (steps : List ContainerStep)
    (i : Nat) :
    (runAll standard cs steps)[i]? =
      steps[i]?.map fun step => (run standard (after standard cs (steps.take i)) step).1 := by
  induction steps generalizing cs i with
  | nil => rfl
  | cons step steps ih =>
    cases i with
    | zero => rfl
    | succ i => exact ih (run standard cs step).2 i

theorem after_follows (hs : Sound given cs) (standard : Settings) (steps : List ContainerStep) :
    Follows (fun h p => steps.any (·.loses given h p)) cs (after standard cs steps) ∧
      Sound given (after standard cs steps) := by
  induction steps generalizing cs with
  | nil => exact ⟨.refl cs, hs⟩
  | cons step steps ih =>
    obtain ⟨hf, hs'⟩ := run_follows hs standard step
    obtain ⟨hf', hs''⟩ := ih hs'
    exact ⟨hf.trans hf', hs''⟩

/-- A part that is asked for again is the same one if no step in between loses it. -/
theorem ask_again_iff (hs : Sound given cs) (standard : Settings) (h : Holder) (p : Part)
    (steps : List ContainerStep) :
    (run standard cs (ask h p)).1 =
        (run standard (after standard (run standard cs (ask h p)).2 steps) (ask h p)).1 ↔
      steps.any (·.loses given h p) = false := by
  obtain ⟨n, hfirst, hn⟩ := run_ask standard cs h p
  have hs₁ := (run_follows hs standard (ask h p)).2
  obtain ⟨hf, hs₂⟩ := after_follows hs₁ standard steps
  obtain ⟨m, hsecond, hm⟩ :=
    run_ask standard (after standard (run standard cs (ask h p)).2 steps) h p
  have hf := hf.trans (run_follows hs₂ standard (ask h p)).1
  rw [hfirst, hsecond, ContainerAnswer.component.injEq]
  constructor
  · rintro rfl
    rcases hf.fresh h p n hm with ⟨hlost, -⟩ | ⟨hle, -⟩
    · simpa using hlost
    · -- A new number is none of those that were in use.
      have hlt := hs₁.bounded h p n hn
      omega
  · intro hlost
    have hkept := hf.kept h p n (by simpa using hlost) hn
    exact Option.some.inj (hkept.symm.trans hm)

/-- Two reads of a part get the same component if no step between them loses it. -/
theorem reads_eq_iff (hs : Sound given cs) (standard : Settings) {steps : List ContainerStep}
    {i j : Nat} (hij : i < j) (hi : steps[i]? = some (ask h p)) (hj : steps[j]? = some (ask h p)) :
    (runAll standard cs steps)[i]? = (runAll standard cs steps)[j]? ↔
      ∀ k step, i < k → k < j → steps[k]? = some step → step.loses given h p = false := by
  have htake : steps.take j =
      steps.take i ++ ask h p :: (steps.drop (i + 1)).take (j - (i + 1)) := by
    obtain ⟨m, rfl⟩ := Nat.exists_eq_add_of_lt hij
    rw [show i + m + 1 = (i + 1) + m by omega, List.take_add, List.take_add_one, hi,
      Nat.add_sub_cancel_left]
    simp
  have hagain := ask_again_iff (after_follows hs standard (steps.take i)).2 standard h p
    ((steps.drop (i + 1)).take (j - (i + 1)))
  rw [getElem?_runAll, getElem?_runAll, hi, hj, htake, after_append]
  simp only [Option.map_some, Option.some.injEq]
  refine hagain.trans ?_
  rw [List.any_eq_false]
  constructor
  · intro hlost k step hik hkj hk
    refine Bool.eq_false_iff.mpr (hlost step (List.mem_of_getElem? (i := k - (i + 1)) ?_))
    rw [List.getElem?_take, List.getElem?_drop, if_pos (by omega), ← hk]
    congr 1
    omega
  · intro hlost step hmem
    obtain ⟨k, hk⟩ := List.mem_iff_getElem?.mp hmem
    rw [List.getElem?_take, List.getElem?_drop] at hk
    split at hk
    · exact Bool.eq_false_iff.mp (hlost (i + 1 + k) step (by omega) (by omega) hk)
    · cases hk

end ContainerStep

end SourceGrade.Service
