import SourceGrade.Service.Container

set_option autoImplicit false

/-!
# What a container keeps

A container returns what it keeps and makes what it does not, under the next number. All that a
read can do to it is told by `Container.Grows`, and what stays of it in a reset by
`Container.held?_reset`.
-/

namespace SourceGrade.Service

/-- What a holder may ask for: the container itself or one of its components. -/
inductive Part where
  | container
  | settings
  | analyzer
  | reportWriter
  deriving DecidableEq, Repr

variable {standard : Settings} {next : Nat} {c : Container}

namespace Container

/-- The number under which a container has a part, if it has it. Settings that were given to it are
there from the beginning. -/
def held? (c : Container) : Part → Option Nat
  | .container => some c.number
  | .settings => (c.settings <|> c.given).map (·.number)
  | .analyzer => c.analyzer.map (·.number)
  | .reportWriter => c.reportWriter.map (·.number)

/-! What a container keeps is returned; what it does not keep is made. -/

theorem readSettings_of_kept {s : Component Settings} (hs : c.settings = some s) :
    c.readSettings standard next = (s, c, next) := by
  unfold readSettings
  rw [hs]

theorem readSettings_of_given {g : Component Settings} (hnone : c.settings = none)
    (hg : c.given = some g) :
    c.readSettings standard next = (g, { c with settings := some g }, next) := by
  unfold readSettings
  rw [hnone, hg]

theorem readSettings_of_none (hnone : c.settings = none) (hg : c.given = none) :
    c.readSettings standard next =
      (⟨next, standard⟩, { c with settings := some ⟨next, standard⟩ }, next + 1) := by
  unfold readSettings
  rw [hnone, hg]

theorem readAnalyzer_of_kept {a : Component Analyzer} (ha : c.analyzer = some a) :
    c.readAnalyzer standard next = (a, c, next) := by
  unfold readAnalyzer
  rw [ha]

theorem readAnalyzer_of_none (hnone : c.analyzer = none) {s : Component Settings}
    {c' : Container} {next' : Nat} (hs : c.readSettings standard next = (s, c', next')) :
    c.readAnalyzer standard next =
      (⟨next', ⟨s.limits⟩⟩, { c' with analyzer := some ⟨next', ⟨s.limits⟩⟩ }, next' + 1) := by
  unfold readAnalyzer
  rw [hnone, hs]

theorem readReportWriter_of_kept {w : Component Unit} (hw : c.reportWriter = some w) :
    c.readReportWriter next = (w, c, next) := by
  unfold readReportWriter
  rw [hw]

theorem readReportWriter_of_none (hnone : c.reportWriter = none) :
    c.readReportWriter next =
      (⟨next, ()⟩, { c with reportWriter := some ⟨next, ()⟩ }, next + 1) := by
  unfold readReportWriter
  rw [hnone]

/-- What a container keeps belongs together. -/
structure Coherent (c : Container) : Prop where
  /-- Settings that were given to it are the ones that it keeps. -/
  given : ∀ g s, c.given = some g → c.settings = some s → s = g
  /-- Its analyser has the limits of the settings that it keeps. -/
  limits : ∀ a, c.analyzer = some a → ∃ s, c.settings = some s ∧ a.value.limits = s.limits

/-- A container has got parts that it did not have, under numbers that were free. -/
structure Grows (next : Nat) (c : Container) (next' : Nat) (c' : Container) : Prop where
  /-- Numbers are used up. -/
  next_le : next ≤ next'
  /-- What was given stays. -/
  given : c'.given = c.given
  /-- What the container had it has. -/
  kept : ∀ p n, c.held? p = some n → c'.held? p = some n
  /-- What it did not have has a new number. -/
  fresh : ∀ p n, c'.held? p = some n → c.held? p = some n ∨ (next ≤ n ∧ n < next')
  /-- All that it keeps belongs together if it did before. -/
  coherent : c.Coherent → c'.Coherent

theorem Grows.refl (next : Nat) (c : Container) : Grows next c next c where
  next_le := Nat.le_refl next
  given := rfl
  kept := fun _ _ hn => hn
  fresh := fun _ _ hn => .inl hn
  coherent := fun hc => hc

theorem Grows.trans {next' next'' : Nat} {c' c'' : Container} (hg : Grows next c next' c')
    (hg' : Grows next' c' next'' c'') : Grows next c next'' c'' where
  next_le := Nat.le_trans hg.next_le hg'.next_le
  given := hg'.given.trans hg.given
  kept := fun p n hn => hg'.kept p n (hg.kept p n hn)
  fresh := by
    intro p n hn
    have hle := hg.next_le
    have hle' := hg'.next_le
    rcases hg'.fresh p n hn with hn | hn
    · rcases hg.fresh p n hn with hn | hn
      · exact .inl hn
      · exact .inr (by omega)
    · exact .inr (by omega)
  coherent := fun hc => hg'.coherent (hg.coherent hc)

/-- A container that keeps no settings gets the ones that were given to it, or new ones. -/
theorem grows_withSettings {s : Component Settings} {next' : Nat} (hnone : c.settings = none)
    (hle : next ≤ next') (hgiven : ∀ g, c.given = some g → s = g)
    (hnew : c.given = none → next ≤ s.number ∧ s.number < next') :
    Grows next c next' { c with settings := some s } where
  next_le := hle
  given := rfl
  kept := by
    intro p n hn
    cases p with
    | settings =>
      unfold held? at hn ⊢
      rw [hnone, Option.orElse_eq_orElse, Option.orElse_none, Option.map_eq_some_iff] at hn
      obtain ⟨g, hg, rfl⟩ := hn
      simp [hgiven g hg]
    | _ => exact hn
  fresh := by
    intro p n hn
    cases p with
    | settings =>
      obtain rfl : s.number = n := by simpa [held?] using hn
      cases hg : c.given with
      | some g => exact .inl (by simp [held?, hnone, hg, hgiven g hg])
      | none => exact .inr (hnew hg)
    | _ => exact .inl hn
  coherent := by
    intro hc
    refine ⟨fun g s' hg hs => ?_, fun a ha => ?_⟩
    · obtain rfl := Option.some.inj hs
      exact hgiven g hg
    · obtain ⟨s', hs, -⟩ := hc.limits a ha
      rw [hnone] at hs
      cases hs

theorem grows_readSettings {s : Component Settings} {c' : Container} {next' : Nat}
    (hread : c.readSettings standard next = (s, c', next')) : Grows next c next' c' := by
  cases hs : c.settings with
  | some s' =>
    rw [readSettings_of_kept hs] at hread
    cases hread
    exact .refl next c
  | none =>
    cases hg : c.given with
    | some g =>
      rw [readSettings_of_given hs hg] at hread
      cases hread
      exact grows_withSettings hs (Nat.le_refl next) (by simp [hg]) (by simp [hg])
    | none =>
      rw [readSettings_of_none hs hg] at hread
      cases hread
      exact grows_withSettings hs (Nat.le_succ next) (by simp [hg]) (by simp)

/-- What a container returns as its settings it keeps, and its analyser is not touched. -/
theorem kept_readSettings {s : Component Settings} {c' : Container} {next' : Nat}
    (hread : c.readSettings standard next = (s, c', next')) :
    c'.settings = some s ∧ c'.analyzer = c.analyzer := by
  cases hs : c.settings with
  | some s' =>
    rw [readSettings_of_kept hs] at hread
    cases hread
    exact ⟨hs, rfl⟩
  | none =>
    cases hg : c.given with
    | some g =>
      rw [readSettings_of_given hs hg] at hread
      cases hread
      exact ⟨rfl, rfl⟩
    | none =>
      rw [readSettings_of_none hs hg] at hread
      cases hread
      exact ⟨rfl, rfl⟩

/-- A container that keeps no analyser gets one with the limits of the settings that it keeps. -/
theorem grows_withAnalyzer {s : Component Settings} (hnone : c.analyzer = none)
    (hs : c.settings = some s) :
    Grows next c (next + 1) { c with analyzer := some ⟨next, ⟨s.limits⟩⟩ } where
  next_le := Nat.le_succ next
  given := rfl
  kept := by
    intro p n hn
    cases p with
    | analyzer =>
      unfold held? at hn
      rw [hnone] at hn
      cases hn
    | _ => exact hn
  fresh := by
    intro p n hn
    cases p with
    | analyzer =>
      obtain rfl : next = n := by simpa [held?] using hn
      exact .inr (by omega)
    | _ => exact .inl hn
  coherent := by
    intro hc
    refine ⟨hc.given, fun a ha => ⟨s, hs, ?_⟩⟩
    obtain rfl := Option.some.inj ha
    rfl

theorem grows_withReportWriter (hnone : c.reportWriter = none) :
    Grows next c (next + 1) { c with reportWriter := some ⟨next, ()⟩ } where
  next_le := Nat.le_succ next
  given := rfl
  kept := by
    intro p n hn
    cases p with
    | reportWriter =>
      unfold held? at hn
      rw [hnone] at hn
      cases hn
    | _ => exact hn
  fresh := by
    intro p n hn
    cases p with
    | reportWriter =>
      obtain rfl : next = n := by simpa [held?] using hn
      exact .inr (by omega)
    | _ => exact .inl hn
  coherent := fun hc => ⟨hc.given, hc.limits⟩

theorem grows_readAnalyzer {a : Component Analyzer} {c' : Container} {next' : Nat}
    (hread : c.readAnalyzer standard next = (a, c', next')) : Grows next c next' c' := by
  cases ha : c.analyzer with
  | some a' =>
    rw [readAnalyzer_of_kept ha] at hread
    cases hread
    exact .refl next c
  | none =>
    obtain ⟨s, c'', next'', hs⟩ : ∃ s c'' next'', c.readSettings standard next = (s, c'', next'') :=
      ⟨_, _, _, rfl⟩
    obtain ⟨hkept, hanalyzer⟩ := kept_readSettings hs
    rw [readAnalyzer_of_none ha hs] at hread
    cases hread
    exact (grows_readSettings hs).trans (grows_withAnalyzer (hanalyzer.trans ha) hkept)

theorem grows_readReportWriter {w : Component Unit} {c' : Container} {next' : Nat}
    (hread : c.readReportWriter next = (w, c', next')) : Grows next c next' c' := by
  cases hw : c.reportWriter with
  | some w' =>
    rw [readReportWriter_of_kept hw] at hread
    cases hread
    exact .refl next c
  | none =>
    rw [readReportWriter_of_none hw] at hread
    cases hread
    exact grows_withReportWriter hw

/-! What is returned is held under its number. -/

theorem held?_readSettings {s : Component Settings} {c' : Container} {next' : Nat}
    (hread : c.readSettings standard next = (s, c', next')) :
    c'.held? .settings = some s.number := by
  unfold held?
  rw [(kept_readSettings hread).1]
  rfl

theorem held?_readAnalyzer {a : Component Analyzer} {c' : Container} {next' : Nat}
    (hread : c.readAnalyzer standard next = (a, c', next')) :
    c'.held? .analyzer = some a.number := by
  cases ha : c.analyzer with
  | some a' =>
    rw [readAnalyzer_of_kept ha] at hread
    cases hread
    simp [held?, ha]
  | none =>
    rw [readAnalyzer_of_none ha rfl] at hread
    cases hread
    rfl

theorem held?_readReportWriter {w : Component Unit} {c' : Container} {next' : Nat}
    (hread : c.readReportWriter next = (w, c', next')) :
    c'.held? .reportWriter = some w.number := by
  cases hw : c.reportWriter with
  | some w' =>
    rw [readReportWriter_of_kept hw] at hread
    cases hread
    simp [held?, hw]
  | none =>
    rw [readReportWriter_of_none hw] at hread
    cases hread
    rfl

/-- The analyser that a container returns has the limits of the settings that it returns. -/
theorem Coherent.limits_readAnalyzer (hc : c.Coherent) {s : Component Settings} {c' : Container}
    {next' : Nat} (hread : c.readSettings standard next = (s, c', next')) :
    (c.readAnalyzer standard next).1.value.limits = s.limits := by
  cases ha : c.analyzer with
  | some a =>
    obtain ⟨s', hs, hlimits⟩ := hc.limits a ha
    rw [readSettings_of_kept hs] at hread
    cases hread
    rw [readAnalyzer_of_kept ha]
    exact hlimits
  | none => rw [readAnalyzer_of_none ha hread]

/-- Settings that were given to a container are what it returns. -/
theorem Coherent.readSettings_eq_given (hc : c.Coherent) {g : Component Settings}
    (hg : c.given = some g) (standard : Settings) (next : Nat) :
    (c.readSettings standard next).1 = g := by
  cases hs : c.settings with
  | some s =>
    rw [readSettings_of_kept hs]
    exact hc.given g s hg hs
  | none => rw [readSettings_of_given hs hg]

theorem coherent_reset (c : Container) : c.reset.Coherent where
  given := by
    intro g s _ hs
    cases hs
  limits := by
    intro a ha
    cases ha

/-- Whether a part is lost by a reset. Settings that were given are not. -/
def isLostByReset (given : Option (Component Settings)) : Part → Bool
  | .container => false
  | .settings => given.isNone
  | _ => true

/-- A reset container has what is not lost. -/
theorem held?_reset (hc : c.Coherent) (p : Part) :
    c.reset.held? p = if isLostByReset c.given p then none else c.held? p := by
  cases p with
  | settings =>
    unfold held? reset isLostByReset
    cases hg : c.given with
    | none => rfl
    | some g =>
      cases hs : c.settings with
      | none => simp
      | some s => simp [hc.given g s hg hs]
  | _ => rfl

end Container

end SourceGrade.Service
