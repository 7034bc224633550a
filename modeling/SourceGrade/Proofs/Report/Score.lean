import SourceGrade.Report.Score

set_option autoImplicit false

/-!
# Fewer signs of trouble, more points

Every signal can only cost points, and it costs no less when it is worse. So a text whose signals
are no worse than those of another one does not score less.
-/

namespace SourceGrade

/-- The signals of `a` are no worse than those of `b`, each taken by itself. -/
structure ScoreInputs.NoWorse (a b : ScoreInputs) : Prop where
  averageComplexity : ∀ limit, a.averageComplexity.exceeds limit = true →
    b.averageComplexity.exceeds limit = true
  duplication : ∀ limit, a.duplication.exceeds limit = true → b.duplication.exceeds limit = true
  namingIssues : a.namingIssues ≤ b.namingIssues
  codeLines : a.codeLines ≤ b.codeLines
  longFunctions : a.longFunctions ≤ b.longFunctions
  errorSmells : a.errorSmells ≤ b.errorSmells
  warningSmells : a.warningSmells ≤ b.warningSmells
  commentRatio : ∀ limit, a.commentRatio.isBelow limit = true →
    b.commentRatio.isBelow limit = true

namespace Score

/-! ## What one signal costs -/

/-- The points of tiers, the highest of which comes first. -/
def Descending (tiers : List Tier) : Prop :=
  (∀ tier ∈ tiers, 0 ≤ tier.points) ∧ tiers.Pairwise fun high low => low.points ≤ high.points

theorem descending_complexityTiers : Descending complexityTiers := by
  unfold Descending complexityTiers
  simp

theorem descending_duplicationTiers : Descending duplicationTiers := by
  unfold Descending duplicationTiers
  simp

theorem descending_namingTiers : Descending namingTiers := by
  unfold Descending namingTiers
  simp

theorem descending_lengthTiers : Descending lengthTiers := by
  unfold Descending lengthTiers
  simp

theorem tierPoints_cons (tier : Tier) (tiers : List Tier) (exceeds : Rat → Bool) :
    tierPoints (tier :: tiers) exceeds =
      if exceeds tier.limit then tier.points else tierPoints tiers exceeds := by
  unfold tierPoints
  rw [List.find?_cons]
  cases exceeds tier.limit <;> rfl

/-- What is lost in tiers is what is lost in one of them, or nothing. -/
theorem tierPoints_le {tiers : List Tier} {most : Int} (exceeds : Rat → Bool) (hmost : 0 ≤ most)
    (hall : ∀ tier ∈ tiers, tier.points ≤ most) : tierPoints tiers exceeds ≤ most := by
  unfold tierPoints
  cases hfound : tiers.find? fun tier => exceeds tier.limit with
  | none => exact hmost
  | some tier => exact hall tier (List.mem_of_find?_eq_some hfound)

theorem tierPoints_mono {tiers : List Tier} (htiers : Descending tiers) {less more : Rat → Bool}
    (h : ∀ limit, less limit = true → more limit = true) :
    tierPoints tiers less ≤ tierPoints tiers more := by
  induction tiers with
  | nil => exact Int.le_refl _
  | cons tier tiers ih =>
    obtain ⟨hnonneg, hsorted⟩ := htiers
    obtain ⟨hfirst, hrest⟩ := List.pairwise_cons.mp hsorted
    have hpoints : 0 ≤ tier.points := hnonneg tier List.mem_cons_self
    have hdescending : Descending tiers :=
      ⟨fun low hlow => hnonneg low (List.mem_cons_of_mem tier hlow), hrest⟩
    rw [tierPoints_cons, tierPoints_cons]
    cases hless : less tier.limit with
    | true =>
      rw [h tier.limit hless]
      exact Int.le_refl _
    | false =>
      cases hmore : more tier.limit with
      | true => exact tierPoints_le less hpoints hfirst
      | false => exact ih hdescending

theorem countExceeds_mono {m n : Int} (h : m ≤ n) (limit : Rat)
    (hm : countExceeds m limit = true) : countExceeds n limit = true := by
  unfold countExceeds at hm ⊢
  have hlt : limit < (m : Rat) := of_decide_eq_true hm
  have hle : (m : Rat) ≤ (n : Rat) := Rat.intCast_le_intCast.mpr h
  exact decide_eq_true (Std.lt_of_lt_of_le hlt hle)

theorem longFunctionPoints_mono {m n : Int} (h : m ≤ n) :
    longFunctionPoints m ≤ longFunctionPoints n := by
  unfold longFunctionPoints
  split <;> split <;> omega

theorem errorPoints_mono {m n : Int} (h : m ≤ n) : errorPoints m ≤ errorPoints n := by
  unfold errorPoints
  omega

theorem warningPoints_mono {m n : Int} (h : m ≤ n) : warningPoints m ≤ warningPoints n := by
  unfold warningPoints
  split <;> split <;> omega

theorem commentPoints_mono {a b : Amount} {m n : Int}
    (hratio : ∀ limit, a.isBelow limit = true → b.isBelow limit = true) (h : m ≤ n) :
    commentPoints a m ≤ commentPoints b n := by
  unfold commentPoints
  split
  · rename_i hcost
    have hcost' : b.isBelow 3 = true ∧ 50 < n :=
      ⟨hratio 3 hcost.1, Int.lt_of_lt_of_le hcost.2 h⟩
    exact Int.le_of_eq (if_pos hcost').symm
  · split <;> decide

/-! ## What all signals cost -/

/-- The points that charges take away together. -/
def cost (cs : List Charge) : Int := Number.signedTotal (cs.map fun c => max 0 c.points)

theorem cost_cons (c : Charge) (cs : List Charge) : cost (c :: cs) = max 0 c.points + cost cs :=
  rfl

theorem cost_nonneg (cs : List Charge) : 0 ≤ cost cs := by
  induction cs with
  | nil => exact Int.le_refl 0
  | cons c cs ih =>
    rw [cost_cons]
    omega

theorem cost_cons_mono {c d : Charge} {cs ds : List Charge} (hpoints : c.points ≤ d.points)
    (hrest : cost cs ≤ cost ds) : cost (c :: cs) ≤ cost (d :: ds) := by
  rw [cost_cons, cost_cons]
  omega

/-- The penalties are the charges that cost anything. -/
theorem signedTotal_penalties (cs : List Charge) :
    Number.signedTotal ((cs.filterMap penaltyOf?).map (·.delta)) = -cost cs := by
  induction cs with
  | nil => rfl
  | cons c cs ih =>
    rw [cost_cons]
    by_cases hpos : 0 < c.points
    · have hpenalty : penaltyOf? c = some ⟨c.metric, c.value, -c.points⟩ := if_pos hpos
      rw [List.filterMap_cons_some hpenalty, List.map_cons, Number.signedTotal_cons, ih]
      show -c.points + -cost cs = _
      omega
    · have hpenalty : penaltyOf? c = none := if_neg hpos
      rw [List.filterMap_cons_none hpenalty, ih]
      omega

/-- The points are what the cost leaves of the best score, but never less than none. -/
theorem points_eq (s : ScoreInputs) : (ofSignals s).points = max 0 (best - cost (charges s)) := by
  have htotal : Number.signedTotal ((penaltiesOf s).map (·.delta)) = -cost (charges s) :=
    signedTotal_penalties (charges s)
  have hnonneg := cost_nonneg (charges s)
  show max 0 (min best (best + Number.signedTotal ((penaltiesOf s).map (·.delta)))) = _
  rw [htotal]
  omega

theorem cost_charges_mono {a b : ScoreInputs} (h : a.NoWorse b) :
    cost (charges a) ≤ cost (charges b) := by
  unfold charges
  apply cost_cons_mono (tierPoints_mono descending_complexityTiers h.averageComplexity)
  apply cost_cons_mono (tierPoints_mono descending_duplicationTiers h.duplication)
  apply cost_cons_mono
    (tierPoints_mono descending_namingTiers (countExceeds_mono h.namingIssues))
  apply cost_cons_mono (tierPoints_mono descending_lengthTiers (countExceeds_mono h.codeLines))
  apply cost_cons_mono (longFunctionPoints_mono h.longFunctions)
  apply cost_cons_mono (errorPoints_mono h.errorSmells)
  apply cost_cons_mono (warningPoints_mono h.warningSmells)
  apply cost_cons_mono (commentPoints_mono h.commentRatio h.codeLines)
  exact Int.le_refl _

/-- Signals that are no worse leave no fewer points. -/
theorem points_antitone {a b : ScoreInputs} (h : a.NoWorse b) :
    (ofSignals b).points ≤ (ofSignals a).points := by
  have hcost := cost_charges_mono h
  rw [points_eq, points_eq]
  omega

end Score

end SourceGrade
