import SourceGrade.Proofs.Number.Fault
import SourceGrade.Proofs.Report.Score

set_option autoImplicit false

/-!
# The account of a score

Signals have a score if the values that are written for them are not too large. A score is what its
penalties leave of the best one: each of them takes something away, none is listed twice, and
together they take no more than all eight signals can cost. A signal that gets worse, as a number,
never costs less, so neither the points nor the grade get better with it.
-/

namespace SourceGrade

/-! ## Numbers that are compared exactly -/

namespace Amount

/-- Both numbers are finite, and the first is not greater than the second. -/
def AtMost (x y : Amount) : Prop := ∃ p q, x.toRat? = some p ∧ y.toRat? = some q ∧ p ≤ q

/-- A finite number is compared as what it is, whether it is an integer or a double. -/
theorem exceeds_of_toRat? {x : Amount} {q : Rat} (h : x.toRat? = some q) (limit : Rat) :
    x.exceeds limit = decide (limit < q) := by
  match x, h with
  | whole _, rfl => rfl
  | double (.finite _), rfl => rfl
  | double .minusZero, rfl => rfl

theorem isBelow_of_toRat? {x : Amount} {q : Rat} (h : x.toRat? = some q) (limit : Rat) :
    x.isBelow limit = decide (q < limit) := by
  match x, h with
  | whole _, rfl => rfl
  | double (.finite _), rfl => rfl
  | double .minusZero, rfl => rfl

/-- The greater number exceeds whatever the smaller one exceeds. -/
theorem AtMost.exceeds {x y : Amount} (h : x.AtMost y) (limit : Rat)
    (hx : x.exceeds limit = true) : y.exceeds limit = true := by
  obtain ⟨p, q, hp, hq, hle⟩ := h
  rw [exceeds_of_toRat? hp, decide_eq_true_iff] at hx
  rw [exceeds_of_toRat? hq, decide_eq_true_iff]
  exact Std.lt_of_lt_of_le hx hle

/-- The smaller number is below whatever the greater one is below. -/
theorem AtMost.isBelow {x y : Amount} (h : x.AtMost y) (limit : Rat)
    (hy : y.isBelow limit = true) : x.isBelow limit = true := by
  obtain ⟨p, q, hp, hq, hle⟩ := h
  rw [isBelow_of_toRat? hq, decide_eq_true_iff] at hy
  rw [isBelow_of_toRat? hp, decide_eq_true_iff]
  exact Std.lt_of_le_of_lt hle hy

end Amount

/-! ## The order of grades -/

namespace Grade

/-- The number of grades that are better. -/
def rank (g : Grade) : Nat := all.idxOf g

theorem rank_eq : a.rank = 0 ∧ b.rank = 1 ∧ c.rank = 2 ∧ d.rank = 3 ∧ f.rank = 4 := by decide

/-- A higher score has no worse grade. -/
theorem rank_ofScore_antitone {p q : Rat} (h : p ≤ q) :
    (ofScore q).rank ≤ (ofScore p).rank := by
  obtain ⟨ha, hb, hc, hd, hf⟩ := rank_eq
  unfold ofScore
  grind

end Grade

/-! ## Signals that get worse -/

/-- No signal of `b` is better than that of `a`: what should be small is no smaller, and the share
of comments is no greater. -/
structure ScoreInputs.Worsens (a b : ScoreInputs) : Prop where
  averageComplexity : a.averageComplexity.AtMost b.averageComplexity
  duplication : a.duplication.AtMost b.duplication
  namingIssues : a.namingIssues ≤ b.namingIssues
  codeLines : a.codeLines ≤ b.codeLines
  longFunctions : a.longFunctions ≤ b.longFunctions
  errorSmells : a.errorSmells ≤ b.errorSmells
  warningSmells : a.warningSmells ≤ b.warningSmells
  commentRatio : b.commentRatio.AtMost a.commentRatio

theorem ScoreInputs.Worsens.noWorse {a b : ScoreInputs} (h : a.Worsens b) : a.NoWorse b where
  averageComplexity := h.averageComplexity.exceeds
  duplication := h.duplication.exceeds
  namingIssues := h.namingIssues
  codeLines := h.codeLines
  longFunctions := h.longFunctions
  errorSmells := h.errorSmells
  warningSmells := h.warningSmells
  commentRatio := h.commentRatio.isBelow

/-! ## Signals that have a score -/

/-- Whatever is written for the signals is not too large to be written. The warnings are written
only if there are more than five, and the share of comments only if it costs anything. -/
structure ScoreInputs.Writable (s : ScoreInputs) : Prop where
  averageComplexity : s.averageComplexity.Fits
  duplication : s.duplication.Fits
  namingIssues : Number.IsShort s.namingIssues
  codeLines : Number.IsShort s.codeLines
  longFunctions : Number.IsShort s.longFunctions
  errorSmells : Number.IsShort s.errorSmells
  warningSmells : 5 < s.warningSmells → Number.IsShort s.warningSmells
  commentRatio : s.commentRatio.isBelow 3 = true ∧ 50 < s.codeLines → s.commentRatio.Fits

namespace Score

theorem warningPoints_pos_iff {n : Int} : 0 < warningPoints n ↔ 5 < n := by
  unfold warningPoints
  split <;> omega

theorem commentPoints_pos_iff {ratio : Amount} {codeLines : Int} :
    0 < commentPoints ratio codeLines ↔ ratio.isBelow 3 = true ∧ 50 < codeLines := by
  unfold commentPoints
  split
  · rename_i hcost
    exact iff_of_true (by decide) hcost
  · rename_i hfree
    exact iff_of_false (by decide) hfree

theorem fault?_ifCostly_eq_none_iff {c : Charge} :
    (ifCostly c).fault? = none ↔ (0 < c.points → c.fault? = none) := by
  show (if 0 < c.points then c.fault? else none) = none ↔ _
  split
  · rename_i hcost
    exact ⟨fun h _ => h, fun h => h hcost⟩
  · rename_i hfree
    exact iff_of_true rfl fun hcost => absurd hcost hfree

/-- No charge is at fault if and only if all that is written can be written. -/
theorem faultless_charges_iff {s : ScoreInputs} :
    (charges s).findSome? (·.fault?) = none ↔ s.Writable := by
  have hcomments := @commentPoints_pos_iff s.commentRatio s.codeLines
  rw [List.findSome?_eq_none_iff]
  unfold charges
  simp only [List.forall_mem_cons, List.not_mem_nil, false_imp_iff, implies_true, and_true,
    fault?_ifCostly_eq_none_iff, amountCharge, countCharge, Amount.fixedFault?_eq_none_iff,
    Number.writingFault?_eq_none_iff, warningPoints_pos_iff, hcomments]
  constructor
  · rintro ⟨h1, h2, h3, h4, h5, h6, h7, h8⟩
    exact ⟨h1, h2, h3, h4, h5, h6, h7, h8⟩
  · rintro ⟨h1, h2, h3, h4, h5, h6, h7, h8⟩
    exact ⟨h1, h2, h3, h4, h5, h6, h7, h8⟩

theorem ofInputs_eq_ok_iff {s : ScoreInputs} {r : Score} :
    ofInputs s = .ok r ↔ s.Writable ∧ ofSignals s = r := by
  unfold ofInputs
  rw [← faultless_charges_iff]
  cases (charges s).findSome? (·.fault?) with
  | none => simp
  | some e => simp

/-! ## Signals that get worse have no better score -/

/-- Signals that get worse leave no more points and no better grade, if they have a score. -/
theorem no_better_of_worsens {a b : ScoreInputs} (h : a.Worsens b) (ha : a.Writable)
    (hb : b.Writable) :
    ∃ p q, ofInputs a = .ok p ∧ ofInputs b = .ok q ∧ q.points ≤ p.points ∧
      p.grade.rank ≤ q.grade.rank := by
  have hpoints : (ofSignals b).points ≤ (ofSignals a).points := points_antitone h.noWorse
  exact ⟨ofSignals a, ofSignals b, ofInputs_eq_ok_iff.mpr ⟨ha, rfl⟩,
    ofInputs_eq_ok_iff.mpr ⟨hb, rfl⟩, hpoints,
    Grade.rank_ofScore_antitone (Rat.intCast_le_intCast.mpr hpoints)⟩

/-- Signals none of which costs anything, but which stand at the limits. -/
def atLimits : ScoreInputs where
  averageComplexity := .whole 7
  duplication := .double (.finite 5)
  codeLines := 50
  warningSmells := 5
  commentRatio := .double (.finite 3)

/-- Signals each of which costs something. -/
def beyondLimits : ScoreInputs where
  averageComplexity := .double (.finite (36 / 5))
  duplication := .double (.finite (21 / 4))
  namingIssues := 1
  codeLines := 301
  longFunctions := 4
  errorSmells := 1
  warningSmells := 6
  commentRatio := .double .minusZero

theorem no_better_of_worsens_beyondLimits :
    (atLimits.Worsens beyondLimits ∧ atLimits.Writable ∧ beyondLimits.Writable) ∧
      ∃ p q, ofInputs atLimits = .ok p ∧ ofInputs beyondLimits = .ok q ∧ q.points ≤ p.points ∧
        p.grade.rank ≤ q.grade.rank := by
  have hworsens : atLimits.Worsens beyondLimits := {
    averageComplexity := ⟨7, 36 / 5, rfl, rfl, by decide +kernel⟩
    duplication := ⟨5, 21 / 4, rfl, rfl, by decide +kernel⟩
    namingIssues := by decide
    codeLines := by decide
    longFunctions := by decide
    errorSmells := by decide
    warningSmells := by decide
    commentRatio := ⟨0, 3, rfl, rfl, by decide⟩ }
  have hlimits : atLimits.Writable := faultless_charges_iff.mp (by decide +kernel)
  have hbeyond : beyondLimits.Writable := faultless_charges_iff.mp (by decide +kernel)
  exact ⟨⟨hworsens, hlimits, hbeyond⟩, no_better_of_worsens hworsens hlimits hbeyond⟩

/-- Signals with a mean complexity that is too large for a double. -/
def immense : ScoreInputs where
  averageComplexity := .whole (Number.power 10 400)

/-- Signals with more naming issues than can be written. -/
def countless : ScoreInputs where
  namingIssues := Number.power 10 Number.maxDigits

theorem ofInputs_immense : ofInputs immense = .error .overflow := by decide +kernel

theorem ofInputs_countless : ofInputs countless = .error .tooManyDigits := by decide +kernel

/-- Signals that get much worse have no score, neither a lower one nor any other. -/
theorem worsened_without_score :
    (ScoreInputs.Worsens {} immense ∧ ScoreInputs.Worsens {} countless) ∧
      (∃ p, ofInputs {} = .ok p) ∧ (¬∃ q, ofInputs immense = .ok q) ∧
      ¬∃ q, ofInputs countless = .ok q := by
  have hsame : ∀ q, Amount.AtMost (.double (.finite q)) (.double (.finite q)) :=
    fun q => ⟨q, q, rfl, rfl, Rat.le_refl⟩
  have hunchanged : ScoreInputs.Worsens {} {} := {
    averageComplexity := hsame 1
    duplication := hsame 0
    namingIssues := Int.le_refl 0
    codeLines := Int.le_refl 0
    longFunctions := Int.le_refl 0
    errorSmells := Int.le_refl 0
    warningSmells := Int.le_refl 0
    commentRatio := hsame 0 }
  have himmense : ScoreInputs.Worsens {} immense :=
    { hunchanged with averageComplexity := ⟨1, _, rfl, rfl, by decide +kernel⟩ }
  have hmore : ∀ n : Int, 0 ≤ n → ScoreInputs.Worsens {} { namingIssues := n } :=
    fun n hn => { hunchanged with namingIssues := hn }
  have hcountless : ScoreInputs.Worsens {} countless := hmore _ (Int.natCast_nonneg _)
  have hplain : ScoreInputs.Writable {} := faultless_charges_iff.mp (by decide +kernel)
  rw [ofInputs_immense, ofInputs_countless]
  exact ⟨⟨himmense, hcountless⟩, ⟨_, ofInputs_eq_ok_iff.mpr ⟨hplain, rfl⟩⟩, nofun, nofun⟩

/-! ## What the penalties tell -/

/-- The names of the signals, in the order in which they are listed. -/
def signals : List String := [
  "Average Complexity",
  "Duplication",
  "Naming",
  "File Length",
  "Long Functions",
  "Critical Issues",
  "Warnings",
  "Comment Ratio"]

/-- The points that are lost altogether, as a negative number. -/
def lost (r : Score) : Int := Number.signedTotal (r.penalties.map (·.delta))

theorem lost_ofSignals (s : ScoreInputs) : (ofSignals s).lost = -cost (charges s) :=
  signedTotal_penalties (charges s)

theorem penaltyOf?_eq_some_iff {c : Charge} {p : Penalty} :
    penaltyOf? c = some p ↔ 0 < c.points ∧ p = ⟨c.metric, c.value, -c.points⟩ := by
  unfold penaltyOf?
  split
  · rename_i hpos
    rw [Option.some.injEq]
    exact ⟨fun h => ⟨hpos, h.symm⟩, fun h => h.2.symm⟩
  · rename_i hnot
    exact iff_of_false nofun fun h => hnot h.1

/-- The penalties are the charges that cost anything. -/
theorem mem_penalties_iff {s : ScoreInputs} {p : Penalty} :
    p ∈ (ofSignals s).penalties ↔
      ∃ c ∈ charges s, 0 < c.points ∧ p = ⟨c.metric, c.value, -c.points⟩ := by
  show p ∈ (charges s).filterMap penaltyOf? ↔ _
  rw [List.mem_filterMap]
  exact exists_congr fun c => and_congr_right fun _ => penaltyOf?_eq_some_iff

theorem delta_neg_of_mem {s : ScoreInputs} {p : Penalty} (hp : p ∈ (ofSignals s).penalties) :
    p.delta < 0 := by
  obtain ⟨c, -, hpos, rfl⟩ := mem_penalties_iff.mp hp
  show -c.points < 0
  omega

theorem mem_penalties_of_charge_iff {s : ScoreInputs} {c : Charge} (hc : c ∈ charges s) :
    ⟨c.metric, c.value, -c.points⟩ ∈ (ofSignals s).penalties ↔ 0 < c.points := by
  refine ⟨fun hp => ?_, fun hpos => mem_penalties_iff.mpr ⟨c, hc, hpos, rfl⟩⟩
  have hdelta : -c.points < 0 := delta_neg_of_mem hp
  omega

/-- Charges that cost anything keep their names and their order. -/
theorem metrics_sublist (cs : List Charge) :
    ((cs.filterMap penaltyOf?).map (·.metric)).Sublist (cs.map (·.metric)) := by
  induction cs with
  | nil => exact List.Sublist.refl []
  | cons c cs ih =>
    rw [List.map_cons]
    cases hpenalty : penaltyOf? c with
    | none =>
      rw [List.filterMap_cons_none hpenalty]
      exact ih.cons c.metric
    | some p =>
      obtain ⟨-, rfl⟩ := penaltyOf?_eq_some_iff.mp hpenalty
      rw [List.filterMap_cons_some hpenalty, List.map_cons]
      exact ih.cons_cons c.metric

/-- Nothing is lost only where nothing is listed. -/
theorem cost_eq_zero_iff (cs : List Charge) : cost cs = 0 ↔ cs.filterMap penaltyOf? = [] := by
  induction cs with
  | nil => exact iff_of_true rfl rfl
  | cons c cs ih =>
    have hrest := cost_nonneg cs
    rw [cost_cons]
    cases hpenalty : penaltyOf? c with
    | none =>
      have hfree : ¬0 < c.points := fun hpos => by
        rw [penaltyOf?_eq_some_iff.mpr ⟨hpos, rfl⟩] at hpenalty
        cases hpenalty
      rw [List.filterMap_cons_none hpenalty, ← ih]
      omega
    | some p =>
      have hpos : 0 < c.points := (penaltyOf?_eq_some_iff.mp hpenalty).1
      rw [List.filterMap_cons_some hpenalty]
      exact iff_of_false (by omega) (List.cons_ne_nil _ _)

/-! ### The most that can be lost -/

theorem longFunctionPoints_le (n : Int) : longFunctionPoints n ≤ 15 := by
  unfold longFunctionPoints
  split <;> omega

theorem errorPoints_le (n : Int) : errorPoints n ≤ 20 := Int.min_le_right _ _

theorem warningPoints_le (n : Int) : warningPoints n ≤ 15 := by
  unfold warningPoints
  split <;> omega

theorem commentPoints_le (ratio : Amount) (codeLines : Int) :
    commentPoints ratio codeLines ≤ 5 := by
  unfold commentPoints
  split <;> decide

theorem cost_cons_le {c : Charge} {cs : List Charge} {bound rest : Int} (hbound : 0 ≤ bound)
    (hpoints : c.points ≤ bound) (hrest : cost cs ≤ rest) : cost (c :: cs) ≤ bound + rest := by
  rw [cost_cons]
  omega

/-- The points that all signals can cost together. -/
def most : Int := 125

theorem cost_charges_le (s : ScoreInputs) : cost (charges s) ≤ most := by
  have hcomplexity : tierPoints complexityTiers s.averageComplexity.exceeds ≤ 25 :=
    tierPoints_le _ (by decide) (by unfold complexityTiers; simp)
  have hduplication : tierPoints duplicationTiers s.duplication.exceeds ≤ 20 :=
    tierPoints_le _ (by decide) (by unfold duplicationTiers; simp)
  have hnaming : tierPoints namingTiers (countExceeds s.namingIssues) ≤ 15 :=
    tierPoints_le _ (by decide) (by unfold namingTiers; simp)
  have hlength : tierPoints lengthTiers (countExceeds s.codeLines) ≤ 10 :=
    tierPoints_le _ (by decide) (by unfold lengthTiers; simp)
  have hcost : cost (charges s) ≤ 25 + (20 + (15 + (10 + (15 + (20 + (15 + (5 + 0))))))) := by
    unfold charges
    apply cost_cons_le (by decide) hcomplexity
    apply cost_cons_le (by decide) hduplication
    apply cost_cons_le (by decide) hnaming
    apply cost_cons_le (by decide) hlength
    apply cost_cons_le (by decide) (longFunctionPoints_le s.longFunctions)
    apply cost_cons_le (by decide) (errorPoints_le s.errorSmells)
    apply cost_cons_le (by decide) (warningPoints_le s.warningSmells)
    apply cost_cons_le (by decide) (commentPoints_le s.commentRatio s.codeLines)
    exact Int.le_refl 0
  exact Int.le_trans hcost (by decide)

/-! ### The account -/

/-- The penalties of a score account for its points. -/
structure AccountsFor (s : ScoreInputs) (r : Score) : Prop where
  /-- Every penalty takes something away. -/
  negative : ∀ p ∈ r.penalties, p.delta < 0
  /-- A signal is listed, with what it costs, if and only if it costs anything. -/
  listed : ∀ c ∈ charges s, ⟨c.metric, c.value, -c.points⟩ ∈ r.penalties ↔ 0 < c.points
  /-- The penalties stand in the order of the signals. -/
  inOrder : (r.penalties.map (·.metric)).Sublist signals
  /-- No signal is listed twice. -/
  once : (r.penalties.map (·.metric)).Nodup
  /-- All signals together cost no more than so much. -/
  bounded : -most ≤ r.lost
  /-- The points are what is left of the best score, but never less than none. -/
  points : r.points = max 0 (best + r.lost)
  inRange : 0 ≤ r.points ∧ r.points ≤ best
  grade : r.grade = Grade.ofScore r.points
  /-- Only a score without penalties is the best one. -/
  unharmed : r.points = best ↔ r.penalties = []

theorem accountsFor_ofSignals (s : ScoreInputs) : AccountsFor s (ofSignals s) := by
  have hlost := lost_ofSignals s
  have hpoints := points_eq s
  have hnonneg := cost_nonneg (charges s)
  have hmost := cost_charges_le s
  have horder : ((ofSignals s).penalties.map (·.metric)).Sublist signals :=
    metrics_sublist (charges s)
  have hempty : cost (charges s) = 0 ↔ (ofSignals s).penalties = [] := cost_eq_zero_iff (charges s)
  exact {
    negative := fun p hp => delta_neg_of_mem hp
    listed := fun c hc => mem_penalties_of_charge_iff hc
    inOrder := horder
    once := horder.nodup (by decide)
    bounded := by omega
    points := by rw [hpoints, hlost]; rfl
    inRange := by unfold best at hpoints ⊢; omega
    grade := rfl
    unharmed := by
      rw [← hempty, hpoints]
      unfold best
      omega }

/-- Signals have a score if and only if all that is written for them can be written, and then the
penalties account for it, whatever the signals are. -/
theorem accountsFor_ofInputs (s : ScoreInputs) :
    ((∃ r, ofInputs s = .ok r) ↔ s.Writable) ∧ ∀ r, ofInputs s = .ok r → AccountsFor s r := by
  refine ⟨⟨?_, fun h => ⟨ofSignals s, ofInputs_eq_ok_iff.mpr ⟨h, rfl⟩⟩⟩, fun r hr => ?_⟩
  · rintro ⟨r, hr⟩
    exact (ofInputs_eq_ok_iff.mp hr).1
  · obtain ⟨-, rfl⟩ := ofInputs_eq_ok_iff.mp hr
    exact accountsFor_ofSignals s

/-- A mean complexity or a count that cannot be written leaves no score that could be accounted
for. -/
theorem no_score_to_account_for :
    (¬∃ r, ofInputs immense = .ok r) ∧ ¬∃ r, ofInputs countless = .ok r := by
  rw [ofInputs_immense, ofInputs_countless]
  exact ⟨nofun, nofun⟩

end Score

end SourceGrade
