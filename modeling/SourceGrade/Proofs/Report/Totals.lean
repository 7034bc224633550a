import SourceGrade.Proofs.Count
import SourceGrade.Proofs.Number.Fault
import SourceGrade.Proofs.Number.Rounding
import SourceGrade.Proofs.Report.Ranking

set_option autoImplicit false

/-!
# The figures of a summary

The summary of graded reports of different files ranks them and adds up their figures. With exact
means its score is the mean of the scores, rounded half up, whatever the number of reports. The
means are computed in doubles, which changes nothing as long as there are fewer than `manyReports`
reports: a mean that lies just below a half is too far from it to be rounded onto it.
-/

namespace SourceGrade

/-- An integer is a number rounded half up. -/
structure Number.IsHalfUp (q : Rat) (n : Int) : Prop where
  le : (n : Rat) - 1 / 2 ≤ q
  lt : q < (n : Rat) + 1 / 2

/-- Rounding half up keeps a number between integers that bound it. -/
theorem Number.IsHalfUp.bounds {q : Rat} {n low high : Int} (h : IsHalfUp q n)
    (hlow : (low : Rat) ≤ q) (hhigh : q ≤ high) : low ≤ n ∧ n ≤ high := by
  have hle := h.le
  have hlt := h.lt
  have h₁ : (low : Rat) < n + 1 := by linarith
  have h₂ : (n : Rat) < high + 1 := by linarith
  exact ⟨Int.lt_add_one_iff.mp (by exact_mod_cast h₁), Int.lt_add_one_iff.mp (by exact_mod_cast h₂)⟩

/-- Every number is rounded half up to some integer. -/
theorem Number.exists_isHalfUp (q : Rat) : ∃ n : Int, IsHalfUp q n := by
  refine ⟨(q + 1 / 2).floor, ?_, ?_⟩
  · have := Rat.floor_le (q + 1 / 2)
    linarith
  · have h : q + 1 / 2 < ((q + 1 / 2).floor : Rat) + 1 := by
      exact_mod_cast Rat.lt_floor_add_one (q + 1 / 2)
    linarith

/-- A number that is not negative is cut down to the integer below it. -/
theorem Number.truncate_eq {q : Rat} {n : Int} (hn : 0 ≤ n) (hle : (n : Rat) ≤ q)
    (hlt : q < n + 1) : truncate q = n := by
  have hq : ¬q < 0 := not_lt.mpr (le_trans (by exact_mod_cast hn) hle)
  have hfloor : q.floor < n + 1 := by
    rw [Rat.floor_lt_iff]
    exact_mod_cast hlt
  have hfloor' : n ≤ q.floor := Rat.le_floor_iff.mpr hle
  unfold truncate
  rw [if_neg hq]
  omega

namespace Summary

/-! ## The mean score -/

/-- The mean of scores. -/
def exactMean (scores : List Int) : Rat :=
  (Number.signedTotal scores : Rat) / (scores.length : Rat)

theorem exactMean_bounds {scores : List Int} (hne : scores ≠ []) {low high : Int}
    (h : ∀ n ∈ scores, low ≤ n ∧ n ≤ high) :
    (low : Rat) ≤ exactMean scores ∧ exactMean scores ≤ high := by
  have hlength : (0 : Rat) < scores.length := by
    exact_mod_cast List.length_pos_of_ne_nil hne
  obtain ⟨hlow, hhigh⟩ := Number.signedTotal_bounds h
  unfold exactMean
  rw [le_div_iff₀ hlength, div_le_iff₀ hlength]
  constructor
  · rw [mul_comm]
    exact_mod_cast hlow
  · rw [mul_comm]
    exact_mod_cast hhigh

/-- The mean score is the mean rounded half up, if neither of the two roundings carries it across
an integer. -/
theorem isHalfUp_meanScore {scores : List Int} {round : Rat → Rat} (hne : scores ≠ [])
    (hscores : ∀ n ∈ scores, 0 ≤ n ∧ n ≤ Score.best)
    (hround : ∀ n : Int, Number.IsHalfUp (exactMean scores) n →
      (n : Rat) ≤ round (round (exactMean scores) + 1 / 2) ∧
        round (round (exactMean scores) + 1 / 2) < n + 1) :
    Number.IsHalfUp (exactMean scores) (meanScore scores round) := by
  obtain ⟨n, hn⟩ := Number.exists_isHalfUp (exactMean scores)
  obtain ⟨hmean, hmean'⟩ := exactMean_bounds hne hscores
  have hnonneg : 0 ≤ n := (hn.bounds hmean hmean').1
  obtain ⟨hle, hlt⟩ := hround n hn
  have heq : meanScore scores round = n := Number.truncate_eq hnonneg hle hlt
  rwa [heq]

/-- Without any rounding the mean score is the mean rounded half up. -/
theorem isHalfUp_meanScore_exact {scores : List Int} (hne : scores ≠ [])
    (hscores : ∀ n ∈ scores, 0 ≤ n ∧ n ≤ Score.best) :
    Number.IsHalfUp (exactMean scores) (meanScore scores id) := by
  refine isHalfUp_meanScore hne hscores fun n hn => ?_
  have hle := hn.le
  have hlt := hn.lt
  simp only [id]
  constructor <;> linarith

/-- The number of reports from which on a mean may lie so close to a half that a double does not
tell them apart: the forty-fifth power of two. -/
def manyReports : Nat := 35184372088832

/-- A mean of fewer numbers that is less than a half is less by a good deal. -/
theorem exactMean_le_of_lt {scores : List Int} (hne : scores ≠ [])
    (hfew : scores.length < manyReports) {n : Int} (h : exactMean scores < n + 1 / 2) :
    exactMean scores < n + 1 / 2 - 1 / 2 ^ 46 := by
  have hlength : (0 : Rat) < scores.length := by
    exact_mod_cast List.length_pos_of_ne_nil hne
  have hfew' : (scores.length : Rat) < 2 ^ 45 := by
    have hpower : (2 : Rat) ^ 45 = (manyReports : Rat) := by norm_num [manyReports]
    rw [hpower]
    exact_mod_cast hfew
  unfold exactMean at h ⊢
  rw [div_lt_iff₀ hlength] at h ⊢
  -- Twice the total and as many times an odd number are integers, so they differ by one at least.
  have hwhole : (2 : Rat) * Number.signedTotal scores + 1 ≤ (2 * n + 1) * scores.length := by
    have hless : (2 : Rat) * Number.signedTotal scores < (2 * n + 1) * scores.length := by linarith
    exact_mod_cast Int.add_one_le_iff.mpr (by exact_mod_cast hless)
  have hgap : (scores.length : Rat) * (1 / 2 ^ 46) < 1 / 2 := by
    calc (scores.length : Rat) * (1 / 2 ^ 46) < 2 ^ 45 * (1 / 2 ^ 46) := by gcongr
      _ = 1 / 2 := by norm_num
  linarith

/-- In doubles the mean score is the mean rounded half up, unless there are too many reports. -/
theorem isHalfUp_meanScore_double {scores : List Int} (hne : scores ≠ [])
    (hscores : ∀ n ∈ scores, 0 ≤ n ∧ n ≤ Score.best) (hfew : scores.length < manyReports) :
    Number.IsHalfUp (exactMean scores) (meanScore scores) := by
  refine isHalfUp_meanScore hne hscores fun n hn => ?_
  obtain ⟨hnonneg, hmost⟩ := exactMean_bounds hne hscores
  have hbest : ((Score.best : Int) : Rat) = 100 := by norm_num [Score.best]
  rw [hbest] at hmost
  rw [Int.cast_zero] at hnonneg
  have hbelow := exactMean_le_of_lt hne hfew hn.lt
  have hunit : (1 : Rat) / 2 ^ 46 = 2 * (1 / 2 ^ 47) := by norm_num
  have hsmall : (1 : Rat) / 2 ^ 47 < 1 := by norm_num
  -- The first rounding is that of the mean.
  obtain ⟨herror, herror'⟩ :=
    abs_le.mp (Number.nearestDouble_error hnonneg (by linarith : exactMean scores < 128))
  have hfirst : ((2 * n - 1 : Int) : Rat) / 2 ≤ Number.nearestDouble (exactMean scores) := by
    refine Number.half_le_nearestDouble hnonneg (by linarith) ?_
    push_cast
    linarith [hn.le]
  push_cast at hfirst
  have hzero : (0 : Rat) ≤ Number.nearestDouble (exactMean scores) := by
    have := Number.half_le_nearestDouble (m := 0) hnonneg (by linarith) (by simpa using hnonneg)
    simpa using this
  -- The second one is that of its sum with a half.
  obtain ⟨herror₂, herror₂'⟩ :=
    abs_le.mp (Number.nearestDouble_error (q := Number.nearestDouble (exactMean scores) + 1 / 2)
      (by linarith) (by linarith))
  constructor
  · have hsecond : ((2 * n : Int) : Rat) / 2 ≤
        Number.nearestDouble (Number.nearestDouble (exactMean scores) + 1 / 2) := by
      refine Number.half_le_nearestDouble (by linarith) (by linarith) ?_
      push_cast
      linarith
    push_cast at hsecond
    linarith
  · linarith

/-! ## Counts -/

theorem total_countGrades {reports : List Report}
    (hgrades : ∀ r ∈ reports, ∃ g : Grade, r.grade = g.letter) :
    Number.total ((countGrades reports).map (·.2)) = reports.length := by
  induction reports with
  | nil => rfl
  | cons r reports ih =>
    obtain ⟨g, hg⟩ := hgrades r List.mem_cons_self
    have hrest := ih fun r' hr' => hgrades r' (List.mem_cons_of_mem r hr')
    -- The letter of the first report is that of one grade.
    simp only [countGrades, Grade.all, List.map_cons, List.map_nil, Number.total_cons,
      Number.total_nil] at hrest ⊢
    cases g <;> simp [hg, Grade.letter] at hrest ⊢ <;> omega

theorem mem_countLanguages {reports : List Report} {tag : String} {n : Nat} :
    (tag, n) ∈ countLanguages reports ↔
      0 < n ∧ n = (reports.map (·.language)).count tag := by
  unfold countLanguages
  simp only [List.mem_map, List.mem_eraseDups, Prod.mk.injEq]
  constructor
  · rintro ⟨tag', hmem, rfl, rfl⟩
    exact ⟨List.count_pos_iff.mpr (List.mem_map.mpr hmem), rfl⟩
  · rintro ⟨hpos, rfl⟩
    exact ⟨tag, List.mem_map.mp (List.count_pos_iff.mp hpos), rfl, rfl⟩

theorem keys_countLanguages (reports : List Report) :
    (countLanguages reports).map (·.1) = (reports.map (·.language)).eraseDups := by
  unfold countLanguages
  rw [List.map_map]
  exact List.map_id _

theorem total_countLanguages (reports : List Report) :
    Number.total ((countLanguages reports).map (·.2)) = reports.length := by
  have htotal := total_count_eraseDups (reports.map (·.language))
  rw [List.length_map] at htotal
  rw [← htotal]
  unfold countLanguages
  rw [List.map_map]
  rfl

/-! ## The summary -/

/-- What a summary has to say of reports. -/
structure SumsUp (reports : List Report) (s : Summary) : Prop where
  /-- The reports are those that were handed over. -/
  perm : s.reports.Perm reports
  /-- They are ranked by score and then by name, without ties. -/
  ranked : s.reports.Pairwise Below
  /-- The score is the mean of the scores, rounded half up. -/
  mean : Number.IsHalfUp (exactMean (reports.map (·.score))) s.overallScore
  /-- It lies between the lowest and the highest of them. -/
  between : ∀ low high, (∀ r ∈ reports, low ≤ r.score ∧ r.score ≤ high) →
    low ≤ s.overallScore ∧ s.overallScore ≤ high
  grade : s.overallGrade = Grade.ofScore s.overallScore
  /-- The reports of each grade are counted. -/
  grades : s.gradeCounts = Grade.all.map fun g => (g, reports.countP (·.grade == g.letter))
  grades_total : Number.total (s.gradeCounts.map (·.2)) = reports.length
  /-- Each language is listed once. -/
  languages_distinct : (s.languages.map (·.1)).Nodup
  /-- The reports of each language are counted, and no others are listed. -/
  languages : ∀ tag n, (tag, n) ∈ s.languages ↔
    0 < n ∧ n = (reports.map (·.language)).count tag
  languages_total : Number.total (s.languages.map (·.2)) = reports.length
  totalSmells : s.totalSmells = Number.signedTotal (reports.map fun r => (r.smells.length : Int))
  totalFunctions : s.totalFunctions = Number.signedTotal (reports.map (·.functions.total))
  totalCodeLines : s.totalCodeLines = Number.signedTotal (reports.map (·.lines.code))

theorem exactMean_eq_of_perm {scores scores' : List Int} (h : scores.Perm scores') :
    exactMean scores = exactMean scores' := by
  unfold exactMean
  rw [Number.signedTotal_eq_of_perm h, h.length_eq]

/-- The summary of ranked reports sums up the reports, if its score is the mean of theirs. -/
theorem sumsUp_ofRanked {reports : List Report} {round : Rat → Rat} (hne : reports ≠ [])
    (hgrades : ∀ r ∈ reports, ∃ g : Grade, r.grade = g.letter)
    (hfiles : (reports.map (·.filename)).Nodup)
    (hmean : Number.IsHalfUp (exactMean ((ranking reports).map (·.score)))
      (meanScore ((ranking reports).map (·.score)) round)) :
    SumsUp reports (ofRanked (ranking reports) round) := by
  have hperm := ranking_perm reports
  rw [exactMean_eq_of_perm (hperm.map _)] at hmean
  exact {
    perm := hperm
    ranked := pairwise_ranking hfiles
    mean := hmean
    between := fun low high hall => by
      have hscores : reports.map (·.score) ≠ [] := by simpa using hne
      have hbounds := exactMean_bounds hscores fun n hn => by
        obtain ⟨r, hr, rfl⟩ := List.mem_map.mp hn
        exact hall r hr
      exact hmean.bounds hbounds.1 hbounds.2
    grade := rfl
    grades := by
      refine List.map_congr_left fun g _ => ?_
      rw [hperm.countP_eq]
    grades_total := by
      rw [← hperm.length_eq]
      exact total_countGrades fun r hr => hgrades r (hperm.mem_iff.mp hr)
    languages_distinct := by
      show ((countLanguages (ranking reports)).map (·.1)).Nodup
      rw [keys_countLanguages]
      exact nodup_eraseDups _
    languages := fun tag n => by
      rw [← (hperm.map _).count_eq]
      exact mem_countLanguages
    languages_total := by
      rw [← hperm.length_eq]
      exact total_countLanguages _
    totalSmells := Number.signedTotal_eq_of_perm (hperm.map _)
    totalFunctions := Number.signedTotal_eq_of_perm (hperm.map _)
    totalCodeLines := Number.signedTotal_eq_of_perm (hperm.map _) }

theorem ofLetter?_letter (g : Grade) : Grade.ofLetter? g.letter = some g := by
  cases g <;> rfl

/-- A double can hold the mean of scores. -/
theorem divide_scores {scores : List Int} (hne : scores ≠ [])
    (hscores : ∀ n ∈ scores, 0 ≤ n ∧ n ≤ Score.best) :
    Number.divide (Number.signedTotal scores) scores.length =
      .ok (Number.quotient (Number.signedTotal scores) scores.length) := by
  obtain ⟨hnonneg, hmost⟩ := exactMean_bounds hne hscores
  have hbest : ((Score.best : Int) : Rat) ≤ 2 ^ (7 : Int) := by norm_num [Score.best]
  have hpower : (2 : Rat) ^ (7 : Int) ≤ 2 ^ (1023 : Int) :=
    zpow_le_zpow_right₀ (by norm_num) (by norm_num)
  exact Number.divide_eq_ok hnonneg (hmost.trans (hbest.trans hpower))

theorem scores_ranking_ne_nil {reports : List Report} (hne : reports ≠ []) :
    (ranking reports).map (·.score) ≠ [] := by
  rw [Ne, List.map_eq_nil_iff, ← List.length_eq_zero_iff, (ranking_perm reports).length_eq]
  exact mt List.length_eq_zero_iff.mp hne

/-- Graded reports have the summary of their ranking. -/
theorem ofReports_eq_ok {reports : List Report} (hne : reports ≠ [])
    (hscores : ∀ n ∈ (ranking reports).map (·.score), 0 ≤ n ∧ n ≤ Score.best)
    (hgrades : ∀ r ∈ reports, ∃ g : Grade, r.grade = g.letter) (round : Rat → Rat) :
    ofReports reports round = .ok (ofRanked (ranking reports) round) := by
  have hmean := divide_scores (scores_ranking_ne_nil hne) hscores
  rw [List.length_map] at hmean
  have hfound : (ranking reports).find? (fun r => (Grade.ofLetter? r.grade).isNone) = none := by
    rw [List.find?_eq_none]
    intro r hr
    obtain ⟨g, hg⟩ := hgrades r ((ranking_perm reports).mem_iff.mp hr)
    rw [hg, ofLetter?_letter]
    simp
  have hsome : reports.isEmpty = false := List.isEmpty_eq_false_iff.mpr hne
  unfold ofReports ofGraded
  dsimp only
  rw [hmean, hfound, hsome]
  rfl

theorem ofReports_eq_of_perm {reports reports' : List Report}
    (hfiles : (reports.map (·.filename)).Nodup) (h : reports'.Perm reports)
    (round : Rat → Rat) : ofReports reports' round = ofReports reports round := by
  unfold ofReports ofGraded
  rw [ranking_eq_of_perm hfiles h.symm, h.isEmpty_eq]

/-- Graded reports of different files have a summary that sums them up and does not depend on their
order. This holds of exact means, and of means in doubles unless there are too many reports. -/
theorem sumsUp_ofReports {reports : List Report} (hne : reports ≠ [])
    (hscores : ∀ r ∈ reports, 0 ≤ r.score ∧ r.score ≤ 100)
    (hgrades : ∀ r ∈ reports, ∃ g : Grade, r.grade = g.letter)
    (hfiles : (reports.map (·.filename)).Nodup) :
    (∃ s, ofReports reports id = .ok s ∧ SumsUp reports s ∧
      ∀ reports', reports'.Perm reports → ofReports reports' id = .ok s) ∧
    ∃ s, ofReports reports = .ok s ∧ (reports.length < manyReports → SumsUp reports s) ∧
      ∀ reports', reports'.Perm reports → ofReports reports' = .ok s := by
  have hperm := ranking_perm reports
  have hranked := scores_ranking_ne_nil hne
  have hscores' : ∀ n ∈ (ranking reports).map (·.score), 0 ≤ n ∧ n ≤ Score.best := by
    intro n hn
    obtain ⟨r, hr, rfl⟩ := List.mem_map.mp hn
    exact hscores r (hperm.mem_iff.mp hr)
  have hok := ofReports_eq_ok hne hscores' hgrades
  refine ⟨⟨_, hok id, ?_, fun reports' h => ?_⟩, ⟨_, hok Number.nearestDouble, fun hfew => ?_,
    fun reports' h => ?_⟩⟩
  · exact sumsUp_ofRanked hne hgrades hfiles (isHalfUp_meanScore_exact hranked hscores')
  · rw [ofReports_eq_of_perm hfiles h, hok]
  · refine sumsUp_ofRanked hne hgrades hfiles (isHalfUp_meanScore_double hranked hscores' ?_)
    rwa [List.length_map, hperm.length_eq]
  · rw [ofReports_eq_of_perm hfiles h, hok]

/-- Two reports whose mean score lies in the middle between two integers. -/
def twoReports : List Report :=
  [{ filename := "b.go", language := "go", score := 90, grade := "A" },
    { filename := "a.js", language := "javascript", score := 61, grade := "D" }]

theorem sumsUp_twoReports :
    (twoReports ≠ [] ∧ (∀ r ∈ twoReports, 0 ≤ r.score ∧ r.score ≤ 100) ∧
      (∀ r ∈ twoReports, ∃ g : Grade, r.grade = g.letter) ∧
      (twoReports.map (·.filename)).Nodup) ∧
    ∃ s, ofReports twoReports id = .ok s ∧ SumsUp twoReports s ∧
      ofReports twoReports.reverse id = .ok s := by
  have hne : twoReports ≠ [] := by decide
  have hscores : ∀ r ∈ twoReports, 0 ≤ r.score ∧ r.score ≤ 100 := by decide
  have hgrades : ∀ r ∈ twoReports, ∃ g : Grade, r.grade = g.letter := by
    unfold twoReports
    rw [List.forall_mem_cons, List.forall_mem_singleton]
    exact ⟨⟨.a, rfl⟩, ⟨.d, rfl⟩⟩
  have hfiles : (twoReports.map (·.filename)).Nodup := by decide
  obtain ⟨⟨s, hs, hsums, hperm⟩, -⟩ := sumsUp_ofReports hne hscores hgrades hfiles
  exact ⟨⟨hne, hscores, hgrades, hfiles⟩, s, hs, hsums, hperm _ (List.reverse_perm _)⟩

end Summary

end SourceGrade
