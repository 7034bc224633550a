import SourceGrade.Proofs.Language.Registry
import SourceGrade.Proofs.Metric.LineCount
import SourceGrade.Proofs.Report.Analysis
import SourceGrade.Proofs.Report.Penalties
import SourceGrade.Proofs.Report.Totals

set_option autoImplicit false

/-!
# Reports of texts that are not immense

The figures of a report grow with the length of its text: there are no more hits than characters,
so no more than so many functions, issues, smells and decisions. What divides these figures or
writes them fails for numbers far beyond any text, so for a text of fewer than two to the power of
a thousand characters nothing of the kind fails, and a report holds what those functions return.
-/

namespace SourceGrade

/-! ## Hits and what is found with them -/

/-- There are no more hits than characters, since each takes one at least. -/
theorem Pattern.length_hitsFrom_le (p : Pattern) (rest : List Char) :
    ∀ before offset skip, (p.hitsFrom before offset skip rest).length ≤ rest.length := by
  induction rest with
  | nil => exact fun _ _ _ => Nat.le_refl 0
  | cons c rest ih =>
    intro before offset skip
    have hlater : ∀ offset skip,
        (p.hitsFrom (some c) offset skip rest).length ≤ (c :: rest).length :=
      fun offset skip => (ih _ offset skip).trans (Nat.le_succ _)
    cases skip with
    | succ skip => exact hlater _ skip
    | zero =>
      unfold Pattern.hitsFrom
      split
      · exact hlater _ 0
      · split
        · exact Nat.succ_le_succ (ih _ _ _)
        · exact hlater _ 0

theorem Pattern.length_hits_le (p : Pattern) (t : List Char) : (p.hits t).length ≤ t.length :=
  p.length_hitsFrom_le t _ _ _

theorem Text.length_lines_le (t : List Char) : (Text.lines t).length ≤ t.length + 1 := by
  rw [length_lines]
  exact Nat.succ_le_succ List.count_le_length

/-- What is found for each of several things, and for each no more than so much. -/
theorem length_flatMap_le {α β : Type} {f : α → List β} {bound : Nat} (as : List α)
    (h : ∀ a ∈ as, (f a).length ≤ bound) : (as.flatMap f).length ≤ as.length * bound := by
  induction as with
  | nil => exact Nat.zero_le _
  | cons a as ih =>
    rw [List.forall_mem_cons] at h
    rw [List.flatMap_cons, List.length_append, List.length_cons, Nat.succ_mul]
    have hrest := ih h.2
    omega

namespace Complexity

/-- Each of the eleven patterns counts no more than all characters. -/
theorem estimate_le (body : List Char) : estimate body ≤ 1 + 11 * body.length := by
  have htotal : ∀ ps : List Pattern,
      Number.total (ps.map (·.countHits body)) ≤ ps.length * body.length := by
    intro ps
    induction ps with
    | nil => exact Nat.zero_le _
    | cons p ps ih =>
      have hp : p.countHits body ≤ body.length := p.length_hits_le body
      rw [List.map_cons, Number.total_cons, List.length_cons, Nat.succ_mul]
      omega
  exact Nat.add_le_add_left (htotal decisions) 1

end Complexity

namespace FunctionInfo

theorem complexity_of_mem_find {language : Language} {t : List Char} {limit : Int}
    {f : FunctionInfo} (hmem : f ∈ find language t limit) :
    0 ≤ f.complexity ∧ f.complexity ≤ 1 + 11 * t.length := by
  obtain ⟨c, -, rfl⟩ := exists_candidate_of_mem_find hmem
  have hbody := (Body.lookUp_prefix t (.ofText t) (.ofText t) c.start limit).length_le
  have hestimate := Complexity.estimate_le
    (Body.lookUp t (.ofText t) (.ofText t) c.start limit)
  rw [List.length_drop] at hbody
  show 0 ≤ (Complexity.estimate _ : Int) ∧ (Complexity.estimate _ : Int) ≤ _
  omega

theorem length_find_le (language : Language) (t : List Char) (limit : Int) :
    (find language t limit).length ≤ language.functionPatterns.length * t.length := by
  have hcandidates : (candidates language (.ofText t) t).length ≤
      language.functionPatterns.length * t.length :=
    length_flatMap_le _ fun p _ => (List.length_filterMap_le _ _).trans (p.length_hits_le t)
  unfold find
  dsimp only
  rw [List.length_map]
  exact (firstCandidates_sublist _).length_le.trans hcandidates

end FunctionInfo

/-- No registered language has more than four patterns for signatures. -/
theorem Language.length_functionPatterns_le (filename : String) :
    (ofFilename filename).functionPatterns.length ≤ 4 := by
  have hall : ∀ l ∈ registry, l.functionPatterns.length ≤ 4 := by decide
  exact hall _ (ofFilename_mem_registry filename)

theorem NamingIssue.length_listed_le (language : Language) (fs : List FunctionInfo)
    (allowed : List String) (t : List Char) :
    (listed language fs allowed t).length ≤ fs.length + t.length := by
  unfold listed
  rw [List.length_append]
  exact Nat.add_le_add (List.length_filterMap_le _ _)
    ((List.length_filterMap_le _ _).trans (oneLetterVariable.length_hits_le t))

namespace Smell

theorem length_nestedFrom_le (allowed : Int) (lines : List (List Char)) :
    ∀ depth number, (nestedFrom allowed depth number lines).length ≤ lines.length := by
  induction lines with
  | nil => exact fun _ _ => Nat.le_refl 0
  | cons line lines ih =>
    intro depth number
    unfold nestedFrom
    dsimp only
    split
    · exact Nat.succ_le_succ (ih _ _)
    · exact (ih _ _).trans (Nat.le_succ _)

theorem length_listed_le (length depth : Int) (numbers : List Int) (t : List Char) :
    (listed length depth numbers t).length ≤ 2 * (Text.lines t).length + 7 * t.length := by
  have hlong : (longLines length (Text.lines t)).length ≤ (Text.lines t).length := by
    refine (List.length_filterMap_le _ _).trans ?_
    rw [List.length_zipIdx]
  have hnested := length_nestedFrom_le depth (Text.lines t) 0 1
  have hdebug : (debugOutput t (.ofText t)).length ≤ 4 * t.length :=
    length_flatMap_le debugCalls fun p _ => by
      rw [List.length_map]
      exact p.1.length_hits_le t
  have hnumbers := (List.length_filterMap_le (unexplained? numbers (.ofText t))
    (operand.hits t)).trans (operand.length_hits_le t)
  have htodos := todoComment.length_hits_le t
  have hcatches := swallowedError.length_hits_le t
  unfold listed todos emptyCatches deepNesting
  simp only [List.length_append, List.length_map]
  omega

end Smell

/-! ## Figures of a text that is not immense -/

/-- A number of characters that no text has: the thousandth power of two. -/
@[irreducible]
def Text.immense : Nat := Number.power 2 1000

namespace Number

/-- A number that is not much greater than that of the characters is far from overflowing. -/
theorem le_largest {q : Rat} (h : q ≤ 128 * Text.immense) : q ≤ 2 ^ (1023 : Int) := by
  have hfactor : (128 : Rat) = 2 ^ (7 : Int) := by norm_num
  unfold Text.immense at h
  rw [natCast_power, hfactor, ← zpow_add₀ (by norm_num)] at h
  exact h.trans (zpow_le_zpow_right₀ (by norm_num) (by norm_num))

theorem isShort_of_le {n : Int} (hnonneg : 0 ≤ n) (h : n ≤ (128 * Text.immense : Nat)) :
    IsShort n := by
  have hpower : 128 * Text.immense < power 10 maxDigits := by decide +kernel
  have hle : n.natAbs ≤ 128 * Text.immense := by omega
  exact hle.trans_lt hpower

end Number

section

variable {t : List Char} (hsize : t.length < Text.immense)

include hsize

/-- The comment lines of a text can be divided by its code lines, and their percentage is finite. -/
theorem LineCount.ratio_ofText (language : Language) :
    (LineCount.ofText language t).ratio =
      .ok (.finite (LineCount.ofText language t).commentRatio) := by
  have htells := LineCount.tells_ofText language t
  have hnonneg := htells.nonneg
  have hcomment : (LineCount.ofText language t).comment ≤ Text.immense := by
    have hlines := Text.length_lines_le t
    have htotal := htells.total
    have hsum := htells.sum
    omega
  generalize LineCount.ofText language t = n at hnonneg hcomment
  unfold LineCount.ratio LineCount.commentRatio
  split
  · rfl
  · rename_i hcode
    have hone : (1 : Rat) ≤ n.code := by exact_mod_cast (by omega : 1 ≤ n.code)
    have hpart : (0 : Rat) ≤ n.comment := by exact_mod_cast hnonneg.2.1
    have hquotient : 0 ≤ (n.comment : Rat) / n.code := by positivity
    have hle : (n.comment : Rat) / n.code ≤ Text.immense :=
      (div_le_self hpart hone).trans (by exact_mod_cast hcomment)
    have hrounded : Number.quotient n.comment n.code ≤ Text.immense := by
      unfold Text.immense at hle ⊢
      rw [Number.natCast_power] at hle ⊢
      exact Number.nearestDouble_le_of_le_zpow hquotient (by decide) hle
    have hfits : Number.overflows (Number.quotient n.comment n.code * 100) = false := by
      have hpos : 0 ≤ Number.quotient n.comment n.code := Number.nearestDouble_nonneg hquotient
      exact Number.not_overflows (by positivity) (Number.le_largest (by linarith))
    rw [Number.divide_eq_ok hquotient (Number.le_largest (by linarith))]
    show Except.ok (Double.ofRat (Number.quotient n.comment n.code * 100)) = _
    unfold Double.ofRat
    rw [hfits]
    rfl

/-- The complexity of the functions of a text has a mean. -/
theorem FunctionSummary.summarize_find (settings : AnalysisSettings) (language : Language)
    (limit : Int) :
    FunctionSummary.summarize settings (FunctionInfo.find language t limit) =
      .ok (.ofFunctions settings (FunctionInfo.find language t limit),
        FunctionSummary.meanComplexity (FunctionInfo.find language t limit)) := by
  have hcomplexity : ∀ n ∈ (FunctionInfo.find language t limit).map (·.complexity),
      (0 : Int) ≤ n ∧ n ≤ 1 + 11 * t.length := by
    intro n hn
    obtain ⟨f, hf, rfl⟩ := List.mem_map.mp hn
    exact FunctionInfo.complexity_of_mem_find hf
  generalize FunctionInfo.find language t limit = fs at hcomplexity
  unfold FunctionSummary.summarize FunctionSummary.meanComplexity
  split
  · rfl
  · rename_i hsome
    have hne : fs.map (·.complexity) ≠ [] := by
      rw [Ne, List.map_eq_nil_iff]
      exact mt List.isEmpty_iff.mpr hsome
    obtain ⟨hnonneg, hmost⟩ := Summary.exactMean_bounds hne hcomplexity
    have hbound : ((1 + 11 * t.length : Int) : Rat) ≤ 128 * Text.immense := by
      exact_mod_cast (by omega : (1 + 11 * t.length : Int) ≤ 128 * Text.immense)
    unfold Summary.exactMean at hnonneg hmost
    rw [List.length_map] at hnonneg hmost
    rw [Number.divide_eq_ok hnonneg (Number.le_largest (hmost.trans hbound))]
    rfl

/-- The signals of findings that are not too many can be written. -/
theorem Report.writable_signals (settings : AnalysisSettings) (language : Language)
    {functions : List FunctionInfo} {issues : List NamingIssue} {smells : List Smell}
    (hfunctions : functions.length ≤ 128 * Text.immense)
    (hissues : issues.length ≤ 128 * Text.immense)
    (hsmells : smells.length ≤ 128 * Text.immense) :
    (signals settings language t functions issues smells).Writable := by
  have hlong : (FunctionSummary.ofFunctions settings functions).longFunctions.length ≤
      functions.length := List.length_filter_le _ _
  have hseverity : ∀ severity, 0 ≤ countSeverity severity smells ∧
      countSeverity severity smells ≤ (128 * Text.immense : Nat) := fun severity => by
    have hcount := smells.countP_le_length (p := (·.severity == severity))
    unfold countSeverity
    omega
  have hcode : 0 ≤ (LineCount.ofText language t).code ∧
      (LineCount.ofText language t).code ≤ (128 * Text.immense : Nat) := by
    have hlines := Text.length_lines_le t
    obtain ⟨htotal, -, -, hnonneg, hsum⟩ := LineCount.tells_ofText language t
    omega
  exact {
    averageComplexity := trivial
    duplication := trivial
    namingIssues := Number.isShort_of_le (Int.natCast_nonneg _) (Int.ofNat_le.mpr hissues)
    codeLines := Number.isShort_of_le hcode.1 hcode.2
    longFunctions := Number.isShort_of_le (Int.natCast_nonneg _)
      (Int.ofNat_le.mpr (hlong.trans hfunctions))
    errorSmells := Number.isShort_of_le (hseverity "error").1 (hseverity "error").2
    warningSmells := fun _ => Number.isShort_of_le (hseverity "warning").1 (hseverity "warning").2
    commentRatio := fun _ => trivial }

/-- The signals of a text can be written. -/
theorem Report.writable_signals_ofReadable (settings : AnalysisSettings) (filename : String) :
    let language := Language.ofFilename filename
    let functions := FunctionInfo.find language t settings.bodyScanLimit
    (signals settings language t functions
      (NamingIssue.listed language functions settings.shortNameAllowlist t)
      (Smell.listed settings.maxLineLength settings.maxNestingDepth
        settings.magicNumberAllowlist t)).Writable := by
  intro language functions
  have hlines := Text.length_lines_le t
  have hfunctions : functions.length ≤ 4 * t.length :=
    (FunctionInfo.length_find_le language t _).trans
      (Nat.mul_le_mul_right _ (Language.length_functionPatterns_le filename))
  have hissues := NamingIssue.length_listed_le language functions settings.shortNameAllowlist t
  have hsmells := Smell.length_listed_le settings.maxLineLength settings.maxNestingDepth
    settings.magicNumberAllowlist t
  exact writable_signals hsize settings language (by omega) (by omega) (by omega)

end

namespace Report

/-- What a report holds is what is computed for it without a fault. -/
structure Computes (settings : AnalysisSettings) (filename : String) (t : List Char)
    (r : Report) : Prop where
  /-- The summary of its functions. -/
  functions : ∃ mean, FunctionSummary.summarize settings r.functions.all = .ok (r.functions, mean)
  /-- The share of its comment lines, rounded to one place. -/
  commentRatio : ∃ q, r.lines.ratio = .ok (.finite q) ∧ r.commentRatio = Number.roundTo 1 q
  /-- The score of its signals. -/
  score : ∃ s, Score.ofInputs (signals settings (Language.ofFilename filename) t r.functions.all
    r.namingIssues r.smells) = .ok s ∧ r.score = s.points ∧ r.grade = s.grade.letter ∧
      r.penalties = s.penalties

theorem computes_assemble {settings : AnalysisSettings} {filename : String} {t : List Char}
    {functions : List FunctionInfo} {issues : List NamingIssue} {smells : List Smell} {mean : Rat}
    (hsummary : FunctionSummary.summarize settings functions =
      .ok (.ofFunctions settings functions, mean))
    (hratio : (LineCount.ofText (Language.ofFilename filename) t).ratio =
      .ok (.finite (LineCount.ofText (Language.ofFilename filename) t).commentRatio))
    (hwritable :
      (signals settings (Language.ofFilename filename) t functions issues smells).Writable) :
    Computes settings filename t
      (assemble settings filename (Language.ofFilename filename) t functions issues smells) where
  functions := ⟨mean, hsummary⟩
  commentRatio := ⟨_, hratio, rfl⟩
  score := ⟨_, Score.ofInputs_eq_ok_iff.mpr ⟨hwritable, rfl⟩, rfl, rfl, rfl⟩

/-- The report of a text that is not immense is computed without a fault. -/
theorem computes_of_ofText {settings : AnalysisSettings} {filename : String} {t : List Char}
    {r : Report} (h : ofText settings filename t = .ok r) (hsize : t.length < Text.immense) :
    Computes settings filename t r := by
  obtain ⟨-, rfl⟩ := ofText_eq_ok_iff.mp h
  exact computes_assemble (FunctionSummary.summarize_find hsize settings _ _)
    (LineCount.ratio_ofText hsize _) (writable_signals_ofReadable hsize settings filename)

end Report

end SourceGrade
