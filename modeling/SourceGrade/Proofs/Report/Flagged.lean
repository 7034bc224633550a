import SourceGrade.Proofs.Function.Discovery
import SourceGrade.Proofs.Report.Emphasis

set_option autoImplicit false

/-!
# The functions that are to be improved

A report lists the functions that are too complex and those that are too long, and a function may be
in both lists. The two are brought together under the name and line of each function. No two
functions of a text share both, so nothing is lost: every function that is too complex or too long
is named once, the complex ones first. In the section of the file there is one line for them, or
none if there are no such functions: `Markdown.namesFlagged_of_ofText`.
-/

namespace SourceGrade

open FunctionInfo (place)

namespace FunctionSummary

/-- A function is too complex under the settings. -/
def isComplex (settings : AnalysisSettings) (f : FunctionInfo) : Bool :=
  settings.complexFunctionThreshold < f.complexity

/-- A function is too long under the settings. -/
def isLong (settings : AnalysisSettings) (f : FunctionInfo) : Bool :=
  settings.longFunctionLines < f.lineCount

end FunctionSummary

namespace Markdown

open FunctionSummary (isComplex isLong)

variable {all fs gs : List FunctionInfo} {f : FunctionInfo} {r : Report}
  {settings : AnalysisSettings} {filename : String} {t : List Char}

/-! ## Bringing lists together -/

theorem same_iff_place (f g : FunctionInfo) :
    (g.name == f.name && g.startLine == f.startLine) = true ↔ place g = place f := by
  unfold place
  rw [Bool.and_eq_true, beq_iff_eq, beq_iff_eq, Prod.mk.injEq]

/-- A function whose place is taken by none comes last. -/
theorem putFunction_of_notMem (h : place f ∉ fs.map place) : putFunction fs f = fs ++ [f] := by
  have hnone : ¬(fs.any fun g => g.name == f.name && g.startLine == f.startLine) = true := by
    rw [List.any_eq_true]
    rintro ⟨g, hg, hsame⟩
    exact h ((same_iff_place f g).mp hsame ▸ List.mem_map_of_mem hg)
  unfold putFunction
  dsimp only
  rw [if_neg hnone]

/-- A function that is there already changes nothing if no other one has its place. -/
theorem putFunction_of_mem (hmem : f ∈ fs) (h : ∀ g ∈ fs, place g = place f → g = f) :
    putFunction fs f = fs := by
  have hsome : (fs.any fun g => g.name == f.name && g.startLine == f.startLine) = true :=
    List.any_eq_true.mpr ⟨f, hmem, (same_iff_place f f).mpr rfl⟩
  unfold putFunction
  dsimp only
  rw [if_pos hsome]
  refine (List.map_congr_left fun g hg => ?_).trans (List.map_id fs)
  split
  · rename_i hsame
    exact (h g hg ((same_iff_place f g).mp hsame)).symm
  · rfl

/-- Functions that are brought together with others come after them, each of them once. -/
theorem foldl_putFunction (hall : (all.map place).Nodup) (hfs : fs ⊆ all) (hgs : gs.Sublist all) :
    gs.foldl putFunction fs = fs ++ gs.filter (· ∉ fs) := by
  have hinj := List.inj_on_of_nodup_map hall
  induction gs generalizing fs with
  | nil => rw [List.foldl_nil, List.filter_nil, List.append_nil]
  | cons g gs ih =>
    have hg : g ∈ all := hgs.mem List.mem_cons_self
    have hrest : gs.Sublist all := (List.sublist_cons_self g gs).trans hgs
    rw [List.foldl_cons]
    by_cases hmem : g ∈ fs
    · have hkeeps : putFunction fs g = fs :=
        putFunction_of_mem hmem fun g' hg' hplace => hinj (hfs hg') hg hplace
      rw [hkeeps, ih hfs hrest, List.filter_cons_of_neg (by simpa using hmem)]
    · have hnew : place g ∉ fs.map place := by
        intro htaken
        obtain ⟨g', hg', hplace⟩ := List.mem_map.mp htaken
        exact hmem (hinj (hfs hg') hg hplace ▸ hg')
      have hadded : fs ++ [g] ⊆ all :=
        List.append_subset.mpr ⟨hfs, List.cons_subset.mpr ⟨hg, List.nil_subset all⟩⟩
      -- The function does not come again, so it makes no difference for the rest that it is there.
      have hlater : g ∉ gs := (List.nodup_cons.mp (hgs.nodup (.of_map place hall))).1
      have hfilter : (gs.filter fun f => decide (f ∉ fs ++ [g])) = gs.filter (· ∉ fs) := by
        refine List.filter_congr fun f hf => ?_
        have hne : f ≠ g := fun heq => hlater (heq ▸ hf)
        simp [hne]
      rw [putFunction_of_notMem hnew, ih hadded hrest, hfilter,
        List.filter_cons_of_pos (by simpa using hmem), List.append_assoc, List.singleton_append]

/-- The flagged functions are the complex ones and then the other long ones. -/
theorem flagged_eq (hall : (r.functions.all.map place).Nodup)
    (hsummary : r.functions = .ofFunctions settings r.functions.all) :
    flagged r = r.functions.all.filter (isComplex settings) ++
      r.functions.all.filter (fun f => isLong settings f && !isComplex settings f) := by
  have hcomplex : r.functions.complexFunctions = r.functions.all.filter (isComplex settings) :=
    congrArg FunctionSummary.complexFunctions hsummary
  have hlong : r.functions.longFunctions = r.functions.all.filter (isLong settings) :=
    congrArg FunctionSummary.longFunctions hsummary
  have hnone : (r.functions.all.filter (isComplex settings)).foldl putFunction [] =
      r.functions.all.filter (isComplex settings) := by
    rw [foldl_putFunction hall (List.nil_subset _) List.filter_sublist, List.nil_append,
      List.filter_eq_self]
    exact fun f _ => decide_eq_true List.not_mem_nil
  unfold flagged
  rw [List.foldl_append, hcomplex, hlong, hnone,
    foldl_putFunction hall List.filter_sublist.subset List.filter_sublist, List.filter_filter]
  refine congrArg (_ ++ ·) (List.filter_congr fun f hf => ?_)
  rw [Bool.and_comm]
  simp [List.mem_filter, hf]

/-! ## The line in the section of a file -/

/-- What begins the line of the flagged functions. -/
def refactorLabel : String := "**Functions to refactor:** "

theorem refactorLabel_bold : ['*', '*'] <+: refactorLabel.toList := by decide

theorem lineFeed_notMem_intText (n : Int) : '\n' ∉ (toString n).toList :=
  (isPlain_intText n).notMem (by decide)

theorem lineFeed_notMem_natText (n : Nat) : '\n' ∉ (toString n).toList :=
  (isPlain_natText n).notMem (by decide)

/-- The texts that begin in another way and are calm after that lack the line. -/
theorem lacks_refactorLabel {start rest : String}
    (hstart : '\n' ∉ start.toList ∧ ¬refactorLabel.toList <+: start.toList ∧
      ¬start.toList <+: refactorLabel.toList) (hrest : Calm rest.toList) :
    Lacks refactorLabel (start ++ rest) :=
  lacks_append refactorLabel_bold hstart.1 hstart.2.1 hstart.2.2 hrest

theorem lacks_heading (r : Report) (hgrade : '\n' ∉ r.grade.toList) :
    Lacks refactorLabel ("### " ++ gradeSign r.grade ++ " " ++ code r.filename ++ " — " ++
      toString r.score ++ "/100 (" ++ r.grade ++ ")") := by
  have hsign : '\n' ∉ (gradeSign r.grade).toList := by
    unfold gradeSign
    split <;> decide
  have hscore := lineFeed_notMem_intText r.score
  have hrest : '\n' ∉ (toString r.score ++ ("/100 (" ++ (r.grade ++ ")"))).toList :=
    notMem_append hscore (notMem_append (by decide) (notMem_append hgrade (by decide)))
  simp only [String.append_assoc]
  exact lacks_refactorLabel (by decide) (calm_after hsign (calm_after (by decide)
    (calm_parted (calm_code r.filename) (by decide) (calm_of_notMem hrest))))

theorem lacks_penaltyRow (p : Penalty) : Lacks refactorLabel (penaltyRow p) := by
  have hcells : ∀ cell ∈ [escape p.metric, escape p.value, toString p.delta],
      Calm cell.toList := by
    simp only [List.forall_mem_cons]
    exact ⟨calm_escape _, calm_escape _, calm_of_notMem (lineFeed_notMem_intText _), nofun⟩
  unfold penaltyRow row
  rw [String.append_assoc]
  exact lacks_refactorLabel (by decide)
    (calm_ended (calm_intercalate (by decide) hcells) (by decide))

theorem lacks_literal {text : String}
    (h : '\n' ∉ text.toList ∧ ¬refactorLabel.toList <+: text.toList) : Lacks refactorLabel text :=
  lacks_of_calm refactorLabel_bold (calm_of_notMem h.1) h.2

theorem lacks_penaltyParagraphs (r : Report) :
    ∀ s ∈ penaltyParagraphs r, Lacks refactorLabel s := by
  unfold penaltyParagraphs
  split
  · rw [List.forall_mem_singleton]
    exact lacks_literal (by decide)
  · simp only [List.forall_mem_cons]
    refine ⟨lacks_stacked refactorLabel_bold ?_, lacks_stacked refactorLabel_bold ?_, nofun⟩
    · simp only [List.forall_mem_cons]
      exact ⟨lacks_literal (by decide), lacks_literal (by decide), nofun⟩
    · intro s hs
      obtain ⟨p, -, rfl⟩ := List.mem_map.mp hs
      exact lacks_penaltyRow p

theorem lacks_smellItem (s : Smell) : Lacks refactorLabel (smellItem s) := by
  have hsign : '\n' ∉ (severitySign s.severity).toList := by
    unfold severitySign
    split_ifs <;> decide
  unfold smellItem
  simp only [String.append_assoc]
  exact lacks_refactorLabel (by decide) (calm_after hsign (calm_after (by decide)
    (calm_after (lineFeed_notMem_intText _) (calm_after (by decide) (calm_escape _)))))

theorem lacks_smellParagraphs (r : Report) :
    ∀ s ∈ smellParagraphs r, Lacks refactorLabel s := by
  unfold smellParagraphs
  dsimp only
  split
  · exact nofun
  · simp only [List.forall_mem_cons]
    refine ⟨?_, lacks_stacked refactorLabel_bold fun s hs => ?_, nofun⟩
    · simp only [String.append_assoc]
      exact lacks_refactorLabel (by decide) (calm_after (lineFeed_notMem_natText _)
        (calm_of_notMem (by decide)))
    · rcases List.mem_append.mp hs with hs | hs
      · obtain ⟨smell, -, rfl⟩ := List.mem_map.mp hs
        exact lacks_smellItem smell
      · split at hs
        · obtain rfl := List.mem_singleton.mp hs
          simp only [String.append_assoc]
          exact lacks_refactorLabel (by decide) (calm_after (lineFeed_notMem_natText _)
            (calm_of_notMem (by decide)))
        · exact absurd hs List.not_mem_nil

theorem lacks_namingParagraphs (h : ∀ n ∈ r.namingIssues, '\n' ∉ n.expected.toList) :
    ∀ s ∈ namingParagraphs r, Lacks refactorLabel s := by
  have hitem : ∀ n ∈ r.namingIssues, Calm (namingItem n).toList := by
    intro n hn
    have hrest : '\n' ∉ (toString n.line ++ (" (expected " ++ (n.expected ++ ")"))).toList :=
      notMem_append (lineFeed_notMem_intText _)
        (notMem_append (by decide) (notMem_append (h n hn) (by decide)))
    unfold namingItem
    simp only [String.append_assoc]
    exact calm_parted (calm_code _) (by decide) (calm_of_notMem hrest)
  unfold namingParagraphs
  split
  · exact nofun
  · rw [List.forall_mem_singleton]
    refine lacks_refactorLabel (by decide) (calm_intercalate (by decide) fun s hs => ?_)
    obtain ⟨n, hn, rfl⟩ := List.mem_map.mp hs
    exact hitem n hn

theorem lacks_fragmentParagraphs (r : Report) :
    ∀ s ∈ fragmentParagraphs r, Lacks refactorLabel s := by
  unfold fragmentParagraphs
  split
  · exact nofun
  · simp only [List.forall_mem_cons]
    refine ⟨lacks_literal (by decide), lacks_stacked refactorLabel_bold fun s hs => ?_, nofun⟩
    obtain ⟨fragment, -, rfl⟩ := List.mem_map.mp hs
    unfold fragmentItem
    simp only [String.append_assoc]
    exact lacks_refactorLabel (by decide) (calm_parted (calm_code _) (by decide)
      (calm_of_notMem (lineFeed_notMem_intText _)))

/-- A flagged function is named on one line if its name is. -/
theorem lineFeed_notMem_flaggedItem (h : '\n' ∉ f.name.toList) :
    '\n' ∉ (flaggedItem f).toList := by
  have hcode : '\n' ∉ (code f.name).toList := by
    rw [toList_code]
    simp [lineFeed_mem_escape_iff, h]
  unfold flaggedItem
  simp only [String.append_assoc]
  exact notMem_append hcode (notMem_append (by decide) (notMem_append (lineFeed_notMem_intText _)
    (notMem_append (by decide) (notMem_append (lineFeed_notMem_intText _)
      (notMem_append (by decide) (notMem_append (lineFeed_notMem_intText _) (by decide)))))))

/-- The line of the flagged functions. -/
def flaggedLine (r : Report) : String :=
  refactorLabel ++ ", ".intercalate ((flagged r).map flaggedItem)

theorem filter_flaggedParagraphs (h : ∀ f ∈ flagged r, '\n' ∉ f.name.toList) :
    ((flaggedParagraphs r).flatMap fun s =>
        (Text.lines s.toList).filter (isLabelled refactorLabel)) =
      if flagged r = [] then [] else [(flaggedLine r).toList] := by
  have hline : '\n' ∉ (flaggedLine r).toList := by
    refine notMem_append (by decide) (notMem_intercalate (by decide) fun s hs => ?_)
    obtain ⟨f, hf, rfl⟩ := List.mem_map.mp hs
    exact lineFeed_notMem_flaggedItem (h f hf)
  have hlabelled : isLabelled refactorLabel (flaggedLine r).toList = true := by
    unfold isLabelled flaggedLine
    rw [List.isPrefixOf_iff_prefix, String.toList_append]
    exact List.prefix_append _ _
  unfold flaggedParagraphs
  dsimp only
  by_cases hnone : flagged r = []
  · rw [hnone]
    rfl
  · rw [if_neg (by simpa using hnone), if_neg hnone, List.flatMap_singleton]
    show (Text.lines (flaggedLine r).toList).filter _ = _
    rw [Text.lines_of_notMem hline, List.filter_singleton, hlabelled]
    rfl

/-- Only the flagged functions have a line with the label in the section of a file. -/
theorem filter_fileSection (hgrade : '\n' ∉ r.grade.toList)
    (hissues : ∀ n ∈ r.namingIssues, '\n' ∉ n.expected.toList)
    (hnames : ∀ f ∈ flagged r, '\n' ∉ f.name.toList) :
    (Text.lines (fileSection r).toList).filter (isLabelled refactorLabel) =
      if flagged r = [] then [] else [(flaggedLine r).toList] := by
  unfold fileSection
  rw [filter_lines_apart refactorLabel_bold]
  simp only [List.flatMap_append, List.flatMap_singleton, filter_of_lacks (lacks_heading r hgrade),
    flatMap_filter_of_lacks (lacks_penaltyParagraphs r), filter_flaggedParagraphs hnames,
    flatMap_filter_of_lacks (lacks_smellParagraphs r),
    flatMap_filter_of_lacks (lacks_namingParagraphs hissues),
    flatMap_filter_of_lacks (lacks_fragmentParagraphs r), List.nil_append, List.append_nil]

/-! ## The report of a text -/

/-- The section of a report names the functions that are to be improved. -/
structure NamesFlagged (settings : AnalysisSettings) (r : Report) : Prop where
  /-- The complex functions come first and then the other long ones, in the order of the report. -/
  order : flagged r = r.functions.all.filter (isComplex settings) ++
    r.functions.all.filter (fun f => isLong settings f && !isComplex settings f)
  /-- No two functions of the report have the same name on the same line. -/
  distinct : (r.functions.all.map place).Nodup
  /-- A function that is too complex or too long is flagged once, any other one is not. -/
  once : ∀ f ∈ r.functions.all,
    (flagged r).count f = if isComplex settings f || isLong settings f then 1 else 0
  /-- In the section one line begins with the label, that of the flagged functions, if there are
  any. -/
  line : (Text.lines (fileSection r).toList).filter (isLabelled refactorLabel) =
    if flagged r = [] then [] else [(flaggedLine r).toList]
  /-- There is no such line exactly if no function is too complex or too long. -/
  absent_iff : (∀ line ∈ Text.lines (fileSection r).toList,
      isLabelled refactorLabel line = false) ↔
    ∀ f ∈ r.functions.all, isComplex settings f = false ∧ isLong settings f = false

/-- Where each function comes once, it comes once among those that pass a test and the others that
pass a second one if it passes either. -/
theorem count_filter_append (hall : all.Nodup) (p q : FunctionInfo → Bool) (hf : f ∈ all) :
    (all.filter p ++ all.filter (fun f => q f && !p f)).count f = if p f || q f then 1 else 0 := by
  have hone : all.count f = 1 := List.count_eq_one_of_mem hall hf
  have hcount : ∀ ok : FunctionInfo → Bool, (all.filter ok).count f = if ok f then 1 else 0 := by
    intro ok
    by_cases hok : ok f = true
    · rw [List.count_filter hok, hone, if_pos hok]
    · rw [if_neg hok, List.count_eq_zero]
      exact fun hmem => hok (List.mem_filter.mp hmem).2
  rw [List.count_append, hcount, hcount]
  cases p f <;> cases q f <;> rfl

/-- There are none of these if no function passes either test. -/
theorem filter_append_eq_nil_iff (p q : FunctionInfo → Bool) :
    all.filter p ++ all.filter (fun f => q f && !p f) = [] ↔
      ∀ f ∈ all, p f = false ∧ q f = false := by
  rw [List.append_eq_nil_iff, List.filter_eq_nil_iff, List.filter_eq_nil_iff, ← forall₂_and]
  refine forall₂_congr fun f hf => ?_
  cases p f <;> cases q f <;> simp

/-- The functions of a report have their places to themselves. -/
theorem nodup_places (h : Report.ofText settings filename t = .ok r) :
    (r.functions.all.map place).Nodup := by
  rw [Report.all_of_ofText h]
  exact (FunctionInfo.discovers_find _ t _).distinct

/-- Without flagged functions no line has the label. -/
theorem no_line_iff
    (h : (Text.lines (fileSection r).toList).filter (isLabelled refactorLabel) =
      if flagged r = [] then [] else [(flaggedLine r).toList]) :
    (∀ line ∈ Text.lines (fileSection r).toList, isLabelled refactorLabel line = false) ↔
      flagged r = [] := by
  simp only [← Bool.not_eq_true]
  rw [← List.filter_eq_nil_iff, h]
  split
  · rename_i hnil
    exact iff_of_true rfl hnil
  · rename_i hne
    exact iff_of_false (List.cons_ne_nil _ _) hne

theorem namesFlagged_of_ofText (h : Report.ofText settings filename t = .ok r) :
    NamesFlagged settings r := by
  have hall := Report.all_of_ofText h
  have hdistinct := nodup_places h
  have horder := flagged_eq hdistinct (hall ▸ Report.functions_of_ofText h)
  have hnames : ∀ f ∈ flagged r, '\n' ∉ f.name.toList := by
    intro f hf
    rw [horder, List.mem_append] at hf
    have hmem : f ∈ r.functions.all := hf.elim List.mem_of_mem_filter List.mem_of_mem_filter
    rw [hall] at hmem
    exact FunctionInfo.lineFeed_notMem_name (Language.ofFilename_mem_registry filename) hmem
  have hissues : ∀ n ∈ r.namingIssues, '\n' ∉ n.expected.toList := by
    intro n hn
    rw [Report.namingIssues_of_ofText h] at hn
    exact NamingIssue.lineFeed_notMem_expected hn
  have hgrade : '\n' ∉ r.grade.toList := (plainReport_of_ofText h).grade.notMem (by decide)
  have hline := filter_fileSection hgrade hissues hnames
  refine ⟨horder, hdistinct, fun f hf => ?_, hline, ?_⟩
  · rw [horder]
    exact count_filter_append (.of_map place hdistinct) _ _ hf
  · rw [no_line_iff hline, horder]
    exact filter_append_eq_nil_iff _ _

/-- Three functions without braces. The second one takes a decision, and the third one has the name
of the first one. -/
def threeFunctions : List Char :=
  "function f(a)\nfunction g(a) if (b)\nfunction f(c)".toList

/-- A limit of one line makes all of them too long. -/
def strictSettings : AnalysisSettings where
  longFunctionLines := 0
  complexFunctionThreshold := 1

/-- A name with a line that begins like the one of the flagged functions. -/
def boldName : String := "a\n**Functions to refactor:** none.js"

/-- That line does not count. -/
theorem namesFlagged_threeFunctions :
    ∃ r, Report.ofText strictSettings boldName threeFunctions = .ok r ∧
      NamesFlagged strictSettings r ∧
      flaggedLine r = "**Functions to refactor:** \x60g\x60 (line 2, 1 lines, complexity 2), " ++
        "\x60f\x60 (line 1, 1 lines, complexity 1), \x60f\x60 (line 3, 1 lines, complexity 1)" := by
  have hread : Smell.Readable threeFunctions := Smell.readable_of_length_le (by decide)
  have hreport : Report.ofText strictSettings boldName threeFunctions =
      .ok (Report.ofReadable strictSettings boldName threeFunctions) :=
    Report.ofText_eq_ok_iff.mpr ⟨hread, rfl⟩
  exact ⟨_, hreport, namesFlagged_of_ofText hreport, by decide +kernel⟩

end Markdown

end SourceGrade
