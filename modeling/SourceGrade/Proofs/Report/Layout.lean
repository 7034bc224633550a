import SourceGrade.Proofs.Language.Registry
import SourceGrade.Proofs.Project.Arrivals
import SourceGrade.Proofs.Report.Totals
import SourceGrade.Report.Markdown

set_option autoImplicit false

/-!
# The layout of a summary

A summary in Markdown is laid out in lines, cells and paragraphs. Numbers, grades and the tags of
languages are plain: they hold no character that has a meaning for the layout. So all that can
disturb it are the names that a project brings along.
-/

namespace SourceGrade.Markdown

/-! ## Texts that are put together -/

variable {c : Char}

/-- A text that is put together from others has no character that is not in one of them or between
them. -/
theorem notMem_intercalate {separator : String} {texts : List String}
    (hbetween : c ∉ separator.toList) (h : ∀ s ∈ texts, c ∉ s.toList) :
    c ∉ (separator.intercalate texts).toList := by
  rw [String.toList_intercalate]
  induction texts with
  | nil => exact List.not_mem_nil
  | cons s texts ih =>
    rw [List.forall_mem_cons] at h
    cases texts with
    | nil => simpa using h.1
    | cons s' texts =>
      rw [List.map_cons, List.map_cons, List.intercalate_cons_cons, List.mem_append,
        List.mem_append, not_or, not_or]
      exact ⟨⟨h.1, hbetween⟩, ih h.2⟩

theorem notMem_append {s t : String} (hs : c ∉ s.toList) (ht : c ∉ t.toList) :
    c ∉ (s ++ t).toList := by
  rw [String.toList_append, List.mem_append, not_or]
  exact ⟨hs, ht⟩

/-! ## Plain texts -/

/-- A character that neither ends a line nor a cell, nor escapes what follows, nor heads the ranking
of the files. -/
def isPlain (c : Char) : Bool := c != '\n' && c != '|' && c != '\\' && c != '📁'

/-- A text without characters that have a meaning for the layout. -/
def IsPlain (s : String) : Prop := ∀ c ∈ s.toList, isPlain c = true

instance (s : String) : Decidable (IsPlain s) :=
  decidable_of_iff (s.toList.all isPlain = true) List.all_eq_true

theorem IsPlain.notMem {s : String} (h : IsPlain s) (hc : isPlain c = false) : c ∉ s.toList :=
  fun hmem => Bool.false_ne_true (hc.symm.trans (h c hmem))

theorem isPlain_of_isDigit (h : c.isDigit = true) : isPlain c = true := by
  unfold isPlain
  simp only [Bool.and_eq_true, bne_iff_ne]
  refine ⟨⟨⟨?_, ?_⟩, ?_⟩, ?_⟩ <;> rintro rfl <;> exact absurd h (by decide)

theorem isPlain_of_mem_toDigits {n : Nat} (h : c ∈ Nat.toDigits 10 n) : isPlain c = true :=
  isPlain_of_isDigit (Nat.isDigit_of_mem_toDigits (by decide) (by decide) h)

theorem isPlain_natText (n : Nat) : IsPlain (toString n) := by
  have hdigits : (toString n).toList = Nat.toDigits 10 n := String.toList_ofList
  intro c hc
  rw [hdigits] at hc
  exact isPlain_of_mem_toDigits hc

theorem isPlain_intText (n : Int) : IsPlain (toString n) := by
  cases n with
  | ofNat n => exact isPlain_natText n
  | negSucc n =>
    have hsign : toString (Int.negSucc n) = "-" ++ toString (n + 1) := rfl
    intro c hc
    rw [hsign, String.toList_append, List.mem_append] at hc
    rcases hc with hc | hc
    · obtain rfl : c = '-' := List.mem_singleton.mp hc
      decide
    · exact isPlain_natText (n + 1) c hc

theorem mem_groupThrees {ds : List Char} (h : c ∈ Number.groupThrees ds) : c = ',' ∨ c ∈ ds := by
  fun_induction Number.groupThrees ds with
  | case1 x y z w rest ih =>
    simp only [List.mem_cons] at h ih ⊢
    tauto
  | case2 ds => exact .inr h

theorem isPlain_grouped (n : Int) : IsPlain (Number.grouped n) := by
  intro c hc
  unfold Number.grouped at hc
  rw [String.toList_ofList, List.mem_append, List.mem_reverse] at hc
  rcases hc with hc | hc
  · split at hc
    · obtain rfl := List.mem_singleton.mp hc
      decide
    · exact absurd hc List.not_mem_nil
  · rcases mem_groupThrees hc with rfl | hc
    · decide
    · exact isPlain_of_mem_toDigits (List.mem_reverse.mp hc)

theorem isPlain_of_mem_padded {width n : Nat} (h : c ∈ Number.padded width n) :
    isPlain c = true := by
  unfold Number.padded at h
  rw [List.mem_append] at h
  rcases h with h | h
  · obtain rfl := List.eq_of_mem_replicate h
    decide
  · exact isPlain_of_mem_toDigits h

theorem isPlain_fixed (places : Nat) (q : Rat) : IsPlain (Number.fixed places q) := by
  intro c hc
  unfold Number.fixed at hc
  rw [String.toList_ofList, List.mem_append, List.mem_append] at hc
  rcases hc with (hc | hc) | hc
  · split at hc
    · obtain rfl := List.mem_singleton.mp hc
      decide
    · exact absurd hc List.not_mem_nil
  · exact isPlain_of_mem_toDigits hc
  · split at hc
    · exact absurd hc List.not_mem_nil
    · rcases List.mem_cons.mp hc with rfl | hc
      · decide
      · exact isPlain_of_mem_padded hc

theorem isPlain_letter (g : Grade) : IsPlain g.letter := by
  cases g <;> decide

theorem isPlain_tag {language : Language} (h : language ∈ Language.registry) :
    IsPlain language.tag := by
  have hall : ∀ l ∈ Language.registry, IsPlain l.tag := by decide
  exact hall language h

/-- A report with a plain language and grade. -/
structure PlainReport (r : Report) : Prop where
  language : IsPlain r.language
  grade : IsPlain r.grade

/-- A summary of plain reports that lists plain languages. -/
structure PlainSummary (s : Summary) : Prop where
  reports : ∀ r ∈ s.reports, PlainReport r
  languages : ∀ l ∈ s.languages, IsPlain l.1

theorem plainReport_of_ofText {settings : AnalysisSettings} {filename : String} {t : List Char}
    {r : Report} (h : Report.ofText settings filename t = .ok r) : PlainReport r := by
  obtain ⟨-, rfl⟩ := Report.ofText_eq_ok_iff.mp h
  unfold Report.ofReadable Report.assemble
  constructor
  · exact isPlain_tag (Language.ofFilename_mem_registry filename)
  · dsimp only
    exact isPlain_letter _

/-- The summary of a project is plain, whatever its files are. -/
theorem plainSummary_ofFiles (settings : AnalysisSettings) (files : List SourceFile) :
    PlainSummary (Project.ofFiles settings files) := by
  have hreports : ∀ r ∈ (Project.ofFiles settings files).reports, PlainReport r := by
    intro r hr
    obtain ⟨file, -, hfile⟩ := Project.mem_reports_ofFiles.mp hr
    exact plainReport_of_ofText hfile
  refine ⟨hreports, fun l hl => ?_⟩
  have hcounted : l ∈ Summary.countLanguages (Project.ofFiles settings files).reports := by
    rw [← Project.languages_ofFiles]
    exact hl
  obtain ⟨hpos, hcount⟩ := Summary.mem_countLanguages.mp hcounted
  obtain ⟨r, hr, hlanguage⟩ := List.mem_map.mp (List.count_pos_iff.mp (hcount ▸ hpos))
  exact hlanguage ▸ (hreports r hr).language

/-! ## Above the ranking -/

variable {s : Summary}

theorem sign_notMem_row {cells : List String} (h : ∀ cell ∈ cells, '📁' ∉ cell.toList) :
    '📁' ∉ (row cells).toList :=
  notMem_append (notMem_append (by decide) (notMem_intercalate (by decide) h)) (by decide)

theorem sign_notMem_stacked {texts : List String} (h : ∀ s ∈ texts, '📁' ∉ s.toList) :
    '📁' ∉ (stacked texts).toList := notMem_intercalate (by decide) h

theorem sign_notMem_heading (s : Summary) : '📁' ∉ (heading s).toList := by
  refine sign_notMem_stacked ?_
  simp only [List.forall_mem_cons]
  refine ⟨by decide, by decide, notMem_append (by decide) ?_, by decide, by decide, nofun⟩
  exact (isPlain_natText _).notMem (by decide)

theorem sign_notMem_bar {c : Char} (hc : c ≠ '📁') (n : Int) : '📁' ∉ (bar c n).toList := by
  unfold bar
  rw [String.toList_ofList]
  exact fun h => hc (List.eq_of_mem_replicate h).symm

theorem sign_notMem_progressBar (score width : Int) : '📁' ∉ (progressBar score width).toList :=
  notMem_append (notMem_append (notMem_append (by decide) (sign_notMem_bar (by decide) _))
    (sign_notMem_bar (by decide) _)) (by decide)

theorem sign_notMem_languageList (h : PlainSummary s) : '📁' ∉ (languageList s).toList := by
  have hnames : '📁' ∉ (", ".intercalate
      ((s.languages.map (·.1)).mergeSort fun a b => !(b < a))).toList := by
    refine notMem_intercalate (by decide) fun name hname => ?_
    rw [List.mem_mergeSort] at hname
    obtain ⟨l, hl, rfl⟩ := List.mem_map.mp hname
    exact (h.languages l hl).notMem (by decide)
  unfold languageList
  dsimp only
  split
  · decide
  · exact hnames

theorem sign_notMem_overview (h : PlainSummary s) : '📁' ∉ (overview s).toList := by
  have hscore : '📁' ∉ (toString s.overallScore).toList := (isPlain_intText _).notMem (by decide)
  refine sign_notMem_stacked ?_
  simp only [List.forall_mem_cons]
  refine ⟨by decide, by decide, by decide, ?_, by decide, by decide, by decide, by decide,
    ?_, ?_, ?_, ?_, ?_, nofun⟩
  · exact notMem_append (notMem_append (notMem_append (notMem_append (sign_notMem_progressBar _ _)
      (by decide)) hscore) (by decide)) ((isPlain_letter _).notMem (by decide))
  all_goals
    refine sign_notMem_row ?_
    simp only [List.forall_mem_cons]
    refine ⟨by decide, ?_, nofun⟩
  · exact (isPlain_grouped _).notMem (by decide)
  · exact (isPlain_intText _).notMem (by decide)
  · exact (isPlain_intText _).notMem (by decide)
  · exact notMem_append ((isPlain_fixed _ _).notMem (by decide)) (by decide)
  · exact sign_notMem_languageList h

theorem sign_notMem_gradeRow (p : Grade × Nat) : '📁' ∉ (gradeRow p).toList := by
  obtain ⟨grade, n⟩ := p
  refine sign_notMem_row ?_
  simp only [List.forall_mem_cons]
  refine ⟨?_, (isPlain_natText n).notMem (by decide), sign_notMem_bar (by decide) _, nofun⟩
  cases grade <;> decide

theorem sign_notMem_distribution (s : Summary) : '📁' ∉ (distribution s).toList := by
  refine sign_notMem_stacked fun text htext => ?_
  rcases List.mem_append.mp htext with htext | htext
  · have hhead : ∀ text ∈ ["## 🎓 Grade distribution", "", "| Grade | Files | |",
        "|-------|-------|---|"], '📁' ∉ text.toList := by decide
    exact hhead text htext
  · obtain ⟨p, -, rfl⟩ := List.mem_map.mp htext
    exact sign_notMem_gradeRow p

/-- The sign of the ranking is not above it. -/
theorem sign_notMem_above (h : PlainSummary s) :
    '📁' ∉ (apart [heading s, overview s, distribution s]).toList := by
  refine notMem_intercalate (by decide) ?_
  simp only [List.forall_mem_cons]
  exact ⟨sign_notMem_heading s, sign_notMem_overview h, sign_notMem_distribution s, nofun⟩

/-! ## Lines -/

theorem intercalate_append (separator : List Char) {front back : List (List Char)}
    (hfront : front ≠ []) (hback : back ≠ []) :
    separator.intercalate (front ++ back) =
      separator.intercalate front ++ (separator ++ separator.intercalate back) := by
  induction front with
  | nil => exact absurd rfl hfront
  | cons t front ih =>
    by_cases hlast : front = []
    · rw [hlast, List.singleton_append, List.intercalate_cons_of_ne_nil hback,
        List.intercalate_singleton, List.append_assoc]
    · rw [List.cons_append,
        List.intercalate_cons_of_ne_nil (List.append_ne_nil_of_left_ne_nil hlast back), ih hlast,
        List.intercalate_cons_of_ne_nil hlast, List.append_assoc _ (separator.intercalate front)]

/-- What stands below each other is read line by line. -/
theorem lines_stacked {texts : List String} (hne : texts ≠ []) :
    Text.lines (stacked texts).toList = texts.flatMap fun s => Text.lines s.toList := by
  unfold stacked
  rw [String.toList_intercalate]
  induction texts with
  | nil => exact absurd rfl hne
  | cons s texts ih =>
    by_cases hlast : texts = []
    · simp [hlast]
    · have hfeed : "\n".toList = ['\n'] := rfl
      rw [List.flatMap_cons, ← ih hlast, List.map_cons,
        List.intercalate_cons_of_ne_nil (by simpa using hlast), hfeed, ← List.append_cons,
        Text.lines_append_lineFeed]

theorem lines_stacked_of_notMem {texts : List String} (hne : texts ≠ [])
    (h : ∀ s ∈ texts, '\n' ∉ s.toList) :
    Text.lines (stacked texts).toList = texts.map String.toList := by
  rw [lines_stacked hne, List.map_eq_flatMap]
  exact List.flatMap_congr fun s hs => Text.lines_of_notMem (h s hs)

/-- There is an empty line between paragraphs. -/
theorem lines_apart {front back : List String} (hfront : front ≠ []) (hback : back ≠ []) :
    Text.lines (apart (front ++ back)).toList =
      Text.lines (apart front).toList ++ [] :: Text.lines (apart back).toList := by
  have hfeeds : "\n\n".toList = ['\n', '\n'] := rfl
  unfold apart
  rw [String.toList_intercalate, String.toList_intercalate, String.toList_intercalate,
    List.map_append, intercalate_append _ (by simpa using hfront) (by simpa using hback), hfeeds]
  exact (Text.lines_append_lineFeed _ _).trans rfl

end SourceGrade.Markdown
