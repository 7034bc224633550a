import SourceGrade.Proofs.Report.Bar
import SourceGrade.Proofs.Report.Escape
import SourceGrade.Proofs.Report.Layout

set_option autoImplicit false

/-!
# The table of the files

A row of the ranking is a line with eight vertical bars, if the name of its file does not disturb
it. A name disturbs the table in two ways. A line feed in it ends the row. And a backslash in front
of a vertical bar is not escaped itself: with the one that is put in front of the bar it makes an
escaped backslash, and the bar ends the cell.
-/

namespace SourceGrade.Markdown

/-! ## Vertical bars -/

/-- The number of vertical bars of a text before which the number of backslashes is even (0) or odd
(1), where so many backslashes stand directly before the text. -/
def countBars (parity : Nat) : Nat → List Char → Nat
  | _, [] => 0
  | backslashes, c :: rest =>
    (if c = '|' ∧ backslashes % 2 = parity then 1 else 0) +
      countBars parity (if c = '\\' then backslashes + 1 else 0) rest

/-- The number of vertical bars that are not escaped: an even number of backslashes stands before
them. -/
def bareBars (t : List Char) : Nat := countBars 0 0 t

/-- The number of vertical bars with an odd number of backslashes before them. -/
def sealedBars (t : List Char) : Nat := countBars 1 0 t

variable {parity k : Nat} {c x : Char} {t rest : List Char} {before : Option Char}

theorem countBars_nil (parity k : Nat) : countBars parity k [] = 0 := rfl

theorem countBars_backslash (parity k : Nat) (rest : List Char) :
    countBars parity k ('\\' :: rest) = countBars parity (k + 1) rest := by
  rw [countBars, if_neg (by simp), if_pos rfl, Nat.zero_add]

theorem countBars_cons (h : c ≠ '\\') (parity k : Nat) (rest : List Char) :
    countBars parity k (c :: rest) =
      (if c = '|' ∧ k % 2 = parity then 1 else 0) + countBars parity 0 rest := by
  rw [countBars, if_neg h]

theorem countBars_bar (parity k : Nat) (rest : List Char) :
    countBars parity k ('|' :: rest) =
      (if k % 2 = parity then 1 else 0) + countBars parity 0 rest := by
  rw [countBars_cons (by decide)]
  simp

theorem countBars_other (h : c ≠ '\\') (h' : c ≠ '|') (parity k : Nat) (rest : List Char) :
    countBars parity k (c :: rest) = countBars parity 0 rest := by
  rw [countBars_cons h, if_neg (fun hbar => h' hbar.1), Nat.zero_add]

/-- A character that is neither a backslash nor a vertical bar parts a text in two. -/
theorem countBars_append (h : c ≠ '\\') (h' : c ≠ '|') (k : Nat) (t rest : List Char) :
    countBars parity k (t ++ c :: rest) = countBars parity k t + countBars parity 0 rest := by
  induction t generalizing k with
  | nil => rw [List.nil_append, countBars_other h h', countBars, Nat.zero_add]
  | cons x t ih => rw [List.cons_append, countBars, countBars, ih, Nat.add_assoc]

theorem countBars_plain (h : ∀ x ∈ t, isPlain x = true) (k : Nat) : countBars parity k t = 0 := by
  induction t generalizing k with
  | nil => rfl
  | cons x t ih =>
    rw [List.forall_mem_cons] at h
    have hbackslash : x ≠ '\\' := by rintro rfl; exact absurd h.1 (by decide)
    have hbar : x ≠ '|' := by rintro rfl; exact absurd h.1 (by decide)
    rw [countBars_other hbackslash hbar, ih h.2]

/-! ## The bars of an escaped text -/

theorem countBars_backslashes (h : ∀ x ∈ t, x = '\\') (k : Nat) : countBars parity k t = 0 := by
  induction t generalizing k with
  | nil => rfl
  | cons x t ih =>
    rw [List.forall_mem_cons] at h
    rw [h.1, countBars_backslash, ih h.2]

/-- The marks of a vertical bar are one backslash. Those of another character do not matter. -/
theorem countBars_allMarks (parity k : Nat) (before : Option Char) (x : Char)
    (rest later : List Char) :
    countBars parity k (allMarks before (x :: rest) ++ x :: later) =
      (if x = '|' ∧ (k + 1) % 2 = parity then 1 else 0) +
        countBars parity (if x = '\\' then k + 1 else 0) later := by
  by_cases hstar : x = '*'
  · subst hstar
    rw [countBars_append (by decide) (by decide),
      countBars_backslashes fun c hc => eq_backslash_of_mem_allMarks hc]
    rfl
  · rw [List.append_cons, allMarks_cons before hstar]
    by_cases hseals : x = '|' ∨ x = '\x60'
    · have hne : x ≠ '\\' := by rcases hseals with rfl | rfl <;> decide
      rw [escapeChar_of_seals hseals, if_neg hne]
      exact (countBars_backslash parity k (x :: later)).trans (countBars_cons hne parity _ later)
    · rw [escapeChar_of_not hseals, if_neg fun h => hseals (.inl h.1)]
      rw [List.singleton_append, countBars, if_neg fun h => hseals (.inl h.1)]

/-- Each vertical bar gets one more backslash than it had, so those are bare that had an odd number
of them. -/
theorem countBars_withMarks (t : List Char) (k : Nat) (before : Option Char) :
    countBars 0 k (withMarks allMarks before t) = countBars 1 k t := by
  induction t generalizing k before with
  | nil => rfl
  | cons x t ih =>
    have hparity : (k + 1) % 2 = 0 ↔ k % 2 = 1 := by omega
    rw [withMarks_cons, countBars_allMarks, ih, countBars]
    simp only [hparity]

theorem bareBars_escape (s : String) : bareBars (escape s).toList = sealedBars s.toList := by
  unfold bareBars sealedBars escape
  rw [String.toList_ofList, escapeChars_eq, countBars_withMarks]

/-! ## Rows -/

/-- The cells of a row after its first one. -/
def laterCells (cells : List String) : List Char :=
  (cells.flatMap fun cell => " | ".toList ++ cell.toList) ++ " |".toList

theorem toList_row (cell : String) (cells : List String) :
    (row (cell :: cells)).toList = "| ".toList ++ (cell.toList ++ laterCells cells) := by
  have hcells : " | ".toList.intercalate ((cell :: cells).map String.toList) =
      cell.toList ++ cells.flatMap fun cell => " | ".toList ++ cell.toList := by
    induction cells generalizing cell with
    | nil => simp
    | cons cell' cells ih =>
      rw [List.map_cons, List.intercalate_cons_of_ne_nil (by simp), ih, List.flatMap_cons]
      simp only [List.append_assoc]
  unfold row laterCells
  rw [String.toList_append, String.toList_append, String.toList_intercalate, hcells]
  simp only [List.append_assoc]

theorem laterCells_cons (cell : String) (cells : List String) :
    laterCells (cell :: cells) = ' ' :: '|' :: ' ' :: (cell.toList ++ laterCells cells) := by
  unfold laterCells
  rw [List.flatMap_cons, List.append_assoc, List.append_assoc]
  rfl

/-- A cell is parted from what follows it by a space. -/
theorem countBars_append_laterCells (k : Nat) (t : List Char) (cells : List String) :
    countBars parity k (t ++ laterCells cells) =
      countBars parity k t + countBars parity 0 (laterCells cells) := by
  obtain ⟨rest, hrest⟩ : ∃ rest, laterCells cells = ' ' :: rest := by
    cases cells with
    | nil => exact ⟨_, rfl⟩
    | cons cell cells => exact ⟨_, laterCells_cons cell cells⟩
  rw [hrest, countBars_append (by decide) (by decide), countBars_other (by decide) (by decide)]

/-- Plain cells have one bar each, and the row ends with one more. -/
theorem countBars_laterCells {cells : List String} (h : ∀ cell ∈ cells, IsPlain cell) :
    countBars 0 0 (laterCells cells) = cells.length + 1 := by
  induction cells with
  | nil => rfl
  | cons cell cells ih =>
    rw [List.forall_mem_cons] at h
    rw [laterCells_cons, countBars_other (by decide) (by decide), countBars_bar,
      countBars_other (by decide) (by decide), countBars_append_laterCells, countBars_plain h.1,
      ih h.2, List.length_cons, if_pos (by decide)]
    omega

/-- A row that is plain after its first cell has the bars around its cells and those of that
cell. -/
theorem bareBars_row {cell : String} {cells : List String} (h : ∀ cell ∈ cells, IsPlain cell) :
    bareBars (row (cell :: cells)).toList = cells.length + 2 + bareBars cell.toList := by
  have hopening : "| ".toList ++ (cell.toList ++ laterCells cells) =
      '|' :: ' ' :: (cell.toList ++ laterCells cells) := rfl
  unfold bareBars
  rw [toList_row, hopening, countBars_bar, countBars_other (by decide) (by decide),
    countBars_append_laterCells, countBars_laterCells h, if_pos (by decide)]
  omega

theorem toList_code (s : String) : (code s).toList = '\x60' :: ((escape s).toList ++ ['\x60']) := by
  unfold code
  rw [String.toList_append, String.toList_append]
  rfl

theorem bareBars_code (s : String) : bareBars (code s).toList = sealedBars s.toList := by
  rw [← bareBars_escape]
  unfold bareBars
  rw [toList_code, countBars_other (by decide) (by decide),
    countBars_append (by decide) (by decide), countBars_nil, Nat.add_zero]

variable {r : Report}

theorem PlainReport.cells (h : PlainReport r) :
    ∀ cell ∈ [r.language, toString r.score, r.grade, toString r.lines.code,
      toString r.functions.total, toString r.smells.length], IsPlain cell := by
  simp only [List.forall_mem_cons]
  exact ⟨h.language, isPlain_intText _, h.grade, isPlain_intText _, isPlain_intText _,
    isPlain_natText _, nofun⟩

/-- A row has eight bars that end its cells, and those that the name of its file adds. -/
theorem bareBars_fileRow (h : PlainReport r) :
    bareBars (fileRow r).toList = 8 + sealedBars r.filename.toList := by
  unfold fileRow
  rw [bareBars_row h.cells, bareBars_code]
  simp only [List.length_cons, List.length_nil]

theorem mem_withMarks_iff (hc : c ≠ '\\') :
    c ∈ withMarks allMarks before t ↔ c ∈ t := by
  induction t generalizing before with
  | nil => exact Iff.rfl
  | cons x t ih =>
    have hmarks : c ∉ allMarks before (x :: t) := fun h => hc (eq_backslash_of_mem_allMarks h)
    rw [withMarks_cons, List.mem_append, List.mem_cons, ih, List.mem_cons]
    simp only [hmarks, false_or]

theorem lineFeed_mem_escape_iff (s : String) : '\n' ∈ (escape s).toList ↔ '\n' ∈ s.toList := by
  unfold escape
  rw [String.toList_ofList, escapeChars_eq, mem_withMarks_iff (by decide)]

theorem lineFeed_notMem_laterCells {cells : List String} (h : ∀ cell ∈ cells, IsPlain cell) :
    '\n' ∉ laterCells cells := by
  induction cells with
  | nil => decide
  | cons cell cells ih =>
    rw [List.forall_mem_cons] at h
    have hcell : '\n' ∉ cell.toList := h.1.notMem (by decide)
    rw [laterCells_cons]
    simp [hcell, ih h.2]

/-- A row is one line if the name of its file is. -/
theorem lineFeed_mem_fileRow_iff (h : PlainReport r) :
    '\n' ∈ (fileRow r).toList ↔ '\n' ∈ r.filename.toList := by
  have hcode : '\n' ∈ (code r.filename).toList ↔ '\n' ∈ r.filename.toList := by
    rw [toList_code]
    simp [lineFeed_mem_escape_iff]
  unfold fileRow
  rw [toList_row, List.mem_append, List.mem_append, hcode,
    or_iff_left (lineFeed_notMem_laterCells h.cells), or_iff_right (by decide)]

/-! ## The table -/

/-- The heading of the ranking. -/
def rankingHeading : List Char := "## 📁 Files (worst first)".toList

/-- The lines of the table below a heading and an empty line, up to the next empty line. -/
def tableBelow (heading doc : List Char) : List (List Char) :=
  (((Text.lines doc).dropWhile (· != heading)).drop 2).takeWhile (· != [])

theorem mem_lines_of_mem_tableBelow {heading doc line : List Char}
    (h : line ∈ tableBelow heading doc) : line ∈ Text.lines doc :=
  (List.dropWhile_sublist _).mem (List.mem_of_mem_drop ((List.takeWhile_sublist _).mem h))

/-- A table is found below its heading if the heading does not occur before. -/
theorem tableBelow_eq {heading doc : List Char} {above table below : List (List Char)}
    (hdoc : Text.lines doc = above ++ [] :: (heading :: [] :: (table ++ [] :: below)))
    (habove : heading ∉ above) (hheading : heading ≠ []) (htable : [] ∉ table) :
    tableBelow heading doc = table := by
  have hpassed : ∀ line ∈ above ++ [[]], (line != heading) = true := by
    intro line hline
    rw [bne_iff_ne]
    rcases List.mem_append.mp hline with hline | hline
    · exact fun h => habove (h ▸ hline)
    · exact List.mem_singleton.mp hline ▸ Ne.symm hheading
  have hkept : ∀ line ∈ table, (line != []) = true := by
    intro line hline
    rw [bne_iff_ne]
    exact fun h => htable (h ▸ hline)
  unfold tableBelow
  rw [hdoc, List.append_cons, List.dropWhile_append_of_pos hpassed,
    List.dropWhile_cons_of_neg (by simp), List.drop_succ_cons, List.drop_succ_cons, List.drop_zero,
    List.takeWhile_append_of_pos hkept, List.takeWhile_cons_of_neg (by simp), List.append_nil]

variable {s : Summary}

theorem lines_ranking (hplain : PlainSummary s)
    (hnames : ∀ r ∈ s.reports, '\n' ∉ r.filename.toList) :
    Text.lines (ranking s).toList = rankingHeading :: [] ::
      (rankingHead ++ s.reports.map fileRow).map String.toList := by
  refine lines_stacked_of_notMem (List.cons_ne_nil _ _) fun text htext => ?_
  rw [List.mem_append] at htext
  rcases htext with htext | htext
  · have hhead : ∀ text ∈ ["## 📁 Files (worst first)", ""] ++ rankingHead, '\n' ∉ text.toList := by
      decide
    exact hhead text htext
  · obtain ⟨r, hr, rfl⟩ := List.mem_map.mp htext
    exact mt (lineFeed_mem_fileRow_iff (hplain.reports r hr)).mp (hnames r hr)

/-- The ranking has its lines between two empty ones. -/
theorem lines_ofSummary (writtenAt : String) (hne : s.reports ≠ []) :
    Text.lines (ofSummary writtenAt (some s)).toList =
      Text.lines (apart [heading s, overview s, distribution s]).toList ++ [] ::
        (Text.lines (ranking s).toList ++ [] ::
          Text.lines (apart (s.reports.map fileSection ++ [footer writtenAt])).toList) := by
  have hdoc : ofSummary writtenAt (some s) = apart ([heading s, overview s, distribution s] ++
      ([ranking s] ++ (s.reports.map fileSection ++ [footer writtenAt]))) := by
    rw [ofSummary, if_neg (by simpa using hne)]
    rfl
  have hranking : apart [ranking s] = ranking s := String.intercalate_singleton
  rw [hdoc, lines_apart (by simp) (by simp), lines_apart (by simp) (by simp), hranking]

/-- The table of the files has its head and one row for each report, if the names of the files have
no line feeds. -/
theorem tableBelow_ofSummary (hplain : PlainSummary s) (writtenAt : String) (hne : s.reports ≠ [])
    (hnames : ∀ r ∈ s.reports, '\n' ∉ r.filename.toList) :
    tableBelow rankingHeading (ofSummary writtenAt (some s)).toList =
      (rankingHead ++ s.reports.map fileRow).map String.toList := by
  have hdoc := lines_ofSummary writtenAt hne
  rw [lines_ranking hplain hnames] at hdoc
  refine tableBelow_eq hdoc (fun hmem => ?_) (by decide) fun hmem => ?_
  · have hsign : '📁' ∈ rankingHeading := by decide
    exact sign_notMem_above hplain (Text.mem_of_mem_lines hmem hsign)
  · obtain ⟨text, htext, hnil⟩ := List.mem_map.mp hmem
    rcases List.mem_append.mp htext with htext | htext
    · have hhead : ∀ text ∈ rankingHead, text.toList ≠ [] := by decide
      exact hhead text htext hnil
    · obtain ⟨r, -, rfl⟩ := List.mem_map.mp htext
      exact List.cons_ne_nil _ _ ((toList_row _ _).symm.trans hnil)

/-- The table is as it is to be if and only if no name has a line feed. -/
theorem tableBelow_ofSummary_iff (hplain : PlainSummary s) (writtenAt : String)
    (hne : s.reports ≠ []) :
    tableBelow rankingHeading (ofSummary writtenAt (some s)).toList =
        (rankingHead ++ s.reports.map fileRow).map String.toList ↔
      ∀ r ∈ s.reports, '\n' ∉ r.filename.toList := by
  refine ⟨fun h r hr => ?_, tableBelow_ofSummary hplain writtenAt hne⟩
  have hrow : (fileRow r).toList ∈
      tableBelow rankingHeading (ofSummary writtenAt (some s)).toList := by
    rw [h]
    exact List.mem_map_of_mem (List.mem_append_right _ (List.mem_map_of_mem hr))
  rw [← lineFeed_mem_fileRow_iff (hplain.reports r hr)]
  exact Text.lineFeed_notMem_of_mem_lines (mem_lines_of_mem_tableBelow hrow)

/-! ## The table of a project -/

/-- How the reports of a summary are shown in a table. -/
structure Tabulates (s : Summary) (writtenAt : String) : Prop where
  /-- The document is generated if all its integers can be written. -/
  generated : (∀ n ∈ integers s, Number.IsShort n) →
    generate writtenAt (some s) = .ok (ofSummary writtenAt (some s))
  /-- There is no table without reports. -/
  nothing : s.reports = [] → ofSummary writtenAt (some s) = nothingAnalysed
  /-- The reports are ranked by score and then by name. -/
  ranked : s.reports.Pairwise fun a b => Summary.ranksBefore a b = true
  /-- Below the head there is one line for each report, if and only if no name has a line feed. -/
  table : s.reports ≠ [] →
    (tableBelow rankingHeading (ofSummary writtenAt (some s)).toList =
        (rankingHead ++ s.reports.map fileRow).map String.toList ↔
      ∀ r ∈ s.reports, '\n' ∉ r.filename.toList)
  /-- A row has eight bars, and those of the name that stand after an odd number of backslashes. -/
  bars : ∀ r ∈ s.reports, bareBars (fileRow r).toList = 8 + sealedBars r.filename.toList

theorem tabulates_ofFiles (settings : AnalysisSettings) (files : List SourceFile)
    (writtenAt : String) : Tabulates (Project.ofFiles settings files) writtenAt where
  generated := generate_ofFiles writtenAt settings files
  nothing := fun h => by
    rw [ofSummary, h]
    rfl
  ranked := by
    unfold Project.ofFiles
    rw [Project.reports_ofArrivals]
    exact List.pairwise_mergeSort Summary.ranksBefore_trans Summary.ranksBefore_total _
  table := tableBelow_ofSummary_iff (plainSummary_ofFiles settings files) writtenAt
  bars := fun r hr => bareBars_fileRow ((plainSummary_ofFiles settings files).reports r hr)

/-- A file without text whose name has a backslash before a vertical bar. -/
def sealedName : SourceFile := ⟨"a\\|b.js", []⟩

/-- Its row has a ninth bar. -/
theorem sealedName_has_nine_bars :
    ¬∀ (settings : AnalysisSettings) (files : List SourceFile) (writtenAt : String),
      (Project.ofFiles settings files).reports ≠ [] →
      ∃ rows, tableBelow rankingHeading
          (ofSummary writtenAt (some (Project.ofFiles settings files))).toList =
          rankingHead.map String.toList ++ rows ∧
        rows.length = (Project.ofFiles settings files).reports.length ∧
        ∀ row ∈ rows, bareBars row = 8 := by
  intro h
  obtain ⟨r, hr⟩ : ∃ r, Report.ofText {} sealedName.name sealedName.text = .ok r :=
    ⟨_, Report.ofText_eq_ok_iff.mpr ⟨Smell.readable_of_length_le (by decide), rfl⟩⟩
  have hmem : r ∈ (Project.ofFiles {} [sealedName]).reports :=
    Project.mem_reports_ofFiles.mpr ⟨sealedName, List.mem_singleton_self _, hr⟩
  have hnames : ∀ r ∈ (Project.ofFiles {} [sealedName]).reports, '\n' ∉ r.filename.toList := by
    intro r' hr'
    obtain ⟨file, hfile, hreport⟩ := Project.mem_reports_ofFiles.mp hr'
    obtain rfl := List.mem_singleton.mp hfile
    rw [Report.filename_of_ofText hreport]
    decide
  have hplain := plainSummary_ofFiles {} [sealedName]
  have hne := List.ne_nil_of_mem hmem
  obtain ⟨rows, htable, -, height⟩ := h {} [sealedName] "" hne
  rw [tableBelow_ofSummary hplain "" hne hnames, List.map_append] at htable
  obtain rfl := List.append_cancel_left htable
  have hrow := height _ (List.mem_map_of_mem (List.mem_map_of_mem hmem))
  rw [bareBars_fileRow (hplain.reports r hmem), Report.filename_of_ofText hr] at hrow
  exact absurd hrow (by decide)

end SourceGrade.Markdown
