import SourceGrade.Proofs.Function.Balance
import SourceGrade.Proofs.Metric.Smell

set_option autoImplicit false

/-!
# Deep nesting and the index of braces

The depth of braces is followed in two ways. The smells add up, line by line, what each line opens
more than it closes. The index of the braces keeps the depth after each brace and is asked for an
offset. Both give the depth of the text up to there, so a line is reported exactly if the index
gives a depth that is too great for the offset at which the line ends: `Smell.reports_nesting`.
-/

namespace SourceGrade

namespace Text

variable {t : List Char} {i e : Nat}

/-! ## Where a line ends -/

/-- An offset at which a line of a text, counted from zero, has come to its end: that of its line
feed, the one behind that, or the end of the text. -/
inductive EndsLine (t : List Char) (i : Nat) : Nat → Prop where
  | atFeed {e : Nat} (feed : t[e]? = some '\n') (before : lineFeeds (t.take e) = i) :
      EndsLine t i e
  | behindFeed {e : Nat} (feed : t[e]? = some '\n') (before : lineFeeds (t.take e) = i) :
      EndsLine t i (e + 1)
  | atEnd (all : lineFeeds t = i) : EndsLine t i t.length

/-- As many line feeds as there are come one after the other. -/
theorem exists_lineFeed (h : i < lineFeeds t) :
    ∃ e : Nat, t[e]? = some '\n' ∧ lineFeeds (t.take e) = i := by
  unfold lineFeeds at h ⊢
  induction t generalizing i with
  | nil => simp at h
  | cons c t ih =>
    by_cases hc : c = '\n'
    · subst hc
      rw [List.count_cons_self] at h
      cases i with
      | zero => exact ⟨0, rfl, rfl⟩
      | succ i =>
        obtain ⟨e, hfeed, hbefore⟩ := ih (Nat.lt_of_succ_lt_succ h)
        refine ⟨e + 1, hfeed, ?_⟩
        rw [List.take_succ_cons, List.count_cons_self, hbefore]
    · rw [List.count_cons_of_ne hc] at h
      obtain ⟨e, hfeed, hbefore⟩ := ih h
      refine ⟨e + 1, hfeed, ?_⟩
      rw [List.take_succ_cons, List.count_cons_of_ne hc, hbefore]

/-- Every line comes to its end. -/
theorem exists_endsLine (h : i < (lines t).length) : ∃ e, EndsLine t i e := by
  rw [length_lines, Nat.lt_succ_iff] at h
  rcases Nat.lt_or_eq_of_le h with hlt | heq
  · obtain ⟨e, hfeed, hbefore⟩ := exists_lineFeed hlt
    exact ⟨e, .atFeed hfeed hbefore⟩
  · exact ⟨t.length, .atEnd heq.symm⟩

/-- A line with a line feed is the last one of the text before the line feed. -/
theorem lines_take_of_feed (hfeed : t[e]? = some '\n') (hbefore : lineFeeds (t.take e) = i) :
    lines (t.take e) = (lines t).take (i + 1) := by
  obtain ⟨hlt, hget⟩ := List.getElem?_eq_some_iff.mp hfeed
  have hsplit : t.take e ++ '\n' :: t.drop (e + 1) = t := by
    rw [← hget, ← List.drop_eq_getElem_cons, List.take_append_drop]
  have hlength : (lines (t.take e)).length = i + 1 := by
    rw [length_lines, hbefore]
  have hlines : lines t = lines (t.take e) ++ lines (t.drop (e + 1)) := by
    rw [← lines_append_lineFeed, hsplit]
  rw [hlines, List.take_left' hlength]

/-- An offset ends a line of the text. -/
theorem EndsLine.lt_length (h : EndsLine t i e) : i < (lines t).length := by
  have hfeed : ∀ {e : Nat}, t[e]? = some '\n' → lineFeeds (t.take e) = i →
      i < (lines t).length := by
    intro e hfeed hbefore
    have hlength := congrArg List.length (lines_take_of_feed hfeed hbefore)
    rw [length_lines, hbefore, List.length_take] at hlength
    omega
  cases h with
  | atFeed feed before => exact hfeed feed before
  | behindFeed feed before => exact hfeed feed before
  | atEnd all =>
    rw [length_lines, all]
    exact Nat.lt_succ_self i

end Text

namespace Smell

open Text (EndsLine)

variable {allowed : Int} {t : List Char} {smells : List Smell} {s : Smell} {i e : Nat}

/-! ## The depth, line by line -/

/-- A line adds to the depth what its braces add. -/
theorem lineDepth_eq (line : List Char) : lineDepth line = braceDepth line :=
  (braceDepth_eq_count line).symm

theorem depthOf_lines (t : List Char) : depthOf (Text.lines t) = braceDepth t := by
  unfold depthOf
  induction t with
  | nil => rfl
  | cons c t ih =>
    by_cases hc : c = '\n'
    · subst hc
      rw [Text.lines_cons_lineFeed, List.map_cons, Number.signedTotal_cons, ih, braceDepth_cons]
      rfl
    · obtain ⟨first, rest, hlines⟩ := List.exists_cons_of_ne_nil (Text.lines_ne_nil t)
      rw [hlines, List.map_cons, Number.signedTotal_cons, lineDepth_eq] at ih
      rw [Text.lines_cons_of_ne hc, hlines, List.modifyHead_cons, List.map_cons,
        Number.signedTotal_cons, lineDepth_eq, braceDepth_cons, braceDepth_cons, ← ih,
        Int.add_assoc]

/-- The depth of a text up to the end of a line is that of its lines, this one included. -/
theorem braceDepth_take_of_endsLine (h : EndsLine t i e) :
    braceDepth (t.take e) = depthOf ((Text.lines t).take (i + 1)) := by
  cases h with
  | atFeed feed before => rw [← Text.lines_take_of_feed feed before, depthOf_lines]
  | @behindFeed e feed before =>
    have hfeed : braceStep '\n' = 0 := by decide
    rw [← Text.lines_take_of_feed feed before, depthOf_lines, List.take_add_one, feed,
      Option.toList_some, braceDepth_concat, hfeed, Int.add_zero]
  | atEnd all =>
    have hall : (Text.lines t).length ≤ i + 1 := by
      rw [Text.length_lines, all]
    rw [List.take_length, List.take_of_length_le hall, depthOf_lines]

/-- The index of the braces gives the depth of the lines. -/
theorem depthBefore_of_endsLine (h : EndsLine t i e) :
    (BraceIndex.ofText t).depthBefore e = depthOf ((Text.lines t).take (i + 1)) := by
  rw [(BraceIndex.describes_ofText t).depthBefore_eq, braceDepth_take_of_endsLine h]

/-! ## What is listed -/

/-- All smells of a list are of one kind. -/
def OfKind (kind : String) (ss : List Smell) : Prop := ∀ s ∈ ss, s.kind = kind

theorem OfKind.filter_self {kind : String} {ss : List Smell} (h : OfKind kind ss) :
    ss.filter (·.kind == kind) = ss :=
  List.filter_eq_self.mpr fun s hs => beq_iff_eq.mpr (h s hs)

theorem OfKind.filter_of_ne {kind other : String} {ss : List Smell} (h : OfKind kind ss)
    (hne : kind ≠ other) : ss.filter (·.kind == other) = [] := by
  refine List.filter_eq_nil_iff.mpr fun s hs heq => hne ?_
  rw [← h s hs, beq_iff_eq.mp heq]

theorem ofKind_longLines (length : Int) (ls : List (List Char)) :
    OfKind "long_line" (longLines length ls) := by
  intro s hs
  obtain ⟨i, n, -, rfl⟩ := exists_of_mem_longLines hs
  rfl

theorem ofKind_todos (t : List Char) (lines : Text.LineIndex) : OfKind "todo" (todos t lines) := by
  intro s hs
  obtain ⟨hit, -, rfl⟩ := List.mem_map.mp hs
  rfl

theorem ofKind_deepNesting (depth : Int) (ls : List (List Char)) :
    OfKind "deep_nesting" (deepNesting depth ls) := by
  intro s hs
  obtain ⟨i, -, -, rfl⟩ := mem_nestedFrom_iff.mp hs
  rfl

theorem ofKind_debugOutput (t : List Char) (lines : Text.LineIndex) :
    OfKind "debug" (debugOutput t lines) := by
  intro s hs
  obtain ⟨call, -, hcall⟩ := List.mem_flatMap.mp hs
  obtain ⟨hit, -, rfl⟩ := List.mem_map.mp hcall
  rfl

theorem ofKind_unexplained (numbers : List Int) (hits : List Hit) (lines : Text.LineIndex) :
    OfKind "magic_number" (hits.filterMap (unexplained? numbers lines)) := by
  intro s hs
  obtain ⟨hit, -, hsome⟩ := List.mem_filterMap.mp hs
  unfold unexplained? at hsome
  split at hsome
  · cases hsome
  · obtain rfl := Option.some.inj hsome
    rfl

theorem ofKind_emptyCatches (t : List Char) (lines : Text.LineIndex) :
    OfKind "empty_catch" (emptyCatches t lines) := by
  intro s hs
  obtain ⟨hit, -, rfl⟩ := List.mem_map.mp hs
  rfl

/-- Of all smells, those of deep nesting are the ones found by the depth. -/
theorem filter_listed_deepNesting (length depth : Int) (numbers : List Int) (t : List Char) :
    (listed length depth numbers t).filter (·.kind == "deep_nesting") =
      deepNesting depth (Text.lines t) := by
  have hlong := (ofKind_longLines length (Text.lines t)).filter_of_ne
    (show "long_line" ≠ "deep_nesting" by decide)
  have htodo := (ofKind_todos t (.ofText t)).filter_of_ne (show "todo" ≠ "deep_nesting" by decide)
  have hdebug := (ofKind_debugOutput t (.ofText t)).filter_of_ne
    (show "debug" ≠ "deep_nesting" by decide)
  have hnumber := (ofKind_unexplained numbers (operand.hits t) (.ofText t)).filter_of_ne
    (show "magic_number" ≠ "deep_nesting" by decide)
  have hcatch := (ofKind_emptyCatches t (.ofText t)).filter_of_ne
    (show "empty_catch" ≠ "deep_nesting" by decide)
  unfold listed
  simp only [List.filter_append, hlong, htodo, (ofKind_deepNesting depth _).filter_self, hdebug,
    hnumber, hcatch, List.nil_append, List.append_nil]

/-- The nested lines are numbered in ascending order. -/
theorem pairwise_nestedFrom (allowed depth : Int) (number : Nat) (ls : List (List Char)) :
    (nestedFrom allowed depth number ls).Pairwise (·.line < ·.line) := by
  induction ls generalizing depth number with
  | nil => exact List.Pairwise.nil
  | cons line ls ih =>
    have hlater := ih (depth + lineDepth line) (number + 1)
    unfold nestedFrom
    dsimp only
    split
    · refine List.pairwise_cons.mpr ⟨fun s hs => ?_, hlater⟩
      obtain ⟨i, -, -, rfl⟩ := mem_nestedFrom_iff.mp hs
      unfold Finding.onLine
      dsimp only
      omega
    · exact hlater

/-- Smells report deep nesting in a text as the index of its braces gives the depth. -/
structure ReportsNesting (allowed : Int) (t : List Char) (smells : List Smell) : Prop where
  /-- Every line of the text ends at some offset. -/
  ends : ∀ i < (Text.lines t).length, ∃ e, EndsLine t i e
  /-- A line is reported exactly if the depth at its end is too great. -/
  reported_iff : ∀ i e, EndsLine t i e →
    ((∃ s ∈ smells, s.kind = "deep_nesting" ∧ s.line = i + 1) ↔
      allowed < (BraceIndex.ofText t).depthBefore e)
  /-- The report of a line tells the depth at its end. -/
  told : ∀ s ∈ smells, s.kind = "deep_nesting" → ∃ i < (Text.lines t).length,
    ∀ e, EndsLine t i e →
      s = (Finding.deepNesting ((BraceIndex.ofText t).depthBefore e)).onLine (i + 1)
  /-- The lines are reported in ascending order, each of them once. -/
  increasing : (smells.filter (·.kind == "deep_nesting")).Pairwise (·.line < ·.line)

/-- The depth that is followed line by line and the index of the braces agree at the end of every
line. -/
theorem reports_nesting {length allowed : Int} {numbers : List Int} {t : List Char}
    {smells : List Smell} (h : ofText length allowed numbers t = .ok smells) :
    ReportsNesting allowed t smells := by
  obtain ⟨-, rfl⟩ := ofText_eq_ok_iff.mp h
  have hfilter := filter_listed_deepNesting length allowed numbers t
  have hmem : ∀ {s}, s ∈ listed length allowed numbers t ∧ s.kind = "deep_nesting" ↔
      ∃ i, i < (Text.lines t).length ∧ allowed < depthOf ((Text.lines t).take (i + 1)) ∧
        s = (Finding.deepNesting (depthOf ((Text.lines t).take (i + 1)))).onLine (i + 1) := by
    intro s
    have hlisted : s ∈ listed length allowed numbers t ∧ s.kind = "deep_nesting" ↔
        s ∈ deepNesting allowed (Text.lines t) := by
      rw [← hfilter, List.mem_filter, beq_iff_eq]
    rw [hlisted]
    unfold deepNesting
    rw [mem_nestedFrom_iff]
    simp only [Int.zero_add]
  refine ⟨fun i hi => Text.exists_endsLine hi, ?_, ?_, ?_⟩
  · intro i e hend
    rw [depthBefore_of_endsLine hend]
    constructor
    · rintro ⟨s, hs, hkind, hline⟩
      obtain ⟨j, -, hdeep, rfl⟩ := hmem.mp ⟨hs, hkind⟩
      unfold Finding.onLine at hline
      obtain rfl : j = i := by
        dsimp only at hline
        omega
      exact hdeep
    · intro hdeep
      obtain ⟨hs, hkind⟩ := hmem.mpr ⟨i, hend.lt_length, hdeep, rfl⟩
      exact ⟨_, hs, hkind, by simp [Finding.onLine]⟩
  · intro s hs hkind
    obtain ⟨i, hi, -, rfl⟩ := hmem.mp ⟨hs, hkind⟩
    refine ⟨i, hi, fun e hend => ?_⟩
    rw [depthBefore_of_endsLine hend]
  · rw [hfilter]
    exact pairwise_nestedFrom allowed 0 1 (Text.lines t)

/-- A text closes a brace before it opens three of them and ends without a line feed. Its second
line is nested too deeply for a limit of one. -/
theorem reports_nesting_below_zero :
    ofText usualLineLength 1 usualNumbers ['}', '\n', '{', '{', '{', '\n', '}'] =
        .ok [(Finding.deepNesting 2).onLine 2] ∧
      ReportsNesting 1 ['}', '\n', '{', '{', '{', '\n', '}']
        [(Finding.deepNesting 2).onLine 2] := by
  have hfound : ofText usualLineLength 1 usualNumbers ['}', '\n', '{', '{', '{', '\n', '}'] =
      .ok [(Finding.deepNesting 2).onLine 2] := by decide +kernel
  exact ⟨hfound, reports_nesting hfound⟩

end Smell

end SourceGrade
