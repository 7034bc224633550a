import SourceGrade.Function.Complexity
import SourceGrade.Proofs.Count
import SourceGrade.Proofs.Pattern.Count
import SourceGrade.Proofs.Pattern.Runs

set_option autoImplicit false

/-!
# Counting decisions

The complexity of a body is estimated by eleven patterns. Said without them, it counts the words of
decisions where they stand as whole words, the doubled operators by their runs, and the question
marks that ask for a member or for one of two values. None of these looks past the end of a line,
so decisions add up over the lines of a body.
-/

namespace SourceGrade.Complexity

open Pattern (word inOrder one CountedBy)
open SourceGrade.Language (among except someBlanks)
open Text (isWord isBlank tally tallyFrom counting wordAt standsAt halfRun StaysInLine)

/-! ## The decisions of a text -/

/-- The words of decisions. -/
def keywords : List String := ["if", "while", "for", "foreach", "case", "catch"]

/-- The characters that make a decision where they stand twice. -/
def doubled : List Char := ['?', '&', '|']

/-- The next colon is between 2 and 301 characters further, with no line feed between. -/
def colonAhead (rest : List Char) : Bool :=
  (rest.findIdx? (· == ':')).any fun k => 2 ≤ k && k ≤ 301 && !(rest.take k).contains '\n'

/-- A question mark asks for one of two values: none stands before it, what follows does not make it
another operator, and the next colon is on its line at a moderate distance. -/
def ternaryAt (before : Option Char) (rest : List Char) : Bool :=
  rest.head? == some '?' && !before.any (· == '?') && !rest[1]?.any (among ['.', '?', ':']) &&
    colonAhead rest

/-- The number of decisions in a text. -/
def tokens (t : List Char) : Nat :=
  Number.total (keywords.map fun w => tally (counting (wordAt w.toList)) t) +
    Number.total (doubled.map fun c => tally (halfRun c) t) +
    tally (counting (standsAt ['?', '.'])) t + tally (counting ternaryAt) t

/-! ## Whole words -/

variable {w : String} {c d : Cursor}

theorem toList_ne_nil_of_mem_keywords (hw : w ∈ keywords) : w.toList ≠ [] := by
  have hall : (keywords.all fun w => !w.toList.isEmpty) = true := by decide
  have hempty := List.all_eq_true.mp hall w hw
  intro hnil
  rw [hnil] at hempty
  exact Bool.noConfusion hempty

theorem isWord_of_mem_keywords (hw : w ∈ keywords) : ∀ x ∈ w.toList, isWord x = true := by
  have hall : (keywords.all fun w => w.toList.all isWord) = true := by decide
  exact List.all_eq_true.mp (List.all_eq_true.mp hall w hw)

theorem lineFeed_notMem_of_mem_keywords (hw : w ∈ keywords) : '\n' ∉ w.toList := fun hmem =>
  absurd (isWord_of_mem_keywords hw '\n' hmem) (by decide)

theorem if_mem_keywords : "if" ∈ keywords := List.mem_cons_self

theorem mem_outcomes_wholeWord :
    d ∈ (wholeWord w).outcomes c ↔ c.atWordEdge = true ∧
      ∃ rest, c.rest = w.toList ++ rest ∧ d = c.past w.toList rest ∧ d.atWordEdge = true := by
  simp only [wholeWord, inOrder, word, Pattern.mem_outcomes_seq, Pattern.mem_outcomes_wordEdge,
    Pattern.mem_outcomes_text]
  constructor
  · rintro ⟨_, ⟨hedge, rfl⟩, _, ⟨rest, hrest, rfl⟩, hend, rfl⟩
    exact ⟨hedge, rest, hrest, rfl, hend⟩
  · rintro ⟨hedge, rest, hrest, rfl, hend⟩
    exact ⟨c, ⟨hedge, rfl⟩, _, ⟨rest, hrest, rfl⟩, hend, rfl⟩

/-- A word begins at an edge if no word character stands before it. -/
theorem atWordEdge_begin {s : List Char} (hne : s ≠ []) (hs : ∀ x ∈ s, isWord x = true)
    {rest : List Char} (hrest : c.rest = s ++ rest) : c.atWordEdge = !c.before.any isWord := by
  obtain ⟨x, s, rfl⟩ := List.exists_cons_of_ne_nil hne
  unfold Cursor.atWordEdge
  rw [hrest, List.cons_append, List.head?_cons, Option.any_some, hs x List.mem_cons_self]
  cases c.before.any isWord <;> rfl

/-- A word ends at an edge if no word character stands after it. -/
theorem atWordEdge_past {s : List Char} (hne : s ≠ []) (hs : ∀ x ∈ s, isWord x = true)
    (rest : List Char) : (c.past s rest).atWordEdge = !rest.head?.any isWord := by
  have hlast : isWord (s.getLast hne) = true := hs _ (List.getLast_mem hne)
  unfold Cursor.atWordEdge Cursor.past
  rw [List.getLast?_eq_some_getLast hne, Option.some_or, Option.any_some, hlast]
  cases rest.head?.any isWord <;> rfl

theorem mem_outcomes_wholeWord_iff (hw : w ∈ keywords) :
    d ∈ (wholeWord w).outcomes c ↔ wordAt w.toList c.before c.rest = true ∧
      ∃ rest, c.rest = w.toList ++ rest ∧ d = c.past w.toList rest := by
  have hne := toList_ne_nil_of_mem_keywords hw
  have hchars := isWord_of_mem_keywords hw
  rw [mem_outcomes_wholeWord, Text.wordAt_eq_true_iff]
  constructor
  · rintro ⟨hedge, rest, hrest, rfl, hend⟩
    rw [atWordEdge_begin hne hchars hrest, Bool.not_eq_true'] at hedge
    rw [atWordEdge_past hne hchars, Bool.not_eq_true'] at hend
    exact ⟨⟨hedge, rest, hrest, hend⟩, rest, hrest, rfl⟩
  · rintro ⟨⟨hedge, rest, hrest, hend⟩, rest', hrest', rfl⟩
    obtain rfl : rest = rest' := List.append_cancel_left (hrest.symm.trans hrest')
    rw [atWordEdge_begin hne hchars hrest, atWordEdge_past hne hchars, hedge, hend]
    exact ⟨rfl, rest, hrest, rfl, rfl⟩

/-- A word is found wherever it stands as a whole. -/
theorem exists_mem_outcomes_wholeWord (hw : w ∈ keywords)
    (h : wordAt w.toList c.before c.rest = true) : ∃ d, d ∈ (wholeWord w).outcomes c := by
  obtain ⟨-, rest, hrest, -⟩ := Text.wordAt_eq_true_iff.mp h
  exact ⟨_, (mem_outcomes_wholeWord_iff hw).mpr ⟨h, rest, hrest, rfl⟩⟩

theorem lt_of_mem_outcomes_wholeWord (hw : w ∈ keywords) (h : d ∈ (wholeWord w).outcomes c) :
    c.offset < d.offset := by
  obtain ⟨-, rest, -, rfl, -⟩ := mem_outcomes_wholeWord.mp h
  exact Nat.lt_add_of_pos_right (List.length_pos_iff.mpr (toList_ne_nil_of_mem_keywords hw))

/-- Whole words are counted where they stand. -/
theorem countedBy_wholeWord (hw : w ∈ keywords) :
    (wholeWord w).CountedBy (counting (wordAt w.toList)) where
  found done rest d h := by
    obtain ⟨hat, later, hrest, rfl⟩ :=
      (mem_outcomes_wholeWord_iff hw).mp (Pattern.outcome_of_findsAt h)
    obtain rfl : rest = w.toList ++ later := hrest
    refine ⟨w.toList, later, rfl, List.length_append.symm, ?_⟩
    rw [List.getLast?_append]
    exact Text.tallyFrom_wordAt (toList_ne_nil_of_mem_keywords hw) (isWord_of_mem_keywords hw) hat
  missed done x rest :=
    Pattern.counting_eq_zero_of_missed
      (exists_mem_outcomes_wholeWord (c := .between done (x :: rest)) hw)
      fun _ he => lt_of_mem_outcomes_wholeWord hw he

/-! ## Conditions -/

/-- What leads to a condition: the word, blanks, and the word of the condition. -/
theorem exists_of_mem_outcomes_elseIf
    (h : d ∈ (inOrder [.wordEdge, word "else", someBlanks, word "if", .wordEdge]).outcomes c) :
    ∃ gap later, c.rest = ("else".toList ++ gap) ++ ("if".toList ++ later) ∧ gap ≠ [] ∧
      (∀ x ∈ gap, isBlank x = true) ∧ later.head?.any isWord = false ∧
      d.offset = c.offset + (("else".toList ++ gap) ++ "if".toList).length := by
  simp only [inOrder, word, someBlanks, Pattern.atLeastOne, Pattern.mem_outcomes_seq,
    Pattern.mem_outcomes_wordEdge, Pattern.mem_outcomes_text] at h
  obtain ⟨_, ⟨-, rfl⟩, _, ⟨r₁, h₁, rfl⟩, e, hrun, _, ⟨later, h₂, rfl⟩, hend, rfl⟩ := h
  obtain ⟨gap, r₂, hgap, hblank, hpos, -, rfl⟩ := (Cursor.mem_runStops_iff (by decide)).mp hrun
  obtain rfl : r₁ = gap ++ r₂ := hgap
  obtain rfl : r₂ = "if".toList ++ later := h₂
  rw [atWordEdge_past (toList_ne_nil_of_mem_keywords if_mem_keywords)
    (isWord_of_mem_keywords if_mem_keywords), Bool.not_eq_true'] at hend
  refine ⟨gap, later, by rw [h₁, List.append_assoc], List.length_pos_iff.mp hpos, hblank, hend, ?_⟩
  simp only [Cursor.past, List.length_append]
  omega

/-- No condition stands in what leads to one. -/
theorem tallyFrom_elseIf {gap later : List Char} (hne : gap ≠ [])
    (hblank : ∀ x ∈ gap, isBlank x = true) (hlater : later.head?.any isWord = false)
    (before : Option Char) :
    tallyFrom (counting (wordAt "if".toList)) before
        (("else".toList ++ gap) ++ ("if".toList ++ later)) =
      1 + tallyFrom (counting (wordAt "if".toList))
        ((("else".toList ++ gap) ++ "if".toList).getLast?.or before) later := by
  have hfree : ∀ x ∈ "else".toList ++ gap, ∀ before rest,
      counting (wordAt "if".toList) before (x :: rest) = 0 := by
    intro x hx before rest
    have hxi : x ≠ 'i' := by
      rintro rfl
      rcases List.mem_append.mp hx with hx | hx
      · exact absurd hx (by decide)
      · exact absurd (hblank 'i' hx) (by decide)
    refine Text.counting_eq_zero fun hat => ?_
    obtain ⟨-, rest', hrest, -⟩ := Text.wordAt_eq_true_iff.mp hat
    exact hxi (List.cons.inj hrest).1
  have hbefore : (("else".toList ++ gap).getLast?.or before).any isWord = false := by
    rw [List.getLast?_append, List.getLast?_eq_some_getLast hne, Option.some_or, Option.some_or,
      Option.any_some]
    exact Text.isWord_of_isBlank (hblank _ (List.getLast_mem hne))
  have hat : wordAt "if".toList (("else".toList ++ gap).getLast?.or before)
      ("if".toList ++ later) = true :=
    Text.wordAt_eq_true_iff.mpr ⟨hbefore, later, rfl, hlater⟩
  rw [Text.tallyFrom_append_of_begin hfree,
    Text.tallyFrom_wordAt (toList_ne_nil_of_mem_keywords if_mem_keywords)
      (isWord_of_mem_keywords if_mem_keywords) hat,
    ← Option.or_assoc, ← List.getLast?_append]

/-- Conditions are counted by their word, whether or not anything leads to it. -/
theorem countedBy_conditional : conditional.CountedBy (counting (wordAt "if".toList)) where
  found done rest d h := by
    rcases Pattern.mem_outcomes_alt.mp (Pattern.outcome_of_findsAt h) with hd | hd
    · obtain ⟨gap, later, hrest, hne, hblank, hlater, hoffset⟩ := exists_of_mem_outcomes_elseIf hd
      obtain rfl : rest = ("else".toList ++ gap) ++ ("if".toList ++ later) := hrest
      refine ⟨("else".toList ++ gap) ++ "if".toList, later, by rw [List.append_assoc _ _ later],
        hoffset.trans List.length_append.symm, ?_⟩
      rw [List.getLast?_append]
      exact tallyFrom_elseIf hne hblank hlater _
    · obtain ⟨hat, later, hrest, rfl⟩ := (mem_outcomes_wholeWord_iff if_mem_keywords).mp hd
      obtain rfl : rest = "if".toList ++ later := hrest
      refine ⟨"if".toList, later, rfl, List.length_append.symm, ?_⟩
      rw [List.getLast?_append]
      exact Text.tallyFrom_wordAt (toList_ne_nil_of_mem_keywords if_mem_keywords)
        (isWord_of_mem_keywords if_mem_keywords) hat
  missed done x rest := by
    refine Pattern.counting_eq_zero_of_missed (fun hat => ?_) fun e he => ?_
    · obtain ⟨d, hd⟩ :=
        exists_mem_outcomes_wholeWord (c := .between done (x :: rest)) if_mem_keywords hat
      exact ⟨d, Pattern.mem_outcomes_alt.mpr (.inr hd)⟩
    · rcases Pattern.mem_outcomes_alt.mp he with he | he
      · obtain ⟨gap, later, -, -, -, -, hoffset⟩ := exists_of_mem_outcomes_elseIf he
        rw [hoffset]
        exact Nat.lt_add_of_pos_right (by simp)
      · exact lt_of_mem_outcomes_wholeWord if_mem_keywords he

/-! ## Question marks -/

theorem exists_mem_outcomes_one {ok : Char → Bool} :
    (∃ d, d ∈ (one ok).outcomes c) ↔ c.rest.head?.any ok = true := by
  unfold one Pattern.outcomes
  rw [Cursor.runStops_longestOnly_eq, Cursor.runLength_some]
  cases hrest : c.rest with
  | nil => simp
  | cons x rest =>
    cases hx : ok x with
    | false => simp [hx]
    | true => simp [hx]

/-- What has to lie ahead: characters that are no colon and no line feed, and then a colon. -/
theorem exists_mem_outcomes_gap :
    (∃ d, d ∈ (inOrder [.run (except [':', '\n']) 1 (some 300) .longestFirst,
        word ":"]).outcomes c) ↔
      ∃ gap later, c.rest = gap ++ ':' :: later ∧ (∀ x ∈ gap, except [':', '\n'] x = true) ∧
        1 ≤ gap.length ∧ gap.length ≤ 300 := by
  simp only [inOrder, word, Pattern.mem_outcomes_seq, Pattern.mem_outcomes_text]
  constructor
  · rintro ⟨_, e, hrun, later, hlater, -⟩
    obtain ⟨gap, rest, hrest, hgap, hone, hmost, rfl⟩ :=
      (Cursor.mem_runStops_iff (by decide)).mp hrun
    obtain rfl : rest = ":".toList ++ later := hlater
    exact ⟨gap, later, hrest, hgap, hone, hmost 300 rfl⟩
  · rintro ⟨gap, later, hrest, hgap, hone, hmost⟩
    have hrun : c.past gap (':' :: later) ∈
        c.runStops (except [':', '\n']) 1 (some 300) .longestFirst :=
      (Cursor.mem_runStops_iff (by decide)).mpr ⟨gap, ':' :: later, hrest, hgap, hone,
        fun m hm => Option.some.inj hm ▸ hmost, rfl⟩
    exact ⟨_, _, hrun, later, rfl, rfl⟩

theorem forall_except_iff {gap : List Char} :
    (∀ x ∈ gap, except [':', '\n'] x = true) ↔ ':' ∉ gap ∧ '\n' ∉ gap := by
  have hone : ∀ x, except [':', '\n'] x = true ↔ x ≠ ':' ∧ x ≠ '\n' := fun x => by simp [except]
  constructor
  · intro h
    exact ⟨fun hmem => ((hone _).mp (h _ hmem)).1 rfl, fun hmem => ((hone _).mp (h _ hmem)).2 rfl⟩
  · rintro ⟨hcolon, hfeed⟩ x hx
    exact (hone x).mpr ⟨fun h => hcolon (h ▸ hx), fun h => hfeed (h ▸ hx)⟩

/-- The next colon is the first one. -/
theorem colonAhead_append {gap : List Char} (h : ':' ∉ gap) (later : List Char) :
    colonAhead ('?' :: (gap ++ ':' :: later)) = true ↔
      '\n' ∉ gap ∧ 1 ≤ gap.length ∧ gap.length ≤ 300 := by
  have hnone : gap.findIdx? (· == ':') = none :=
    List.findIdx?_eq_none_iff.mpr fun x hx => beq_false_of_ne fun heq => h (heq ▸ hx)
  have hfirst : ('?' :: (gap ++ ':' :: later)).findIdx? (· == ':') = some (gap.length + 1) := by
    rw [List.findIdx?_cons, List.findIdx?_append, hnone, List.findIdx?_cons]
    simp
  have htake : ('?' :: (gap ++ ':' :: later)).take (gap.length + 1) = '?' :: gap := by
    rw [List.take_succ_cons, List.take_left]
  unfold colonAhead
  rw [hfirst, Option.any_some, htake]
  simp only [Bool.and_eq_true, decide_eq_true_eq, Bool.not_eq_true', List.contains_cons]
  have hquestion : ('\n' == '?') = false := by decide
  rw [hquestion, Bool.false_or, List.contains_eq_mem, decide_eq_false_iff_not]
  exact ⟨fun h => ⟨h.2, by omega, by omega⟩, fun h => ⟨by omega, h.1⟩⟩

theorem colonAhead_of_notMem {rest : List Char} (h : ':' ∉ rest) :
    colonAhead ('?' :: rest) = false := by
  have hnone : ('?' :: rest).findIdx? (· == ':') = none := by
    refine List.findIdx?_eq_none_iff.mpr fun x hx => beq_false_of_ne ?_
    rintro rfl
    rcases List.mem_cons.mp hx with heq | hx
    · exact absurd heq (by decide)
    · exact h hx
  unfold colonAhead
  rw [hnone]
  rfl

theorem colonAhead_iff {rest : List Char} :
    colonAhead ('?' :: rest) = true ↔
      ∃ gap later, rest = gap ++ ':' :: later ∧ (∀ x ∈ gap, except [':', '\n'] x = true) ∧
        1 ≤ gap.length ∧ gap.length ≤ 300 := by
  constructor
  · intro h
    by_cases hmem : ':' ∈ rest
    · obtain ⟨gap, later, rfl, hgap⟩ := List.eq_append_cons_of_mem hmem
      obtain ⟨hfeed, hlength⟩ := (colonAhead_append hgap later).mp h
      exact ⟨gap, later, rfl, forall_except_iff.mpr ⟨hgap, hfeed⟩, hlength⟩
    · rw [colonAhead_of_notMem hmem] at h
      exact Bool.noConfusion h
  · rintro ⟨gap, later, rfl, hgap, hlength⟩
    obtain ⟨hcolon, hfeed⟩ := forall_except_iff.mp hgap
    exact (colonAhead_append hcolon later).mpr ⟨hfeed, hlength⟩

/-- The conditions on what stands before a question mark and after it. -/
theorem ternaryAt_cons_iff {before : Option Char} {rest : List Char} :
    ternaryAt before ('?' :: rest) = true ↔ before.any (· == '?') = false ∧
      rest.head?.any (among ['.', '?', ':']) = false ∧ colonAhead ('?' :: rest) = true := by
  unfold ternaryAt
  rw [List.head?_cons, List.getElem?_cons_succ, ← List.head?_eq_getElem?]
  simp only [beq_self_eq_true, Bool.true_and, Bool.and_eq_true, Bool.not_eq_true', and_assoc]

theorem exists_of_ternaryAt {before : Option Char} {t : List Char}
    (h : ternaryAt before t = true) : ∃ rest, t = '?' :: rest := by
  unfold ternaryAt at h
  simp only [Bool.and_eq_true, beq_iff_eq] at h
  exact List.head?_eq_some_iff.mp h.1.1.1

theorem mem_outcomes_ternary :
    d ∈ ternary.outcomes c ↔ ternaryAt c.before c.rest = true ∧
      ∃ rest, c.rest = '?' :: rest ∧ d = c.past ['?'] rest := by
  have hopen : ∀ rest, c.rest = '?' :: rest →
      (ternaryAt c.before c.rest = true ↔ c.before.any (· == '?') = false ∧
        ((one (among ['.', '?', ':'])).search (c.past ['?'] rest) some).isSome = false ∧
        ((inOrder [.run (except [':', '\n']) 1 (some 300) .longestFirst,
          word ":"]).search (c.past ['?'] rest) some).isSome = true) := by
    intro rest hrest
    have hnot : ((one (among ['.', '?', ':'])).search (c.past ['?'] rest) some).isSome =
        rest.head?.any (among ['.', '?', ':']) := by
      rw [Bool.eq_iff_iff, Pattern.isSome_search_iff, exists_mem_outcomes_one]
      rfl
    have hcolon : ((inOrder [.run (except [':', '\n']) 1 (some 300) .longestFirst,
        word ":"]).search (c.past ['?'] rest) some).isSome = colonAhead ('?' :: rest) := by
      rw [Bool.eq_iff_iff, Pattern.isSome_search_iff, exists_mem_outcomes_gap, colonAhead_iff]
      rfl
    rw [hrest, ternaryAt_cons_iff, hnot, hcolon]
  have hmark : "?".toList = ['?'] := rfl
  simp only [ternary, inOrder, word, Pattern.mem_outcomes_seq, Pattern.mem_outcomes_notAfter,
    Pattern.mem_outcomes_text, Pattern.mem_outcomes_notAhead, Pattern.mem_outcomes_ahead, hmark]
  constructor
  · rintro ⟨_, ⟨hbefore, rfl⟩, _, ⟨rest, hrest, rfl⟩, _, ⟨hnot, rfl⟩, hcolon, rfl⟩
    exact ⟨(hopen rest hrest).mpr ⟨hbefore, hnot, hcolon⟩, rest, hrest, rfl⟩
  · rintro ⟨hat, rest, hrest, rfl⟩
    obtain ⟨hbefore, hnot, hcolon⟩ := (hopen rest hrest).mp hat
    exact ⟨c, ⟨hbefore, rfl⟩, _, ⟨rest, hrest, rfl⟩, _, ⟨hnot, rfl⟩, hcolon, rfl⟩

/-- Question marks of conditional expressions are counted where they stand. -/
theorem countedBy_ternary : ternary.CountedBy (counting ternaryAt) where
  found done rest d h := by
    obtain ⟨hat, later, hrest, rfl⟩ := mem_outcomes_ternary.mp (Pattern.outcome_of_findsAt h)
    obtain rfl : rest = '?' :: later := hrest
    have hone : counting ternaryAt done.getLast? ('?' :: later) = 1 := congrArg Bool.toNat hat
    refine ⟨['?'], later, rfl, List.length_append.symm, ?_⟩
    rw [Text.tallyFrom_cons, hone, List.getLast?_concat]
  missed done x rest := by
    refine Pattern.counting_eq_zero_of_missed (fun hat => ?_) fun e he => ?_
    · obtain ⟨later, hrest⟩ := exists_of_ternaryAt hat
      exact ⟨_, mem_outcomes_ternary.mpr ⟨hat, later, hrest, rfl⟩⟩
    · obtain ⟨-, rest', -, rfl⟩ := mem_outcomes_ternary.mp he
      exact Nat.lt_succ_self done.length

/-! ## Lines -/

theorem colonAhead_append_lineFeed (line rest : List Char) :
    colonAhead ('?' :: (line ++ '\n' :: rest)) = colonAhead ('?' :: line) := by
  by_cases hline : ':' ∈ line
  · obtain ⟨gap, later, rfl, hgap⟩ := List.eq_append_cons_of_mem hline
    rw [Bool.eq_iff_iff, List.append_assoc, List.cons_append, colonAhead_append hgap,
      colonAhead_append hgap]
  · rw [colonAhead_of_notMem hline, ← Bool.not_eq_true]
    intro h
    by_cases hrest : ':' ∈ rest
    · obtain ⟨gap, later, rfl, hgap⟩ := List.eq_append_cons_of_mem hrest
      have hcolon : ':' ∉ line ++ '\n' :: gap := by simp [hline, hgap]
      have hsplit : line ++ '\n' :: (gap ++ ':' :: later) =
          (line ++ '\n' :: gap) ++ ':' :: later := by
        rw [List.append_assoc, List.cons_append]
      rw [hsplit, colonAhead_append hcolon] at h
      exact h.1 (by simp)
    · rw [colonAhead_of_notMem (by simp [hline, hrest])] at h
      exact Bool.noConfusion h

theorem staysInLine_ternaryAt : StaysInLine (counting ternaryAt) where
  nil before := Text.counting_eq_zero fun h => by
    obtain ⟨rest, hrest⟩ := exists_of_ternaryAt h
    exact List.cons_ne_nil _ _ hrest.symm
  cut before line rest := by
    have hat : ternaryAt before (line ++ '\n' :: rest) = ternaryAt before line := by
      cases line with
      | nil => rfl
      | cons x line =>
        by_cases hx : x = '?'
        · rw [hx, Bool.eq_iff_iff, List.cons_append, ternaryAt_cons_iff, ternaryAt_cons_iff,
            Text.head?_append_lineFeed (by decide), colonAhead_append_lineFeed]
        · have hno : ∀ t, ternaryAt before (x :: t) = false := fun t => by
            rw [← Bool.not_eq_true]
            intro h
            obtain ⟨t', ht'⟩ := exists_of_ternaryAt h
            exact hx (List.cons.inj ht').1
          rw [List.cons_append, hno, hno]
    exact congrArg Bool.toNat hat
  start rest := rfl

/-- Decisions do not reach from one line into the next. -/
theorem tokens_append_lineFeed (s t : List Char) :
    tokens (s ++ '\n' :: t) = tokens s + tokens t := by
  have hdoubled : '\n' ∉ doubled := by decide
  have hword : ∀ w ∈ keywords, tally (counting (wordAt w.toList)) (s ++ '\n' :: t) =
      tally (counting (wordAt w.toList)) s + tally (counting (wordAt w.toList)) t := fun w hw =>
    (Text.staysInLine_wordAt (lineFeed_notMem_of_mem_keywords hw)
      (toList_ne_nil_of_mem_keywords hw)).tally_append s t
  have hrun : ∀ c ∈ doubled, tally (halfRun c) (s ++ '\n' :: t) =
      tally (halfRun c) s + tally (halfRun c) t := fun c hc =>
    (Text.staysInLine_halfRun fun heq => hdoubled (heq ▸ hc)).tally_append s t
  have hmember : tally (counting (standsAt ['?', '.'])) (s ++ '\n' :: t) =
      tally (counting (standsAt ['?', '.'])) s + tally (counting (standsAt ['?', '.'])) t :=
    (Text.staysInLine_standsAt (by decide) (by decide)).tally_append s t
  have hternary := staysInLine_ternaryAt.tally_append s t
  unfold tokens
  rw [List.map_congr_left hword, List.map_congr_left hrun, Number.total_map_add,
    Number.total_map_add, hmember, hternary]
  omega

/-! ## The estimate -/

/-- The patterns find as many decisions as there are. -/
theorem total_countHits (t : List Char) :
    Number.total (decisions.map (·.countHits t)) = tokens t := by
  have hword : ∀ w ∈ keywords, (wholeWord w).countHits t = tally (counting (wordAt w.toList)) t :=
    fun _ hw => (countedBy_wholeWord hw).countHits_eq t
  have hcondition : conditional.countHits t = tally (counting (wordAt "if".toList)) t :=
    countedBy_conditional.countHits_eq t
  have hdoubled : ∀ c, (Pattern.text [c, c]).countHits t = tally (halfRun c) t := fun c =>
    Pattern.countHits_doubled c t
  have hmember : (word "?.").countHits t = tally (counting (standsAt ['?', '.'])) t :=
    (Pattern.countedBy_standsAt (by decide)).countHits_eq t
  have hternary : ternary.countHits t = tally (counting ternaryAt) t :=
    countedBy_ternary.countHits_eq t
  unfold tokens decisions
  simp only [List.map_cons, List.map_nil, Number.total_cons, Number.total_nil]
  rw [hcondition, hword "while" (by decide), hword "for" (by decide), hword "foreach" (by decide),
    hword "case" (by decide), hword "catch" (by decide), hmember, hternary]
  have h1 : (word "??").countHits t = tally (halfRun '?') t := hdoubled '?'
  have h2 : (word "&&").countHits t = tally (halfRun '&') t := hdoubled '&'
  have h3 : (word "||").countHits t = tally (halfRun '|') t := hdoubled '|'
  rw [h1, h2, h3]
  unfold keywords doubled
  simp only [List.map_cons, List.map_nil, Number.total_cons, Number.total_nil]
  omega

/-- The estimate of a body is one more than the number of its decisions: whole words, halves of the
runs of doubled operators, and question marks that ask for a member or for one of two values. -/
theorem estimate_eq_tokens (body : List Char) : estimate body = 1 + tokens body := by
  unfold estimate
  rw [total_countHits]

/-- Lines that are appended add their decisions to the estimate. -/
theorem estimate_append_lineFeed (s t : List Char) :
    estimate (s ++ '\n' :: t) + 1 = estimate s + estimate t ∧
      estimate (s ++ '\n' :: t) = estimate s + tokens t := by
  have happend := tokens_append_lineFeed s t
  unfold estimate
  rw [total_countHits, total_countHits, total_countHits]
  omega

end SourceGrade.Complexity
