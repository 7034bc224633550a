import Mathlib.Data.List.Basic
import SourceGrade.Proofs.Pattern.Put
import SourceGrade.Report.Markdown

set_option autoImplicit false

/-!
# What is put in front of escaped characters

The asterisks next to ink are escaped in two passes, and each of them puts one backslash in front of
a run of asterisks. The second pass takes the backslash of the first one for ink. So a run gets two
backslashes where there is ink after its first asterisk, and one where there is only ink before it:
`escapeChars_eq` says for every place of a text what is put there.
-/

namespace SourceGrade.Markdown

/-- A character that is not blank. -/
def isInk (c : Char) : Bool := !Text.isBlank c

/-- A run of asterisks begins. -/
def runBegins (before : Option Char) (rest : List Char) : Bool :=
  before != some '*' && rest.head? == some '*'

/-- There is ink directly after the first character. -/
def inkFollows (rest : List Char) : Bool := rest.tail.head?.any isInk

/-- A vertical bar or a backtick comes next. -/
def sealsNext (rest : List Char) : Bool := rest.head? == some '|' || rest.head? == some '\x60'

/-- The marks of vertical bars and backticks, and of runs of asterisks directly before ink. -/
def firstMarks (before : Option Char) (rest : List Char) : List Char :=
  if sealsNext rest || runBegins before rest && inkFollows rest then ['\\'] else []

/-- The marks of vertical bars, backticks and the asterisks next to ink. -/
def allMarks (before : Option Char) (rest : List Char) : List Char :=
  firstMarks before rest ++
    if runBegins before rest && (inkFollows rest || before.any isInk) then ['\\'] else []

/-- A text with marks in front of its characters, each seen from the character before it and the
text from it on. -/
def withMarks (marks : Option Char → List Char → List Char) : Option Char → List Char → List Char
  | _, [] => []
  | before, c :: rest => marks before (c :: rest) ++ c :: withMarks marks (some c) rest

variable {c d : Cursor} {done rest : List Char} {x : Char} {n : Nat} {before : Option Char}
  {marks : Option Char → List Char → List Char}

/-! ## Marks -/

theorem withMarks_cons (before : Option Char) (x : Char) (rest : List Char) :
    withMarks marks before (x :: rest) =
      marks before (x :: rest) ++ x :: withMarks marks (some x) rest := rfl

/-- No marks stand within a run of asterisks. -/
theorem withMarks_run (h : ∀ rest, marks (some '*') ('*' :: rest) = []) (before : Option Char)
    (n : Nat) (rest : List Char) :
    withMarks marks before (List.replicate (n + 1) '*' ++ rest) =
      marks before (List.replicate (n + 1) '*' ++ rest) ++
        (List.replicate (n + 1) '*' ++ withMarks marks (some '*') rest) := by
  have hinside : ∀ k, withMarks marks (some '*') (List.replicate k '*' ++ rest) =
      List.replicate k '*' ++ withMarks marks (some '*') rest := by
    intro k
    induction k with
    | zero => rfl
    | succ k ih =>
      rw [List.replicate_succ, List.cons_append, withMarks_cons, h, ih]
      rfl
  rw [List.replicate_succ, List.cons_append, withMarks_cons, hinside]
  rfl

theorem runBegins_cons (before : Option Char) (hx : x ≠ '*') (rest : List Char) :
    runBegins before (x :: rest) = false := by
  simp [runBegins, hx]

theorem runBegins_run (hbefore : before ≠ some '*') (n : Nat) (rest : List Char) :
    runBegins before (List.replicate (n + 1) '*' ++ rest) = true := by
  simp [runBegins, hbefore, List.replicate_succ]

theorem sealsNext_run (n : Nat) (rest : List Char) :
    sealsNext (List.replicate (n + 1) '*' ++ rest) = false := rfl

/-- All but the last asterisk of a run stand before ink, since the next one is. -/
theorem inkFollows_run (n : Nat) (rest : List Char) :
    inkFollows (List.replicate (n + 1) '*' ++ rest) = (n != 0 || rest.head?.any isInk) := by
  have hstar : isInk '*' = true := by decide
  cases n with
  | zero => rfl
  | succ n => exact hstar

theorem firstMarks_run (hbefore : before ≠ some '*') (n : Nat) (rest : List Char) :
    firstMarks before (List.replicate (n + 1) '*' ++ rest) =
      if n != 0 || rest.head?.any isInk then ['\\'] else [] := by
  unfold firstMarks
  rw [sealsNext_run, runBegins_run hbefore, inkFollows_run, Bool.false_or, Bool.true_and]

theorem allMarks_run (hbefore : before ≠ some '*') (n : Nat) (rest : List Char) :
    allMarks before (List.replicate (n + 1) '*' ++ rest) =
      firstMarks before (List.replicate (n + 1) '*' ++ rest) ++
        if n != 0 || rest.head?.any isInk || before.any isInk then ['\\'] else [] := by
  unfold allMarks
  rw [runBegins_run hbefore, inkFollows_run, Bool.true_and]

theorem firstMarks_star (rest : List Char) : firstMarks (some '*') ('*' :: rest) = [] := rfl

theorem allMarks_star (rest : List Char) : allMarks (some '*') ('*' :: rest) = [] := rfl

theorem firstMarks_cons (before : Option Char) (hx : x ≠ '*') (rest : List Char) :
    firstMarks before (x :: rest) ++ [x] = escapeChar x := by
  unfold firstMarks escapeChar sealsNext
  rw [runBegins_cons before hx, Bool.false_and, Bool.or_false, List.head?_cons]
  by_cases h : x = '|' ∨ x = '\x60'
  · simp [h]
  · simp [h]

theorem allMarks_cons (before : Option Char) (hx : x ≠ '*') (rest : List Char) :
    allMarks before (x :: rest) ++ [x] = escapeChar x := by
  have hmarks : allMarks before (x :: rest) = firstMarks before (x :: rest) := by
    unfold allMarks
    rw [runBegins_cons before hx, Bool.false_and]
    exact List.append_nil _
  rw [hmarks, firstMarks_cons before hx]

theorem withMarks_firstMarks_cons (before : Option Char) (hx : x ≠ '*') (rest : List Char) :
    withMarks firstMarks before (x :: rest) =
      escapeChar x ++ withMarks firstMarks (some x) rest := by
  rw [withMarks_cons, ← firstMarks_cons before hx rest, List.append_assoc, List.singleton_append]

theorem withMarks_allMarks_cons (before : Option Char) (hx : x ≠ '*') (rest : List Char) :
    withMarks allMarks before (x :: rest) = escapeChar x ++ withMarks allMarks (some x) rest := by
  rw [withMarks_cons, ← allMarks_cons before hx rest, List.append_assoc, List.singleton_append]

/-- All marks are backslashes. -/
theorem eq_backslash_of_mem_allMarks {c : Char} (h : c ∈ allMarks before rest) : c = '\\' := by
  unfold allMarks firstMarks at h
  rcases List.mem_append.mp h with h | h
  · split at h
    · exact List.mem_singleton.mp h
    · exact absurd h List.not_mem_nil
  · split at h
    · exact List.mem_singleton.mp h
    · exact absurd h List.not_mem_nil

/-! ## Vertical bars and backticks -/

theorem escapeChar_of_seals (h : x = '|' ∨ x = '\x60') : escapeChar x = ['\\', x] := if_pos h

theorem escapeChar_of_not (h : ¬(x = '|' ∨ x = '\x60')) : escapeChar x = [x] := if_neg h

/-- What an escaped character begins with is ink if the character is, and an asterisk only then. -/
theorem head?_flatMap_escapeChar (t : List Char) :
    (t.flatMap escapeChar).head?.any isInk = t.head?.any isInk ∧
      (t.head? ≠ some '*' → (t.flatMap escapeChar).head? ≠ some '*') := by
  cases t with
  | nil => exact ⟨rfl, id⟩
  | cons x t =>
    rw [List.flatMap_cons]
    by_cases h : x = '|' ∨ x = '\x60'
    · rw [escapeChar_of_seals h]
      have hink : isInk '\\' = isInk x := by
        rcases h with rfl | rfl <;> decide
      exact ⟨hink, fun _ => by simp⟩
    · rw [escapeChar_of_not h]
      exact ⟨rfl, id⟩

theorem forall_mem_escapeChar (hx : x ≠ '*') : ∀ y ∈ escapeChar x, y ≠ '*' := by
  intro y hy
  by_cases h : x = '|' ∨ x = '\x60'
  · rw [escapeChar_of_seals h] at hy
    rcases List.mem_pair.mp hy with rfl | rfl
    · decide
    · exact hx
  · rw [escapeChar_of_not h] at hy
    exact List.mem_singleton.mp hy ▸ hx

theorem getLast?_append_escapeChar (done : List Char) (x : Char) :
    (done ++ escapeChar x).getLast? = some x := by
  by_cases h : x = '|' ∨ x = '\x60'
  · rw [escapeChar_of_seals h, List.append_cons, List.getLast?_concat]
  · rw [escapeChar_of_not h, List.getLast?_concat]

theorem flatMap_escapeChar_run (n : Nat) (rest : List Char) :
    (List.replicate n '*' ++ rest).flatMap escapeChar =
      List.replicate n '*' ++ rest.flatMap escapeChar := by
  rw [List.flatMap_append]
  congr 1
  induction n with
  | zero => rfl
  | succ n ih => rw [List.replicate_succ, List.flatMap_cons, ih]; rfl

/-! ## Where asterisks are found -/

theorem isSome_search_one {ok : Char → Bool} :
    ((Pattern.one ok).search c some).isSome = c.rest.head?.any ok := by
  unfold Pattern.one
  rw [Pattern.search, Cursor.runStops_longestOnly_eq, Cursor.runLength_some]
  cases hrest : c.rest with
  | nil => rfl
  | cons x rest => cases hx : ok x <;> simp [hx]

theorem search_starsBefore :
    starsBefore.firstOutcome? c = (c.runStops (· == '*') 1 none .longestFirst).findSome?
      fun d => if d.rest.head?.any isInk then some d else none := by
  have hlater : ∀ d : Cursor, (Pattern.ahead (Pattern.one fun c => !Text.isBlank c)).search d some =
      if d.rest.head?.any isInk then some d else none := by
    intro d
    rw [Pattern.search, isSome_search_one]
    rfl
  unfold Pattern.firstOutcome? starsBefore Pattern.inOrder
  rw [Pattern.search]
  simp only [Pattern.inOrder, hlater]
  rfl

theorem search_starsAfter :
    starsAfter.firstOutcome? c =
      if c.before.any isInk then
        (c.runStops (· == '*') 1 none .longestFirst).findSome? some
      else none := rfl

theorem mem_outcomes_starsBefore (h : d ∈ starsBefore.outcomes c) :
    ∃ piece rest, c.rest = piece ++ rest ∧ (∀ x ∈ piece, (x == '*') = true) ∧ 1 ≤ piece.length ∧
      rest.head?.any isInk = true := by
  obtain ⟨e, he, hd⟩ := Pattern.mem_outcomes_seq.mp h
  obtain ⟨piece, rest, hrest, hstars, hlength, -, rfl⟩ :=
    (Cursor.mem_runStops_iff (by decide)).mp he
  obtain ⟨hink, -⟩ := Pattern.mem_outcomes_ahead.mp hd
  rw [isSome_search_one] at hink
  exact ⟨piece, rest, hrest, hstars, hlength, hink⟩

theorem mem_outcomes_starsAfter (h : d ∈ starsAfter.outcomes c) :
    c.before.any isInk = true ∧ c.rest.head? = some '*' := by
  obtain ⟨e, he, hd⟩ := Pattern.mem_outcomes_seq.mp h
  obtain ⟨hink, rfl⟩ := Pattern.mem_outcomes_after.mp he
  obtain ⟨piece, rest, hrest, hstars, hlength, -, -⟩ :=
    (Cursor.mem_runStops_iff (by decide)).mp hd
  obtain ⟨x, piece, rfl⟩ := List.exists_cons_of_length_pos hlength
  rw [hrest, List.cons_append, List.head?_cons, eq_of_beq (hstars x List.mem_cons_self)]
  exact ⟨hink, rfl⟩

theorem getLast?_append_run (done : List Char) (n : Nat) :
    (done ++ List.replicate (n + 1) '*').getLast? = some '*' := by
  rw [List.replicate_succ', ← List.append_assoc, List.getLast?_concat]

/-! ## The first pass -/

/-- Nothing is found at another character than an asterisk. -/
theorem not_findsAt_starsBefore (hx : x ≠ '*') (d : Cursor) :
    ¬starsBefore.FindsAt (done ++ x :: rest) done.length d := by
  intro h
  obtain ⟨piece, later, hrest, hstars, hlength, -⟩ :=
    mem_outcomes_starsBefore (Pattern.outcome_of_findsAt h)
  obtain ⟨y, piece, rfl⟩ := List.exists_cons_of_length_pos hlength
  obtain ⟨rfl, -⟩ := List.cons.inj hrest
  exact hx (eq_of_beq (hstars x List.mem_cons_self))

/-- Nothing is found at a single asterisk before a blank. -/
theorem not_findsAt_starsBefore_one (hhead : rest.head? ≠ some '*')
    (hink : ¬rest.head?.any isInk = true) (d : Cursor) :
    ¬starsBefore.FindsAt (done ++ '*' :: rest) done.length d := by
  intro h
  obtain ⟨piece, later, hrest, hstars, hlength, hlater⟩ :=
    mem_outcomes_starsBefore (Pattern.outcome_of_findsAt h)
  obtain ⟨y, piece, rfl⟩ := List.exists_cons_of_length_pos hlength
  obtain ⟨-, hrest⟩ := List.cons.inj hrest
  cases piece with
  | nil => exact hink (hrest ▸ hlater)
  | cons z piece =>
    have hz : z = '*' := eq_of_beq (hstars z (by simp))
    exact hhead (by rw [hrest, hz]; rfl)

/-- The first pass marks a run of asterisks if there is ink after the first of them. -/
theorem putFrom_starsBefore_run (hhead : rest.head? ≠ some '*') (done : List Char) (n : Nat) :
    starsBefore.putFrom ['\\'] done (List.replicate (n + 1) '*' ++ rest) =
      (if n != 0 || rest.head?.any isInk then ['\\'] else []) ++
        (List.replicate (n + 1) '*' ++
          starsBefore.putFrom ['\\'] (done ++ List.replicate (n + 1) '*') rest) := by
  -- A run is found whole before ink. Otherwise its last asterisk is left out, and with it the
  -- whole run if there is no other one.
  by_cases hink : rest.head?.any isInk = true
  · rw [hink, Bool.or_true, if_pos rfl]
    refine Pattern.putFrom_run_of_found ?_
    rw [search_starsBefore]
    exact Cursor.findSome?_run_eq hhead rfl (if_pos hink)
  · have hlast : starsBefore.putFrom ['\\'] (done ++ List.replicate n '*') ('*' :: rest) =
        '*' :: starsBefore.putFrom ['\\'] (done ++ List.replicate (n + 1) '*') rest := by
      rw [Pattern.putFrom_cons_of_missed (not_findsAt_starsBefore_one hhead hink),
        List.append_assoc, ← List.replicate_succ']
    have hsplit : List.replicate (n + 1) '*' ++ rest = List.replicate n '*' ++ '*' :: rest := by
      rw [List.replicate_succ', List.append_assoc]
      rfl
    cases n with
    | zero =>
      rw [List.replicate_zero, List.append_nil] at hlast
      rw [hsplit, List.replicate_zero, List.nil_append, hlast, if_neg (by simpa using hink)]
      rfl
    | succ n =>
      have hfound : starsBefore.firstOutcome? (.between done (List.replicate (n + 1) '*' ++
          '*' :: rest)) = some ⟨some '*', '*' :: rest, done.length + (n + 1), none⟩ := by
        have hstar : isInk '*' = true := by decide
        rw [search_starsBefore, ← hsplit]
        exact Cursor.findSome?_run_eq_of_none hhead rfl (if_neg hink) (if_pos hstar)
      rw [hsplit, Pattern.putFrom_run_of_found hfound, hlast, if_pos (by simp),
        List.replicate_succ' (n := n + 1), List.append_assoc (List.replicate (n + 1) '*')]
      rfl

/-- The first pass puts its marks where they are to be. -/
theorem putFrom_starsBefore (t : List Char) : ∀ done : List Char,
    (done.getLast? = some '*' → t.head? ≠ some '*') →
    starsBefore.putFrom ['\\'] done (t.flatMap escapeChar) =
      withMarks firstMarks done.getLast? t := by
  induction t using run_induction '*' with
  | nil => exact fun done _ => Pattern.putFrom_nil _ _ done
  | other x rest hx ih =>
    intro done _
    have hlast := getLast?_append_escapeChar done x
    have hlater := ih (done ++ escapeChar x)
      (by rw [hlast]; exact fun h => absurd (Option.some.inj h) hx)
    rw [hlast] at hlater
    rw [List.flatMap_cons, withMarks_firstMarks_cons _ hx, Pattern.putFrom_append_of_missed, hlater]
    exact fun c hc _ _ => not_findsAt_starsBefore (forall_mem_escapeChar hx c hc)
  | run n rest hhead ih =>
    intro done hstep
    obtain ⟨hink, hhead'⟩ := head?_flatMap_escapeChar rest
    have hbefore : done.getLast? ≠ some '*' := fun h => hstep h rfl
    rw [flatMap_escapeChar_run, withMarks_run firstMarks_star, firstMarks_run hbefore,
      putFrom_starsBefore_run (hhead' hhead), hink, ih _ fun _ => hhead, getLast?_append_run]

/-! ## The second pass -/

theorem not_findsAt_starsAfter (h : x ≠ '*' ∨ ¬done.getLast?.any isInk = true) (d : Cursor) :
    ¬starsAfter.FindsAt (done ++ x :: rest) done.length d := by
  intro hfound
  obtain ⟨hink, hhead⟩ := mem_outcomes_starsAfter (Pattern.outcome_of_findsAt hfound)
  rcases h with hx | hblank
  · exact hx (Option.some.inj hhead)
  · exact hblank hink

/-- What a marked text begins with is an asterisk only if the text begins with one. -/
theorem head?_withMarks_firstMarks (before : Option Char) {t : List Char}
    (h : t.head? ≠ some '*') : (withMarks firstMarks before t).head? ≠ some '*' := by
  cases t with
  | nil => exact h
  | cons x t =>
    rw [withMarks_cons]
    unfold firstMarks
    split
    · simp
    · exact h

/-- The second pass marks a run of asterisks after ink. A run that does not come after ink is not to
have more than one of them, since all but the first come after ink in any case. -/
theorem putFrom_starsAfter_run (hhead : rest.head? ≠ some '*') {done : List Char} {n : Nat}
    (h : n = 0 ∨ done.getLast?.any isInk = true) :
    starsAfter.putFrom ['\\'] done (List.replicate (n + 1) '*' ++ rest) =
      (if done.getLast?.any isInk then ['\\'] else []) ++
        (List.replicate (n + 1) '*' ++
          starsAfter.putFrom ['\\'] (done ++ List.replicate (n + 1) '*') rest) := by
  by_cases hink : done.getLast?.any isInk = true
  · rw [if_pos hink]
    refine Pattern.putFrom_run_of_found ?_
    rw [search_starsAfter]
    exact (if_pos hink).trans (Cursor.findSome?_run_eq hhead rfl rfl)
  · obtain rfl := h.resolve_right hink
    rw [if_neg hink]
    exact Pattern.putFrom_cons_of_missed (not_findsAt_starsAfter (.inr hink))

/-- The second pass adds its marks to those of the first. -/
theorem putFrom_starsAfter (t : List Char) : ∀ done : List Char,
    (done.getLast? = some '*' → t.head? ≠ some '*') →
    starsAfter.putFrom ['\\'] done (withMarks firstMarks done.getLast? t) =
      withMarks allMarks done.getLast? t := by
  induction t using run_induction '*' with
  | nil => exact fun done _ => Pattern.putFrom_nil _ _ done
  | other x rest hx ih =>
    intro done _
    have hlast := getLast?_append_escapeChar done x
    have hlater := ih (done ++ escapeChar x)
      (by rw [hlast]; exact fun h => absurd (Option.some.inj h) hx)
    rw [hlast] at hlater
    rw [withMarks_firstMarks_cons _ hx, withMarks_allMarks_cons _ hx,
      Pattern.putFrom_append_of_missed, hlater]
    exact fun c hc _ _ => not_findsAt_starsAfter (.inl (forall_mem_escapeChar hx c hc))
  | run n rest hhead ih =>
    intro done hstep
    have hbefore : done.getLast? ≠ some '*' := fun h => hstep h rfl
    have hhead' := head?_withMarks_firstMarks (some '*') hhead
    have hlater : ∀ done, starsAfter.putFrom ['\\'] (done ++ List.replicate (n + 1) '*')
        (withMarks firstMarks (some '*') rest) = withMarks allMarks (some '*') rest := by
      intro done
      have hrest := ih (done ++ List.replicate (n + 1) '*') fun _ => hhead
      rwa [getLast?_append_run] at hrest
    rw [withMarks_run firstMarks_star, withMarks_run allMarks_star, allMarks_run hbefore,
      firstMarks_run hbefore]
    by_cases hfollows : (n != 0 || rest.head?.any isInk) = true
    · -- The mark of the first pass is ink.
      have hink : (done ++ ['\\']).getLast?.any isInk = true := by
        rw [List.getLast?_concat]
        decide
      rw [hfollows, Bool.true_or, if_pos rfl, Pattern.putFrom_append_of_missed,
        putFrom_starsAfter_run hhead' (.inr hink), if_pos hink, hlater, List.append_assoc]
      intro c hc _ _
      exact not_findsAt_starsAfter (.inl (List.mem_singleton.mp hc ▸ by decide))
    · rw [Bool.not_eq_true] at hfollows
      have hone : n = 0 := by simpa using (Bool.or_eq_false_iff.mp hfollows).1
      rw [hfollows, Bool.false_or, if_neg Bool.false_ne_true, List.nil_append, List.nil_append,
        putFrom_starsAfter_run hhead' (.inl hone), hlater]

/-- What the two passes and the escapes before them make of a text. -/
theorem escapeChars_eq (t : List Char) : escapeChars t = withMarks allMarks none t := by
  have hfirst := putFrom_starsBefore t [] nofun
  have hsecond := putFrom_starsAfter t [] nofun
  unfold escapeChars
  rw [Pattern.putBefore_eq_putFrom, Pattern.putBefore_eq_putFrom, hfirst]
  exact hsecond

end SourceGrade.Markdown
