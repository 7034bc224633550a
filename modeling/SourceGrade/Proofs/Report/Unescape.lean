import SourceGrade.Proofs.Report.Escape

set_option autoImplicit false

/-!
# Reading escaped texts

Markdown shows a backslash and the character after it as that character, if it is one that can be
escaped. Vertical bars and backticks are shown as they were, and so are asterisks after ink. But
directly before ink an asterisk has two backslashes in front of it, of which one is shown.
-/

namespace SourceGrade.Markdown

variable {rest : List Char} {x : Char} {before : Option Char}
  {marks : Option Char → List Char → List Char}

/-! ## What is shown -/

/-- A backslash before such a character escapes it. -/
def isEscapable (c : Char) : Bool := c == '|' || c == '\x60' || c == '*' || c == '\\'

/-- The characters that Markdown shows of a text, each with whether it is escaped. -/
def read : List Char → List (Char × Bool)
  | '\\' :: c :: rest =>
    if isEscapable c then (c, true) :: read rest else ('\\', false) :: read (c :: rest)
  | c :: rest => (c, false) :: read rest
  | [] => []

/-- What Markdown shows of a text. -/
def unescape (t : List Char) : List Char := (read t).map (·.1)

theorem read_escaped (h : isEscapable x = true) (rest : List Char) :
    read ('\\' :: x :: rest) = (x, true) :: read rest := by
  rw [read, if_pos h]

theorem read_cons_of_ne (h : x ≠ '\\') (rest : List Char) :
    read (x :: rest) = (x, false) :: read rest := by
  rw [read]
  rintro c rest rfl
  exact absurd rfl h

/-- A backslash is left over in front of each run of asterisks directly before ink. -/
def leftMarks (before : Option Char) (rest : List Char) : List Char :=
  if runBegins before rest && inkFollows rest then ['\\'] else []

/-- What is shown of a character of an escaped text. Vertical bars, backticks, and asterisks that
begin a run after ink are escaped, but directly before ink it is the backslash of an asterisk that
is. -/
def shownAt (before : Option Char) (c : Char) (rest : List Char) : List (Char × Bool) :=
  if runBegins before (c :: rest) then
    if inkFollows (c :: rest) then [('\\', true), (c, false)] else [(c, before.any isInk)]
  else [(c, sealsNext (c :: rest))]

/-- What is shown of an escaped text, place by place. -/
def shown : Option Char → List Char → List (Char × Bool)
  | _, [] => []
  | before, c :: rest => shownAt before c rest ++ shown (some c) rest

theorem eq_star_of_runBegins (h : runBegins before (x :: rest) = true) : x = '*' := by
  unfold runBegins at h
  rw [Bool.and_eq_true, beq_iff_eq] at h
  exact Option.some.inj h.2

theorem sealsNext_cons_iff : sealsNext (x :: rest) = true ↔ x = '|' ∨ x = '\x60' := by
  simp [sealsNext]

/-- The marks of a character are read as what is shown of it. -/
theorem read_allMarks (hx : x ≠ '\\') (before : Option Char) (rest later : List Char) :
    read (allMarks before (x :: rest) ++ x :: later) = shownAt before x rest ++ read later := by
  unfold allMarks firstMarks shownAt
  by_cases hrun : runBegins before (x :: rest) = true
  · obtain rfl := eq_star_of_runBegins hrun
    have hseals : sealsNext ('*' :: rest) = false := rfl
    rw [hrun, hseals, Bool.false_or, Bool.true_and, Bool.true_and, if_pos rfl]
    by_cases hfollows : inkFollows ('*' :: rest) = true
    · rw [hfollows, Bool.true_or, if_pos rfl, if_pos rfl]
      exact (read_escaped (by decide) _).trans (congrArg _ (read_cons_of_ne hx later))
    · rw [Bool.not_eq_true] at hfollows
      rw [hfollows, Bool.false_or, if_neg Bool.false_ne_true, if_neg Bool.false_ne_true]
      cases hink : before.any isInk with
      | false => exact read_cons_of_ne hx later
      | true => exact read_escaped (by decide) later
  · rw [Bool.not_eq_true] at hrun
    rw [hrun, Bool.false_and, Bool.false_and, Bool.or_false, if_neg Bool.false_ne_true,
      if_neg Bool.false_ne_true]
    by_cases hseals : sealsNext (x :: rest) = true
    · have hescapable : isEscapable x = true := by
        rcases sealsNext_cons_iff.mp hseals with rfl | rfl <;> decide
      rw [hseals, if_pos rfl]
      exact read_escaped hescapable later
    · rw [Bool.not_eq_true] at hseals
      rw [hseals, if_neg Bool.false_ne_true]
      exact read_cons_of_ne hx later

/-- What is read of an escaped text is what is shown of it. -/
theorem read_withMarks (before : Option Char) {t : List Char} (h : '\\' ∉ t) :
    read (withMarks allMarks before t) = shown before t := by
  induction t generalizing before with
  | nil => rfl
  | cons c t ih =>
    rw [List.mem_cons, not_or] at h
    rw [withMarks_cons, shown, ← ih (some c) h.2, read_allMarks (Ne.symm h.1)]

theorem map_shown (before : Option Char) (t : List Char) :
    (shown before t).map (·.1) = withMarks leftMarks before t := by
  induction t generalizing before with
  | nil => rfl
  | cons c t ih =>
    rw [shown, withMarks_cons, List.map_append, ih]
    unfold leftMarks shownAt
    cases runBegins before (c :: t) with
    | false => rfl
    | true => cases inkFollows (c :: t) <;> rfl

/-- Vertical bars and backticks are shown escaped. -/
theorem escaped_of_mem_shown {r : Char × Bool} {t : List Char} (h : r ∈ shown before t)
    (hr : r.1 = '|' ∨ r.1 = '\x60') : r.2 = true := by
  induction t generalizing before with
  | nil => exact absurd h List.not_mem_nil
  | cons c t ih =>
    rw [shown, List.mem_append] at h
    rcases h with h | h
    · unfold shownAt at h
      by_cases hrun : runBegins before (c :: t) = true
      · obtain rfl := eq_star_of_runBegins hrun
        rw [if_pos hrun] at h
        have hother : r.1 = '\\' ∨ r.1 = '*' := by
          split at h
          · rcases List.mem_pair.mp h with rfl | rfl
            · exact .inl rfl
            · exact .inr rfl
          · exact .inr (congrArg (·.1) (List.mem_singleton.mp h))
        rcases hother with hother | hother <;> rw [hother] at hr <;> exact absurd hr (by decide)
      · rw [if_neg hrun, List.mem_singleton] at h
        subst h
        exact sealsNext_cons_iff.mpr hr
    · exact ih h

/-! ## Backslashes that are left over -/

theorem length_le_withMarks (marks : Option Char → List Char → List Char) (before : Option Char)
    (t : List Char) : t.length ≤ (withMarks marks before t).length := by
  induction t generalizing before with
  | nil => exact Nat.zero_le _
  | cons c t ih =>
    have hlater := ih (some c)
    rw [withMarks_cons, List.length_append, List.length_cons, List.length_cons]
    omega

/-- A character has no marks if the text is the same with all of them. -/
theorem withMarks_eq_cons_iff :
    withMarks marks before (x :: rest) = x :: rest ↔
      marks before (x :: rest) = [] ∧ withMarks marks (some x) rest = rest := by
  rw [withMarks_cons]
  constructor
  · intro h
    have hlength := congrArg List.length h
    have hle := length_le_withMarks marks (some x) rest
    rw [List.length_append, List.length_cons, List.length_cons] at hlength
    have hnil : marks before (x :: rest) = [] := List.length_eq_zero_iff.mp (by omega)
    rw [hnil, List.nil_append] at h
    exact ⟨hnil, List.tail_eq_of_cons_eq h⟩
  · rintro ⟨hnil, hlater⟩
    rw [hnil, hlater, List.nil_append]

/-- Nothing is left over where no asterisk stands directly before ink. -/
theorem withMarks_leftMarks_eq_iff (t : List Char) : ∀ before : Option Char,
    (before = some '*' → t.head? ≠ some '*') →
    (withMarks leftMarks before t = t ↔ ∀ i, t[i]? = some '*' → t[i + 1]?.any isInk = false) := by
  induction t using run_induction '*' with
  | nil => exact fun before _ => iff_of_true rfl nofun
  | other x rest hx ih =>
    intro before _
    have hmarks : leftMarks before (x :: rest) = [] := by
      unfold leftMarks
      rw [runBegins_cons before hx, Bool.false_and]
      rfl
    have hfirst : (x :: rest)[0]? = some '*' → (x :: rest)[0 + 1]?.any isInk = false := fun h =>
      absurd (Option.some.inj h) hx
    have hsplit := Nat.and_forall_add_one
      (p := fun i => (x :: rest)[i]? = some '*' → (x :: rest)[i + 1]?.any isInk = false)
    rw [withMarks_eq_cons_iff, ih (some x) fun h => absurd (Option.some.inj h) hx, ← hsplit]
    exact and_congr (iff_of_true hmarks hfirst) Iff.rfl
  | run n rest hhead ih =>
    intro before hstep
    have hbefore : before ≠ some '*' := fun h => hstep h rfl
    have hmarks : leftMarks before (List.replicate (n + 1) '*' ++ rest) =
        if n != 0 || rest.head?.any isInk then ['\\'] else [] := by
      unfold leftMarks
      rw [runBegins_run hbefore, inkFollows_run, Bool.true_and]
    have hsecond : (List.replicate (n + 1) '*' ++ rest)[0 + 1]?.any isInk =
        (n != 0 || rest.head?.any isInk) := by
      rw [← inkFollows_run, List.replicate_succ, List.cons_append, List.getElem?_cons_succ,
        ← List.head?_eq_getElem?]
      rfl
    rw [List.replicate_succ, List.cons_append] at hmarks hsecond ⊢
    by_cases hfollows : (n != 0 || rest.head?.any isInk) = true
    · rw [if_pos hfollows] at hmarks
      refine iff_of_false (fun h => ?_) fun h => ?_
      · exact List.cons_ne_nil _ _ (hmarks.symm.trans (withMarks_eq_cons_iff.mp h).1)
      · exact Bool.false_ne_true ((h 0 rfl).symm.trans (hsecond.trans hfollows))
    · rw [if_neg hfollows] at hmarks
      rw [Bool.not_eq_true] at hfollows
      obtain rfl : n = 0 := by simpa using (Bool.or_eq_false_iff.mp hfollows).1
      have hsplit := Nat.and_forall_add_one
        (p := fun i => ('*' :: rest)[i]? = some '*' → ('*' :: rest)[i + 1]?.any isInk = false)
      refine (withMarks_eq_cons_iff.trans ?_).trans hsplit
      exact and_congr (iff_of_true hmarks fun _ => hsecond.trans hfollows)
        (ih (some '*') fun _ => hhead)

/-- An escaped text without backslashes is read as it was, unless an asterisk stands directly before
ink in it: then the backslash in front of the run of asterisks is shown with them. -/
theorem read_back {s : String} (h : '\\' ∉ s.toList) :
    read (escape s).toList = shown none s.toList ∧
      (∀ r ∈ read (escape s).toList, r.1 = '|' ∨ r.1 = '\x60' → r.2 = true) ∧
      unescape (escape s).toList = withMarks leftMarks none s.toList ∧
      (unescape (escape s).toList = s.toList ↔
        ∀ i, s.toList[i]? = some '*' → s.toList[i + 1]?.any isInk = false) := by
  have hread : read (escape s).toList = shown none s.toList := by
    unfold escape
    rw [String.toList_ofList, escapeChars_eq, read_withMarks none h]
  have hshown : unescape (escape s).toList = withMarks leftMarks none s.toList := by
    unfold unescape
    rw [hread, map_shown]
  refine ⟨hread, fun r hr hseals => ?_, hshown, ?_⟩
  · rw [hread] at hr
    exact escaped_of_mem_shown hr hseals
  · rw [hshown]
    exact withMarks_leftMarks_eq_iff s.toList none nofun

/-- Here the asterisks stand alone or at the end of a word. -/
theorem read_back_footnote :
    '\\' ∉ "a|b * c*".toList ∧ escape "a|b * c*" = "a\\|b * c\\*" ∧
      unescape (escape "a|b * c*").toList = "a|b * c*".toList := by
  have hplain : '\\' ∉ "a|b * c*".toList := by decide
  obtain ⟨-, -, hshown, -⟩ := read_back hplain
  refine ⟨hplain, by decide, ?_⟩
  rw [hshown]
  decide

/-- An asterisk before a letter is shown with a backslash. -/
theorem star_before_letter_shown_with_backslash :
    ¬∀ s : String, '\\' ∉ s.toList → unescape (escape s).toList = s.toList := by
  intro h
  have hstar := h "*a" (by decide)
  exact absurd hstar (by decide)

end SourceGrade.Markdown
