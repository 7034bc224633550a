import Mathlib.Data.List.DropRight
import SourceGrade.Proofs.Text.Offsets
import SourceGrade.Text.Blank

set_option autoImplicit false

/-!
# The lines of a text

A text has one line more than it has line feeds. The line of an offset is counted in the same way
over the piece before the offset: `LineIndex.lineOf_ofText` says that the index of the line feeds
gives this count, so no offset lies beyond the last line.
-/

namespace SourceGrade.Text

/-! ## Line feeds -/

theorem lineFeeds_append (s t : List Char) : lineFeeds (s ++ t) = lineFeeds s + lineFeeds t :=
  List.count_append

/-- A part of a text has no more line feeds than the text. -/
theorem lineFeeds_le {s t : List Char} (h : s.Sublist t) : lineFeeds s ≤ lineFeeds t :=
  h.count_le '\n'

theorem length_offsetsWhere_endsIn (c : Char) (t : List Char) :
    (offsetsWhere (endsIn c) t).length = t.count c := by
  induction t using List.reverseRecOn with
  | nil => rfl
  | append_singleton t d ih =>
    rw [offsetsWhere_concat, List.length_append, ih, List.count_append, endsIn_concat]
    by_cases hd : d = c <;> simp [hd]

/-! ## The lines -/

theorem lines_nil : lines [] = [[]] := List.splitOn_nil '\n'

/-- A line feed ends a line. -/
theorem lines_cons_lineFeed (t : List Char) : lines ('\n' :: t) = [] :: lines t := rfl

/-- Any other character belongs to the line that follows it. -/
theorem lines_cons_of_ne {c : Char} (h : c ≠ '\n') (t : List Char) :
    lines (c :: t) = (lines t).modifyHead (c :: ·) := by
  have hc : ¬(c == '\n') = true := by simpa using h
  unfold lines List.splitOn
  rw [List.splitOnP_cons_eq_if_modifyHead, if_neg hc]

theorem length_lines (t : List Char) : (lines t).length = lineFeeds t + 1 := by
  induction t with
  | nil => rw [lines_nil]; rfl
  | cons c t ih =>
    by_cases hc : c = '\n'
    · subst hc
      rw [lines_cons_lineFeed, List.length_cons, ih]
      exact congrArg (· + 1) List.count_cons_self.symm
    · rw [lines_cons_of_ne hc, List.length_modifyHead, ih]
      exact congrArg (· + 1) (List.count_cons_of_ne hc).symm

theorem lines_ne_nil (t : List Char) : lines t ≠ [] := by
  rw [← List.length_pos_iff, length_lines]
  exact Nat.succ_pos _

/-- What is appended after a line feed is appended line by line. -/
theorem lines_append_lineFeed (s t : List Char) : lines (s ++ '\n' :: t) = lines s ++ lines t := by
  induction s with
  | nil => rw [List.nil_append, lines_cons_lineFeed, lines_nil]; rfl
  | cons c s ih =>
    by_cases hc : c = '\n'
    · subst hc
      rw [List.cons_append, lines_cons_lineFeed, lines_cons_lineFeed, ih, List.cons_append]
    · rw [List.cons_append, lines_cons_of_ne hc, lines_cons_of_ne hc, ih]
      cases hlines : lines s with
      | nil => exact absurd hlines (lines_ne_nil s)
      | cons line rest => rfl

/-- A text without line feeds is one line. -/
theorem lines_of_notMem {t : List Char} (h : '\n' ∉ t) : lines t = [t] := by
  induction t with
  | nil => exact lines_nil
  | cons c t ih =>
    rw [List.mem_cons, not_or] at h
    rw [lines_cons_of_ne (Ne.symm h.1), ih h.2]
    rfl

theorem lineFeed_notMem_of_mem_lines {t line : List Char} (h : line ∈ lines t) : '\n' ∉ line := by
  induction t generalizing line with
  | nil =>
    rw [lines_nil, List.mem_singleton] at h
    exact h ▸ List.not_mem_nil
  | cons c t ih =>
    by_cases hc : c = '\n'
    · subst hc
      rw [lines_cons_lineFeed, List.mem_cons] at h
      rcases h with rfl | h
      · exact List.not_mem_nil
      · exact ih h
    · rw [lines_cons_of_ne hc] at h
      cases hlines : lines t with
      | nil => exact absurd hlines (lines_ne_nil t)
      | cons first rest =>
        rw [hlines, List.modifyHead_cons, List.mem_cons] at h
        rcases h with rfl | h
        · rw [List.mem_cons, not_or]
          exact ⟨Ne.symm hc, ih (hlines ▸ List.mem_cons_self)⟩
        · exact ih (hlines ▸ List.mem_cons_of_mem first h)

/-- The characters of a line are those of the text. -/
theorem mem_of_mem_lines {t line : List Char} {c : Char} (hline : line ∈ lines t) (hc : c ∈ line) :
    c ∈ t := by
  induction t generalizing line with
  | nil =>
    rw [lines_nil, List.mem_singleton] at hline
    exact hline ▸ hc
  | cons x t ih =>
    by_cases hx : x = '\n'
    · subst hx
      rw [lines_cons_lineFeed, List.mem_cons] at hline
      rcases hline with rfl | hline
      · exact absurd hc List.not_mem_nil
      · exact List.mem_cons_of_mem _ (ih hline hc)
    · rw [lines_cons_of_ne hx] at hline
      obtain ⟨first, rest, hlines⟩ := List.exists_cons_of_ne_nil (lines_ne_nil t)
      rw [hlines, List.modifyHead_cons, List.mem_cons] at hline
      rcases hline with rfl | hline
      · rcases List.mem_cons.mp hc with rfl | hc
        · exact List.mem_cons_self
        · exact List.mem_cons_of_mem x (ih (hlines ▸ List.mem_cons_self) hc)
      · exact List.mem_cons_of_mem x (ih (hlines ▸ List.mem_cons_of_mem first hline) hc)

/-- A text without carriage returns has its line ends as they are to be. -/
theorem unifyLineEnds_of_notMem {t : List Char} (ht : '\r' ∉ t) : unifyLineEnds t = t := by
  have hfold : ∀ done : List Char,
      t.foldl addUnified (done, false) = (t.reverse ++ done, false) := by
    induction t with
    | nil => exact fun done => rfl
    | cons c t ih =>
      intro done
      rw [List.mem_cons, not_or] at ht
      have hstep : addUnified (done, false) c = (c :: done, false) := by
        unfold addUnified
        rw [if_neg (fun h => Bool.false_ne_true h.2), if_neg (Ne.symm ht.1)]
      rw [List.foldl_cons, hstep, ih ht.2, List.reverse_cons, List.append_assoc]
      rfl
  unfold unifyLineEnds
  rw [hfold, List.append_nil, List.reverse_reverse]

/-! ## Trimmed lines -/

/-- Trimming a trimmed text leaves it as it is. -/
theorem trim_trim (t : List Char) : trim (trim t) = trim t := by
  have htrim : ∀ s : List Char, trim s = (s.dropWhile isBlank).rdropWhile isBlank := fun _ => rfl
  have hbegin : (trim t).dropWhile isBlank = trim t := by
    rw [htrim]
    cases hb : (t.dropWhile isBlank).rdropWhile isBlank with
    | nil => rfl
    | cons x rest =>
      have hprefix := List.rdropWhile_prefix isBlank (t.dropWhile isBlank)
      rw [hb] at hprefix
      obtain ⟨after, hafter⟩ := hprefix
      have hx : isBlank x = false := by
        have hhead := List.head?_dropWhile_not isBlank t
        rw [← hafter, List.cons_append, List.head?_cons] at hhead
        exact hhead
      rw [List.dropWhile_cons_of_neg (by simp [hx])]
  rw [htrim (trim t), hbegin, htrim t, List.rdropWhile_idempotent]

theorem trim_sublist (t : List Char) : (trim t).Sublist t :=
  (List.rdropWhile_prefix isBlank _).sublist.trans (List.dropWhile_sublist isBlank)

theorem all_isBlank_dropWhile (t : List Char) :
    (t.dropWhile isBlank).all isBlank = t.all isBlank := by
  induction t with
  | nil => rfl
  | cons c t ih =>
    by_cases hc : isBlank c = true
    · rw [List.dropWhile_cons_of_pos hc, ih, List.all_cons, hc, Bool.true_and]
    · rw [List.dropWhile_cons_of_neg hc]

/-- Nothing is left of a text if and only if it holds nothing but blanks. -/
theorem isEmpty_trim (t : List Char) : (trim t).isEmpty = t.all isBlank := by
  have hall : ∀ s : List Char, (s.dropWhile isBlank).isEmpty = s.all isBlank := by
    intro s
    rw [Bool.eq_iff_iff, List.isEmpty_iff, List.dropWhile_eq_nil_iff, List.all_eq_true]
  unfold trim trimBy
  rw [List.isEmpty_reverse, hall, List.all_reverse, all_isBlank_dropWhile]

/-- What is dropped at the beginning takes nothing from a piece of characters that stay. -/
theorem infix_dropWhile_iff {drop : Char → Bool} {piece t : List Char} (hne : piece ≠ [])
    (hstays : ∀ c ∈ piece, drop c = false) : piece <:+: t.dropWhile drop ↔ piece <:+: t := by
  refine ⟨fun h => h.trans (List.dropWhile_suffix drop).isInfix, fun h => ?_⟩
  induction t with
  | nil => exact h
  | cons c t ih =>
    by_cases hc : drop c = true
    · rw [List.dropWhile_cons_of_pos hc]
      rcases List.infix_cons_iff.mp h with hprefix | hinfix
      · obtain ⟨x, piece, rfl⟩ := List.exists_cons_of_ne_nil hne
        rw [List.cons_prefix_cons] at hprefix
        rw [← hprefix.1, hstays x List.mem_cons_self] at hc
        exact absurd hc Bool.false_ne_true
      · exact ih hinfix
    · rwa [List.dropWhile_cons_of_neg hc]

/-- A piece without blanks lies in a text if and only if it lies in the trimmed text. -/
theorem infix_trim_iff {piece t : List Char} (hne : piece ≠ [])
    (hink : ∀ c ∈ piece, isBlank c = false) : piece <:+: trim t ↔ piece <:+: t := by
  have hreverse : piece.reverse ≠ [] := mt List.reverse_eq_nil_iff.mp hne
  have hinkreverse : ∀ c ∈ piece.reverse, isBlank c = false :=
    fun c hc => hink c (List.mem_reverse.mp hc)
  unfold trim trimBy
  rw [← List.reverse_infix, List.reverse_reverse, infix_dropWhile_iff hreverse hinkreverse,
    List.reverse_infix, infix_dropWhile_iff hne hink]

/-! ## The line of an offset -/

/-- The number of the line, from one, that holds an offset: one more than the number of the line
feeds before it. -/
def lineAt (t : List Char) (offset : Nat) : Nat := lineFeeds (t.take offset) + 1

theorem one_le_lineAt (t : List Char) (offset : Nat) : 1 ≤ lineAt t offset :=
  Nat.le_add_left 1 _

/-- The line of an offset does not depend on what follows. -/
theorem lineAt_append_left {t : List Char} {offset : Nat} (h : offset ≤ t.length)
    (later : List Char) : lineAt (t ++ later) offset = lineAt t offset := by
  unfold lineAt
  rw [List.take_append_of_le_length h]

/-- Every offset lies on one of the lines. -/
theorem lineAt_le_length_lines (t : List Char) (offset : Nat) :
    lineAt t offset ≤ (lines t).length := by
  rw [length_lines]
  exact Nat.succ_le_succ (lineFeeds_le (List.take_sublist offset t))

/-- A piece that begins at an offset ends on a line of the text. -/
theorem lineAt_add_lineFeeds_le {t piece : List Char} {offset : Nat}
    (h : piece <+: t.drop offset) : lineAt t offset + lineFeeds piece ≤ (lines t).length := by
  have hfeeds : lineFeeds (t.take offset) + lineFeeds (t.drop offset) = lineFeeds t := by
    rw [← lineFeeds_append, List.take_append_drop]
  have hpiece : lineFeeds piece ≤ lineFeeds (t.drop offset) := lineFeeds_le h.sublist
  rw [length_lines]
  unfold lineAt
  omega

/-- The index of the line feeds gives the line of an offset. -/
theorem LineIndex.lineOf_ofText (t : List Char) (offset : Nat) :
    (LineIndex.ofText t).lineOf offset = lineAt t offset := by
  unfold LineIndex.lineOf lineAt
  rw [Sorted.lowerBound_eq_countP (ascending_of_toList_eq (LineIndex.newlines_ofText t)),
    LineIndex.newlines_ofText, countP_offsetsWhere, length_offsetsWhere_endsIn]
  rfl

end SourceGrade.Text
