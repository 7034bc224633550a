import SourceGrade.Proofs.Text.Lines

set_option autoImplicit false

/-!
# The line of a piece

Where a text is cut anywhere, the last line of the first part and the first line of the second one
are one line of the whole, and its number is told by the line feeds before the cut. So the line on
which a piece begins is known from what stands around the piece.
-/

namespace SourceGrade.Text

/-- What follows the last line feed of a text. -/
def lastLine (t : List Char) : List Char := (lines t).getLast (lines_ne_nil t)

/-- What comes before the first line feed of a text. -/
def firstLine (t : List Char) : List Char := (lines t).head (lines_ne_nil t)

theorem firstLine_cons_lineFeed (t : List Char) : firstLine ('\n' :: t) = [] := rfl

/-- A piece without line feeds belongs to the line that follows it. -/
theorem firstLine_append {piece : List Char} (h : '\n' ∉ piece) (t : List Char) :
    firstLine (piece ++ t) = piece ++ firstLine t := by
  induction piece with
  | nil => rfl
  | cons c piece ih =>
    rw [List.mem_cons, not_or] at h
    have hlines := lines_cons_of_ne (Ne.symm h.1) (piece ++ t)
    have hrest := ih h.2
    unfold firstLine at hrest ⊢
    simp only [List.cons_append, hlines, List.head_modifyHead, hrest]

/-- The lines of a text that is cut somewhere: the one with the cut is put together. -/
theorem lines_append (s t : List Char) :
    lines (s ++ t) = (lines s).dropLast ++ (lastLine s ++ firstLine t) :: (lines t).tail := by
  induction s with
  | nil => exact (List.cons_head_tail (lines_ne_nil t)).symm
  | cons c s ih =>
    obtain ⟨first, rest, hs⟩ := List.exists_cons_of_ne_nil (lines_ne_nil s)
    by_cases hc : c = '\n'
    · subst hc
      have hlast : lastLine ('\n' :: s) = lastLine s := by
        unfold lastLine
        simp only [lines_cons_lineFeed]
        exact List.getLast_cons (lines_ne_nil s)
      rw [List.cons_append, lines_cons_lineFeed, ih, lines_cons_lineFeed, hlast, hs]
      rfl
    · unfold lastLine at ih ⊢
      simp only [List.cons_append, lines_cons_of_ne hc, ih, hs, List.modifyHead_cons]
      cases rest with
      | nil => rfl
      | cons second rest => rfl

/-- The line with a cut is numbered by the line feeds before the cut. -/
theorem getElem?_lines_append (s t : List Char) :
    (lines (s ++ t))[lineFeeds s]? = some (lastLine s ++ firstLine t) := by
  have hlength : (lines s).dropLast.length = lineFeeds s := by
    rw [List.length_dropLast, length_lines, Nat.add_sub_cancel]
  rw [lines_append, ← hlength, List.getElem?_append_right (Nat.le_refl _), Nat.sub_self]
  rfl

/-- The first line stands at the start of a text and every other one behind a line feed. -/
theorem head_prefix_and_tail_infix (t : List Char) :
    (lines t).head (lines_ne_nil t) <+: t ∧ ∀ line ∈ (lines t).tail, '\n' :: line <:+: t := by
  induction t with
  | nil => exact ⟨List.nil_prefix, nofun⟩
  | cons c t ih =>
    obtain ⟨first, rest, hlines⟩ := List.exists_cons_of_ne_nil (lines_ne_nil t)
    simp only [hlines, List.head_cons, List.tail_cons] at ih
    by_cases hc : c = '\n'
    · subst hc
      simp only [lines_cons_lineFeed, hlines, List.head_cons, List.tail_cons, List.forall_mem_cons]
      refine ⟨List.nil_prefix, ?_, fun line hline => List.infix_cons (ih.2 line hline)⟩
      exact (List.cons_prefix_cons.mpr ⟨rfl, ih.1⟩).isInfix
    · simp only [lines_cons_of_ne hc, hlines, List.modifyHead_cons, List.head_cons, List.tail_cons]
      exact ⟨List.cons_prefix_cons.mpr ⟨rfl, ih.1⟩,
        fun line hline => List.infix_cons (ih.2 line hline)⟩

/-- A line of a text is at its start or behind a line feed. -/
theorem prefix_or_infix_of_mem_lines {t line : List Char} (h : line ∈ lines t) :
    line <+: t ∨ '\n' :: line <:+: t := by
  obtain ⟨hhead, htail⟩ := head_prefix_and_tail_infix t
  rw [← List.cons_head_tail (lines_ne_nil t), List.mem_cons] at h
  rcases h with rfl | h
  · exact .inl hhead
  · exact .inr (htail line h)

/-! ## Pieces on a line -/

/-- The line of a number, counted from one, holds a piece. -/
def HoldsOnLine (t : List Char) (number : Int) (piece : List Char) : Prop :=
  ∃ i line, number = ((i + 1 : Nat) : Int) ∧ (lines t)[i]? = some line ∧ piece <:+: line

/-- Whether a piece stands on the line of an offset is seen from what stands around the offset. -/
theorem holdsOnLine_lineAt_iff {t piece : List Char} {start : Nat} :
    HoldsOnLine t (lineAt t start : Int) piece ↔
      piece <:+: lastLine (t.take start) ++ firstLine (t.drop start) := by
  have hline := getElem?_lines_append (t.take start) (t.drop start)
  rw [List.take_append_drop] at hline
  unfold lineAt
  constructor
  · rintro ⟨i, line, hnumber, hi, hpiece⟩
    obtain rfl : lineFeeds (t.take start) = i := by omega
    rw [hline, Option.some.injEq] at hi
    rwa [hi]
  · exact fun hpiece => ⟨_, _, rfl, hline, hpiece⟩

/-- A piece without line feeds stands on the line of its offset. -/
theorem holdsOnLine_lineAt {t piece : List Char} {start : Nat} (hpiece : '\n' ∉ piece)
    (h : piece <+: t.drop start) : HoldsOnLine t (lineAt t start : Int) piece := by
  obtain ⟨after, hafter⟩ := h
  rw [holdsOnLine_lineAt_iff, ← hafter, firstLine_append hpiece]
  exact ⟨lastLine (t.take start), firstLine after, List.append_assoc _ _ _⟩

/-- After a piece the line is as many lines further down as the piece has line feeds. -/
theorem lineAt_add_length {t piece : List Char} {start : Nat} (h : piece <+: t.drop start) :
    lineAt t (start + piece.length) = lineAt t start + lineFeeds piece := by
  obtain ⟨after, hafter⟩ := h
  unfold lineAt
  rw [List.take_add, ← hafter, List.take_left, lineFeeds_append, Nat.add_right_comm]

/-- A piece has no part in what follows if its characters are of a class that does not occur
there. -/
theorem infix_append_left_iff {ok : Char → Bool} {piece s t : List Char}
    (hpiece : ∀ c ∈ piece, ok c = true) (ht : ∀ c ∈ t, ok c = false) :
    piece <:+: s ++ t ↔ piece <:+: s := by
  have hnil : ∀ back : List Char, back ⊆ piece → back <:+: t → back = [] := by
    intro back hback hpart
    refine List.eq_nil_iff_forall_not_mem.mpr fun c hc => ?_
    have hyes := hpiece c (hback hc)
    rw [ht c (hpart.subset hc)] at hyes
    exact Bool.false_ne_true hyes
  refine ⟨fun h => ?_, fun h => h.trans (List.prefix_append s t).isInfix⟩
  rcases List.infix_append_iff.mp h with h | h | ⟨front, back, rfl, hfront, hback⟩
  · exact h
  · rw [hnil piece (List.Subset.refl _) h]
    exact List.nil_infix
  · rw [hnil back (List.subset_append_right front back) hback.isInfix, List.append_nil]
    exact hfront.isInfix

end SourceGrade.Text
