import SourceGrade.Proofs.Text.Lines
import SourceGrade.Text.Blank

set_option autoImplicit false

/-!
# Fields and pieces

A blank separates the fields before it from those after it, and a line feed the pieces before it
from those after it. So the fields of a line and the pieces of a text are found part by part, and
the last field of a line is that of its last part.
-/

namespace SourceGrade.Text

/-! ## Fields -/

/-- The complete fields that follow a text stand after those that are read from it. -/
theorem foldr_addToFields (s : List Char) (after : List (List Char)) :
    s.foldr addToFields ([], after) =
      ((s.foldr addToFields ([], [])).1, (s.foldr addToFields ([], [])).2 ++ after) := by
  induction s with
  | nil => rfl
  | cons c s ih =>
    rw [List.foldr_cons, ih, List.foldr_cons]
    unfold addToFields
    dsimp only
    split
    · split
      · rfl
      · rfl
    · rfl

/-- The fields are those that are complete and the one that is being read, if there is any. -/
theorem fields_eq (t : List Char) :
    fields t = (if (t.foldr addToFields ([], [])).1.isEmpty then []
      else [(t.foldr addToFields ([], [])).1]) ++ (t.foldr addToFields ([], [])).2 := by
  unfold fields
  split
  · rename_i hread
    rw [hread]
    rfl
  · rename_i field rest hne hread
    rw [hread, if_neg (fun hempty => hne (List.isEmpty_iff.mp hempty))]
    rfl

/-- A blank separates the fields before it from those after it. -/
theorem fields_append_blank {b : Char} (hb : isBlank b = true) (s t : List Char) :
    fields (s ++ b :: t) = fields s ++ fields t := by
  have hafter : addToFields b (t.foldr addToFields ([], [])) = ([], fields t) := by
    rw [fields_eq]
    unfold addToFields
    dsimp only
    rw [if_pos hb]
    split
    · rfl
    · rfl
  rw [fields_eq (s ++ b :: t), List.foldr_append, List.foldr_cons, hafter, foldr_addToFields,
    ← List.append_assoc, ← fields_eq]

/-- What is not empty and holds no blanks is one field. -/
theorem fields_of_ink {word : List Char} (hne : word ≠ [])
    (hink : ∀ c ∈ word, isBlank c = false) : fields word = [word] := by
  have hread : word.foldr addToFields ([], []) = (word, []) := by
    clear hne
    induction word with
    | nil => rfl
    | cons c word ih =>
      rw [List.forall_mem_cons] at hink
      rw [List.foldr_cons, ih hink.2]
      unfold addToFields
      rw [hink.1]
      rfl
  rw [fields_eq, hread, if_neg (mt List.isEmpty_iff.mp hne)]
  rfl

/-- There is a field where there is something that is not blank. -/
theorem fields_ne_nil {c : Char} (hc : isBlank c = false) (t : List Char) :
    fields (c :: t) ≠ [] := by
  rw [fields_eq, List.foldr_cons]
  unfold addToFields
  rw [hc]
  exact List.cons_ne_nil _ _

/-- The last field of a line is that of what follows a blank, if there is any. -/
theorem getLast?_fields_append {b c : Char} (hb : isBlank b = true) (hc : isBlank c = false)
    (s t : List Char) : (fields (s ++ b :: c :: t)).getLast? = (fields (c :: t)).getLast? := by
  rw [fields_append_blank hb, List.getLast?_append_of_ne_nil _ (fields_ne_nil hc t)]

theorem dropWhile_of_kept {drop : Char → Bool} {piece : List Char} (hne : piece ≠ [])
    (hkept : ∀ c ∈ piece, drop c = false) (rest : List Char) :
    (piece ++ rest).dropWhile drop = piece ++ rest := by
  obtain ⟨c, piece, rfl⟩ := List.exists_cons_of_ne_nil hne
  rw [List.cons_append, List.dropWhile_cons_of_neg (by simp [hkept c List.mem_cons_self])]

/-- Nothing is trimmed from a word that holds none of the characters that are dropped. -/
theorem trimBy_of_kept {drop : Char → Bool} {word : List Char} (hne : word ≠ [])
    (hkept : ∀ c ∈ word, drop c = false) : trimBy drop word = word := by
  have hfront := dropWhile_of_kept hne hkept []
  have hback := dropWhile_of_kept (mt List.reverse_eq_nil_iff.mp hne)
    (fun c hc => hkept c (List.mem_reverse.mp hc)) []
  rw [List.append_nil] at hfront hback
  unfold trimBy
  rw [hfront, hback, List.reverse_reverse]

/-- Two characters that are dropped are trimmed from around a word that holds none of them. -/
theorem trimBy_between {drop : Char → Bool} {first last : Char} {word : List Char}
    (hfirst : drop first = true) (hlast : drop last = true) (hne : word ≠ [])
    (hkept : ∀ c ∈ word, drop c = false) : trimBy drop (first :: (word ++ [last])) = word := by
  have hword := trimBy_of_kept hne hkept
  have hfront := dropWhile_of_kept hne hkept []
  rw [List.append_nil] at hfront
  unfold trimBy at hword ⊢
  rw [hfront] at hword
  rw [List.dropWhile_cons_of_pos hfirst, dropWhile_of_kept hne hkept, List.reverse_append,
    List.reverse_singleton, List.singleton_append, List.dropWhile_cons_of_pos hlast, hword]

/-! ## Pieces -/

/-- Every line break is a blank. -/
theorem isBlank_of_isLineBreak {c : Char} (h : isLineBreak c = true) : isBlank c = true := by
  unfold isLineBreak at h
  unfold isBlank
  simp only [Bool.or_eq_true, Bool.and_eq_true, decide_eq_true_eq, beq_iff_eq] at h ⊢
  omega

theorem isLineBreak_of_ink {c : Char} (h : isBlank c = false) : isLineBreak c = false := by
  by_contra hbreak
  rw [Bool.not_eq_false] at hbreak
  rw [isBlank_of_isLineBreak hbreak] at h
  exact Bool.noConfusion h

/-- Characters that end no line are added to the piece that is being read. -/
theorem piecesFrom_append {s : List Char} (hs : ∀ c ∈ s, isLineBreak c = false)
    (line t : List Char) :
    piecesFrom line false (s ++ t) = piecesFrom (s.reverse ++ line) false t := by
  induction s generalizing line with
  | nil => rfl
  | cons c s ih =>
    rw [List.forall_mem_cons] at hs
    rw [List.cons_append, piecesFrom, hs.1, List.reverse_cons, List.append_assoc]
    exact ih hs.2 (c :: line)

/-- What is not empty and holds no line breaks is one piece. -/
theorem pieces_of_forall_not_isLineBreak {s : List Char} (hne : s ≠ [])
    (hs : ∀ c ∈ s, isLineBreak c = false) : pieces s = [s] := by
  have hread := piecesFrom_append hs [] []
  rw [List.append_nil, List.append_nil] at hread
  unfold pieces
  rw [hread, piecesFrom, if_neg (by simpa using hne), List.reverse_reverse]

/-- The piece that is being read ends at the same place whatever comes before it. -/
theorem exists_piecesFrom {line : List Char} (hne : line ≠ []) (t : List Char) :
    ∃ rest others, ∀ before, piecesFrom (line ++ before) false t =
      (before.reverse ++ (line.reverse ++ rest)) :: others := by
  induction t generalizing line with
  | nil =>
    refine ⟨[], [], fun before => ?_⟩
    rw [piecesFrom, if_neg (by simp [hne]), List.append_nil, List.reverse_append]
  | cons c t ih =>
    by_cases hc : isLineBreak c = true
    · refine ⟨[], piecesFrom [] (c == '\r') t, fun before => ?_⟩
      rw [piecesFrom, if_neg (by simp), if_pos hc, List.append_nil, List.reverse_append]
    · obtain ⟨rest, others, hread⟩ := ih (List.cons_ne_nil c line)
      refine ⟨c :: rest, others, fun before => ?_⟩
      rw [piecesFrom, if_neg (by simp), if_neg hc]
      refine (hread before).trans ?_
      rw [List.reverse_cons, List.append_assoc line.reverse]
      rfl

/-- What comes before a character belongs to the piece of the character if no line ends there, and
changes nothing about what follows. -/
theorem exists_pieces_append {c : Char} (hc : isLineBreak c = false) (t : List Char) :
    ∃ rest others, ∀ before, (∀ x ∈ before, isLineBreak x = false) →
      pieces (before ++ c :: t) = (before ++ c :: rest) :: others := by
  obtain ⟨rest, others, hread⟩ := exists_piecesFrom (List.cons_ne_nil c []) t
  refine ⟨rest, others, fun before hbefore => ?_⟩
  unfold pieces
  rw [piecesFrom_append hbefore, List.append_nil, piecesFrom, if_neg (by simp), hc]
  refine (hread before.reverse).trans ?_
  rw [List.reverse_reverse]
  rfl

/-- Where nothing is found in an empty piece, a line feed separates what is found before it from
what is found after it. -/
theorem filterMap_piecesFrom_append {α : Type} {find? : List Char → Option α}
    (hempty : find? [] = none) (s t : List Char) {line : List Char} {joined : Bool}
    (hjoined : joined = true → line = []) :
    (piecesFrom line joined (s ++ '\n' :: t)).filterMap find? =
      (piecesFrom line joined s).filterMap find? ++ (pieces t).filterMap find? := by
  induction s generalizing line joined with
  | nil =>
    have hfeed : isLineBreak '\n' = true := by decide
    cases joined with
    | true =>
      rw [hjoined rfl]
      rfl
    | false =>
      have hread : piecesFrom line false ('\n' :: t) = line.reverse :: pieces t := by
        rw [piecesFrom, if_neg (by simp), if_pos hfeed]
        rfl
      rw [List.nil_append, hread, piecesFrom]
      cases line with
      | nil =>
        rw [List.reverse_nil, List.filterMap_cons_none hempty]
        rfl
      | cons c line =>
        rw [if_neg (by simp), ← List.filterMap_append]
        rfl
  | cons c s ih =>
    rw [List.cons_append, piecesFrom, piecesFrom]
    split
    · exact ih nofun
    · split
      · rw [List.filterMap_cons, List.filterMap_cons, ih fun _ => rfl]
        split
        · rfl
        · rfl
      · exact ih nofun

end SourceGrade.Text
