import SourceGrade.Proofs.Text.Lines
import SourceGrade.Text.Blank

set_option autoImplicit false

/-!
# Line ends of two characters

A text whose lines end in a line feed alone may come with a carriage return in front of each line
feed. `Text.crlf` is that text and `Text.crlfOffset` is where an offset moves to. The lines are the
same but for a carriage return at their end, which trimming takes away, and an offset stays on its
line.
-/

namespace SourceGrade.Text

/-- The text with a carriage return in front of each line feed. -/
def crlf (t : List Char) : List Char := t.flatMap fun c => if c = '\n' then ['\r', '\n'] else [c]

/-- What may follow a text: nothing, or the first half of a line end. -/
def IsTail (tail : List Char) : Prop := tail = [] ∨ tail = ['\r']

@[simp] theorem crlf_nil : crlf [] = [] := rfl

@[simp] theorem crlf_cons_lineFeed (t : List Char) : crlf ('\n' :: t) = '\r' :: '\n' :: crlf t :=
  rfl

theorem crlf_cons_of_ne {c : Char} (h : c ≠ '\n') (t : List Char) :
    crlf (c :: t) = c :: crlf t := by
  unfold crlf
  rw [List.flatMap_cons, if_neg h]
  rfl

@[simp] theorem crlf_append (s t : List Char) : crlf (s ++ t) = crlf s ++ crlf t :=
  List.flatMap_append

theorem crlf_ne_nil {t : List Char} (h : t ≠ []) : crlf t ≠ [] := by
  obtain ⟨c, t, rfl⟩ := List.exists_cons_of_ne_nil h
  by_cases hc : c = '\n'
  · subst hc
    exact List.cons_ne_nil _ _
  · rw [crlf_cons_of_ne hc]
    exact List.cons_ne_nil _ _

/-- A character of the text or a carriage return. -/
theorem eq_or_mem_of_mem_crlf {c : Char} {t : List Char} (h : c ∈ crlf t) : c = '\r' ∨ c ∈ t := by
  unfold crlf at h
  obtain ⟨d, hd, hc⟩ := List.mem_flatMap.mp h
  split at hc
  · rename_i hfeed
    rcases List.mem_cons.mp hc with rfl | hc
    · exact .inl rfl
    · rw [List.mem_singleton.mp hc, ← hfeed]
      exact .inr hd
  · rw [List.mem_singleton.mp hc]
    exact .inr hd

/-- What holds of carriage returns and of every character of the text holds of every character. -/
theorem forall_mem_crlf {t : List Char} {P : Char → Prop} (hreturn : P '\r') (h : ∀ c ∈ t, P c) :
    ∀ c ∈ crlf t, P c := by
  intro c hc
  rcases eq_or_mem_of_mem_crlf hc with rfl | hc
  · exact hreturn
  · exact h c hc

theorem getLast?_crlf (t : List Char) : (crlf t).getLast? = t.getLast? := by
  induction t using List.reverseRecOn with
  | nil => rfl
  | append_singleton t c _ =>
    rw [crlf_append, List.getLast?_append, List.getLast?_concat]
    by_cases hc : c = '\n'
    · subst hc; rfl
    · rw [crlf_cons_of_ne hc]; rfl

/-- A text without line feeds is left as it is. -/
theorem crlf_of_notMem {t : List Char} (h : '\n' ∉ t) : crlf t = t := by
  induction t with
  | nil => rfl
  | cons c t ih =>
    rw [List.mem_cons, not_or] at h
    rw [crlf_cons_of_ne (Ne.symm h.1), ih h.2]

theorem length_crlf (t : List Char) : (crlf t).length = t.length + lineFeeds t := by
  induction t with
  | nil => rfl
  | cons c t ih =>
    by_cases hc : c = '\n'
    · subst hc
      have hcount : lineFeeds ('\n' :: t) = lineFeeds t + 1 := List.count_cons_self
      rw [crlf_cons_lineFeed, List.length_cons, List.length_cons, List.length_cons, ih, hcount]
      omega
    · have hcount : lineFeeds (c :: t) = lineFeeds t := List.count_cons_of_ne hc
      rw [crlf_cons_of_ne hc, List.length_cons, List.length_cons, ih, hcount]
      omega

theorem lineFeeds_crlf (t : List Char) : lineFeeds (crlf t) = lineFeeds t := by
  induction t with
  | nil => rfl
  | cons c t ih =>
    unfold lineFeeds at ih ⊢
    by_cases hc : c = '\n'
    · subst hc
      rw [crlf_cons_lineFeed, List.count_cons_of_ne (by decide), List.count_cons_self,
        List.count_cons_self, ih]
    · rw [crlf_cons_of_ne hc, List.count_cons_of_ne hc, List.count_cons_of_ne hc, ih]

/-! ## Offsets -/

/-- Where an offset moves to: a line feed comes with two characters. -/
def crlfOffset (t : List Char) (i : Nat) : Nat := i + lineFeeds (t.take i)

theorem crlfOffset_append (s t : List Char) :
    crlfOffset (s ++ t) s.length = (crlf s).length := by
  unfold crlfOffset
  rw [List.take_left, length_crlf]

/-- The offsets of a piece are as far from its beginning as the piece is long. -/
theorem crlfOffset_add (t : List Char) (i n : Nat) :
    crlfOffset t (i + n) = crlfOffset t i + (n + lineFeeds ((t.drop i).take n)) := by
  unfold crlfOffset
  rw [List.take_add, lineFeeds_append]
  omega

theorem crlfOffset_append_add (s : List Char) {t : List Char} {n : Nat} (h : n ≤ t.length) :
    crlfOffset (s ++ t) (s.length + n) = (crlf s).length + (crlf (t.take n)).length := by
  rw [crlfOffset_add, crlfOffset_append, List.drop_left, length_crlf (t.take n), List.length_take,
    Nat.min_eq_left h]

theorem crlfOffset_lt {t : List Char} {i j : Nat} (h : i < j) :
    crlfOffset t i < crlfOffset t j := by
  obtain ⟨n, rfl⟩ := Nat.exists_eq_add_of_lt h
  rw [Nat.add_assoc, crlfOffset_add]
  omega

theorem crlfOffset_lt_iff {t : List Char} {i j : Nat} :
    crlfOffset t i < crlfOffset t j ↔ i < j := by
  refine ⟨fun h => Nat.lt_of_not_le fun hle => ?_, crlfOffset_lt⟩
  rcases Nat.lt_or_eq_of_le hle with hlt | rfl
  · exact absurd h (Nat.lt_asymm (crlfOffset_lt hlt))
  · exact absurd h (Nat.lt_irrefl _)

theorem crlf_take_append_drop (t : List Char) (i : Nat) :
    crlf t = crlf (t.take i) ++ crlf (t.drop i) := by
  rw [← crlf_append, List.take_append_drop]

/-- An offset moves to the end of what the piece before it becomes. -/
theorem crlfOffset_eq {t : List Char} {i : Nat} (h : i ≤ t.length) :
    crlfOffset t i = (crlf (t.take i)).length := by
  rw [length_crlf, List.length_take, Nat.min_eq_left h]
  rfl

theorem crlfOffset_le_length {t : List Char} {i : Nat} (h : i ≤ t.length) :
    crlfOffset t i ≤ (crlf t).length := by
  rw [crlfOffset_eq h, crlf_take_append_drop t i, List.length_append]
  exact Nat.le_add_right _ _

theorem take_crlf {t : List Char} {i : Nat} (h : i ≤ t.length) :
    (crlf t).take (crlfOffset t i) = crlf (t.take i) := by
  rw [crlfOffset_eq h, crlf_take_append_drop t i]
  exact List.take_left

theorem drop_crlf {t : List Char} {i : Nat} (h : i ≤ t.length) :
    (crlf t).drop (crlfOffset t i) = crlf (t.drop i) := by
  rw [crlfOffset_eq h, crlf_take_append_drop t i]
  exact List.drop_left

/-- An offset stays on its line. -/
theorem lineAt_crlf {t : List Char} {i : Nat} (h : i ≤ t.length) :
    lineAt (crlf t) (crlfOffset t i) = lineAt t i := by
  unfold lineAt
  rw [take_crlf h, lineFeeds_crlf]

/-! ## Lines and pieces -/

/-- Lines with a carriage return at the end of each but the last. -/
def withReturns : List (List Char) → List (List Char)
  | [] => []
  | [line] => [line]
  | line :: next :: rest => (line ++ ['\r']) :: withReturns (next :: rest)

theorem withReturns_cons (line : List Char) {rest : List (List Char)} (h : rest ≠ []) :
    withReturns (line :: rest) = (line ++ ['\r']) :: withReturns rest := by
  cases rest with
  | nil => exact absurd rfl h
  | cons next rest => rfl

theorem withReturns_modifyHead (c : Char) (lines : List (List Char)) :
    withReturns (lines.modifyHead (c :: ·)) = (withReturns lines).modifyHead (c :: ·) := by
  match lines with
  | [] => rfl
  | [_] => rfl
  | _ :: _ :: _ => rfl

theorem lines_crlf (t : List Char) : lines (crlf t) = withReturns (lines t) := by
  induction t with
  | nil => rw [crlf_nil, lines_nil]; rfl
  | cons c t ih =>
    by_cases hc : c = '\n'
    · subst hc
      rw [crlf_cons_lineFeed, lines_cons_of_ne (by decide), lines_cons_lineFeed,
        lines_cons_lineFeed, withReturns_cons [] (lines_ne_nil t), ih]
      rfl
    · rw [crlf_cons_of_ne hc, lines_cons_of_ne hc, lines_cons_of_ne hc, withReturns_modifyHead, ih]

/-- A function that does not see a carriage return at the end of a line sees the same lines. -/
theorem map_withReturns {α : Type} {f : List Char → α} (h : ∀ line, f (line ++ ['\r']) = f line)
    (lines : List (List Char)) : (withReturns lines).map f = lines.map f := by
  induction lines with
  | nil => rfl
  | cons line rest ih =>
    cases rest with
    | nil => rfl
    | cons next rest =>
      rw [withReturns_cons line (List.cons_ne_nil next rest), List.map_cons, List.map_cons, h, ih]

/-- Trimming takes a blank at the end away. -/
theorem trim_concat {c : Char} (h : isBlank c = true) (line : List Char) :
    trim (line ++ [c]) = trim line := by
  unfold trim trimBy
  rw [List.dropWhile_append]
  split
  · rename_i hempty
    rw [List.isEmpty_iff.mp hempty, List.dropWhile_cons_of_pos h]
    rfl
  · rw [List.reverse_append, List.reverse_singleton, List.singleton_append,
      List.dropWhile_cons_of_pos h]

theorem map_trim_lines_crlf (t : List Char) :
    (lines (crlf t)).map trim = (lines t).map trim := by
  rw [lines_crlf]
  exact map_withReturns (trim_concat (by decide)) (lines t)

/-- A carriage return and the line feed after it are one break between pieces. -/
theorem piecesFrom_crlf {t : List Char} (ht : '\r' ∉ t) (line : List Char) :
    piecesFrom line false (crlf t) = piecesFrom line false t := by
  induction t generalizing line with
  | nil => rfl
  | cons c t ih =>
    rw [List.mem_cons, not_or] at ht
    have hreturn : (c == '\r') = false := by simpa using Ne.symm ht.1
    by_cases hc : c = '\n'
    · subst hc
      have hbreak : isLineBreak '\r' = true ∧ isLineBreak '\n' = true := by decide
      simp [piecesFrom, hbreak, ih ht.2]
    · rw [crlf_cons_of_ne hc]
      simp only [piecesFrom, Bool.false_and, hreturn, ih ht.2]

theorem pieces_crlf {t : List Char} (ht : '\r' ∉ t) : pieces (crlf t) = pieces t :=
  piecesFrom_crlf ht []

/-- A reader that unifies line ends gets the text back. -/
theorem unifyLineEnds_crlf {t : List Char} (ht : '\r' ∉ t) : unifyLineEnds (crlf t) = t := by
  have hfold : ∀ done : List Char,
      (crlf t).foldl addUnified (done, false) = (t.reverse ++ done, false) := by
    induction t with
    | nil => intro done; rfl
    | cons c t ih =>
      intro done
      rw [List.mem_cons, not_or] at ht
      by_cases hc : c = '\n'
      · subst hc
        rw [crlf_cons_lineFeed, List.foldl_cons, List.foldl_cons]
        show (crlf t).foldl addUnified ('\n' :: done, false) = _
        rw [ih ht.2, List.reverse_cons, List.append_assoc]
        rfl
      · have hstep : addUnified (done, false) c = (c :: done, false) := by
          unfold addUnified
          rw [if_neg (fun h => hc h.1), if_neg (Ne.symm ht.1)]
        rw [crlf_cons_of_ne hc, List.foldl_cons, hstep, ih ht.2, List.reverse_cons,
          List.append_assoc]
        rfl
  unfold unifyLineEnds
  rw [hfold, List.append_nil, List.reverse_reverse]

end SourceGrade.Text
