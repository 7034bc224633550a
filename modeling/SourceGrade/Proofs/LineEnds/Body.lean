import SourceGrade.Proofs.Function.Body
import SourceGrade.Proofs.LineEnds.Text

set_option autoImplicit false

/-!
# Bodies and line ends

A body depends on the text from its signature on alone: `Body.ofRest` takes it from there. In a text
whose lines end in two characters it is what the body becomes, if that is not longer than a scan
covers. A body that is not closed ends before a line feed and so with a carriage return.
-/

namespace SourceGrade.Body

open Text (crlf IsTail lineFeeds)

/-- The body of a function with the given rest of a text from its signature on. -/
def ofRest (s : List Char) (limit : Nat) : List Char :=
  match (closedLength? 0 false s).filter (· ≤ limit + 1) with
  | some n => s.take n
  | none => s.take (min ((s.findIdx? (· == '\n')).getD fallbackLength) (max limit fallbackLength))

/-- What is closed within a window is closed by a brace in it. -/
theorem closedLength?_take (depth : Int) (opened : Bool) (s : List Char) (n : Nat) :
    closedLength? depth opened (s.take n) = (closedLength? depth opened s).filter (· ≤ n) := by
  induction s generalizing depth opened n with
  | nil => rw [List.take_nil]; rfl
  | cons c s ih =>
    cases n with
    | zero =>
      rw [List.take_zero]
      unfold closedLength?
      dsimp only
      split
      · rfl
      · cases closedLength? (depth + braceStep c) (opened || c == '{') s <;> rfl
    | succ n =>
      rw [List.take_succ_cons]
      unfold closedLength?
      dsimp only
      split
      · rfl
      · rw [ih]
        cases closedLength? (depth + braceStep c) (opened || c == '{') s with
        | none => rfl
        | some m =>
          by_cases hm : m ≤ n
          · simp [Option.filter, hm]
          · simp [Option.filter, hm]

theorem slice_scanEnd {t : List Char} {start : Nat} (h : start ≤ t.length) (limit : Nat) :
    slice t start (scanEnd t.length start limit) = (t.drop start).take (limit + 1) := by
  have hwindow : scanEnd t.length start limit - start = min (t.drop start).length (limit + 1) := by
    unfold scanEnd
    rw [List.length_drop]
    omega
  unfold slice
  rw [hwindow, Nat.min_comm, ← List.take_take, List.take_length]

/-- The body that is looked up is that of the rest of the text. -/
theorem lookUp_eq_ofRest {t : List Char} {start : Nat} (h : start ≤ t.length) (limit : Nat) :
    lookUp t (BraceIndex.ofText t) (Text.LineIndex.ofText t) start limit =
      ofRest (t.drop start) limit := by
  have hclosed := closedLength?_slice t start (scanEnd t.length start limit)
  rw [slice_scanEnd h, closedLength?_take] at hclosed
  unfold lookUp ofRest
  rw [hclosed]
  cases (BraceIndex.ofText t).closing? start (scanEnd t.length start limit) with
  | some closer => rfl
  | none =>
    rw [lineEnd?_ofText]
    unfold restOfLine nextLineFeed? slice
    have hnat : max (limit : Int).toNat fallbackLength = max limit fallbackLength := rfl
    cases (t.drop start).findIdx? (· == '\n') with
    | none =>
      simp only [Option.map_none, Option.getD_none]
      rw [hnat, Nat.add_min_add_left, Nat.add_sub_cancel_left]
    | some j =>
      simp only [Option.map_some, Option.getD_some]
      rw [hnat, Nat.add_min_add_left, Nat.add_sub_cancel_left]
      rfl

/-- What closes a body closes it after the line ends have got two characters. -/
theorem closedLength?_crlf (depth : Int) (opened : Bool) (s : List Char) :
    closedLength? depth opened (crlf s) =
      (closedLength? depth opened s).map fun n => (crlf (s.take n)).length := by
  induction s generalizing depth opened with
  | nil => rfl
  | cons c s ih =>
    by_cases hc : c = '\n'
    · subst hc
      have hskip : ∀ (x : Char) (rest : List Char), x = '\r' ∨ x = '\n' →
          closedLength? depth opened (x :: rest) =
            (closedLength? depth opened rest).map (· + 1) := by
        rintro x rest (rfl | rfl) <;> simp [closedLength?, braceStep]
      rw [Text.crlf_cons_lineFeed, hskip _ _ (.inl rfl), hskip _ _ (.inr rfl), hskip _ _ (.inr rfl),
        ih, Option.map_map, Option.map_map, Option.map_map]
      rfl
    · rw [Text.crlf_cons_of_ne hc]
      unfold closedLength?
      dsimp only
      split
      · rw [Option.map_some, List.take_succ_cons, List.take_zero, Text.crlf_cons_of_ne hc]
        rfl
      · rw [ih, Option.map_map, Option.map_map]
        refine congrFun (congrArg Option.map (funext fun n => ?_)) _
        show (crlf (s.take n)).length + 1 = (crlf ((c :: s).take (n + 1))).length
        rw [List.take_succ_cons, Text.crlf_cons_of_ne hc, List.length_cons]

theorem findIdx?_lineFeed {line : List Char} (h : '\n' ∉ line) (rest : List Char) :
    (line ++ '\n' :: rest).findIdx? (· == '\n') = some line.length := by
  have hnone : line.findIdx? (· == '\n') = none := by
    rw [List.findIdx?_eq_none_iff]
    intro x hx
    exact beq_eq_false_iff_ne.mpr fun heq => h (heq ▸ hx)
  rw [List.findIdx?_append, hnone]
  simp [List.findIdx?_cons]

/-- The rest of the line ends with a carriage return, unless it is cut off or the line does not
end. -/
theorem take_findIdx_crlf (s : List Char) (default most : Nat) :
    ∃ tail, IsTail tail ∧
      (crlf s).take (min (((crlf s).findIdx? (· == '\n')).getD default) most) =
        crlf (s.take (min ((s.findIdx? (· == '\n')).getD default) most)) ++ tail := by
  by_cases hfeed : '\n' ∈ s
  · obtain ⟨line, rest, rfl, hline⟩ := List.eq_append_cons_of_mem hfeed
    have hcrlf : crlf (line ++ '\n' :: rest) = (line ++ ['\r']) ++ '\n' :: crlf rest := by
      rw [Text.crlf_append, Text.crlf_of_notMem hline, Text.crlf_cons_lineFeed]
      simp
    have hline' : '\n' ∉ line ++ ['\r'] := by simpa using hline
    have hpiece : ∀ n, '\n' ∉ line.take n := fun n hmem => hline (List.mem_of_mem_take hmem)
    rw [hcrlf, findIdx?_lineFeed hline', findIdx?_lineFeed hline, Option.getD_some,
      Option.getD_some, List.length_append, List.length_singleton]
    rcases Nat.lt_or_ge line.length most with hlt | hge
    · refine ⟨['\r'], .inr rfl, ?_⟩
      rw [Nat.min_eq_left hlt, Nat.min_eq_left (Nat.le_of_lt hlt), List.take_left,
        Text.crlf_of_notMem hline]
      exact List.take_left' (by simp)
    · refine ⟨[], .inl rfl, ?_⟩
      rw [Nat.min_eq_right (by omega), Nat.min_eq_right hge, List.append_assoc,
        List.take_append_of_le_length hge, List.take_append_of_le_length hge,
        Text.crlf_of_notMem (hpiece most), List.append_nil]
  · have hpiece : ∀ n, '\n' ∉ s.take n := fun n hmem => hfeed (List.mem_of_mem_take hmem)
    exact ⟨[], .inl rfl, by
      rw [Text.crlf_of_notMem hfeed, Text.crlf_of_notMem (hpiece _), List.append_nil]⟩

theorem closedLength?_le {depth : Int} {opened : Bool} {s : List Char} {n : Nat}
    (h : closedLength? depth opened s = some n) : n ≤ s.length := by
  obtain ⟨i, hi, rfl⟩ := (closedLength?_eq_some_iff s depth opened n).mp h
  exact (List.getElem?_eq_some_iff.mp hi.holds.brace).1

/-- The body in a text whose lines end in two characters. -/
theorem ofRest_crlf {s : List Char} {limit : Nat}
    (hroom : (crlf (ofRest s limit)).length ≤ limit + 1) :
    ∃ tail, IsTail tail ∧ ofRest (crlf s) limit = crlf (ofRest s limit) ++ tail := by
  have hrest := take_findIdx_crlf s fallbackLength (max limit fallbackLength)
  unfold ofRest at hroom ⊢
  rw [closedLength?_crlf]
  cases hclosed : closedLength? 0 false s with
  | none => exact hrest
  | some n =>
    have hlength : n ≤ (crlf (s.take n)).length := by
      rw [Text.length_crlf, List.length_take, Nat.min_eq_left (closedLength?_le hclosed)]
      exact Nat.le_add_right _ _
    rw [hclosed] at hroom
    by_cases hn : n ≤ limit + 1
    · -- The body is closed in time, and there is room for it.
      simp only [Option.filter_some, hn, decide_true, if_true, Option.map_some] at hroom ⊢
      refine ⟨[], .inl rfl, ?_⟩
      simp only [hroom, decide_true, if_true]
      rw [List.append_nil, Text.crlf_take_append_drop s n]
      exact List.take_left
    · have hn' : ¬(crlf (s.take n)).length ≤ limit + 1 := by omega
      simp only [Option.filter_some, hn, hn', decide_false, Option.map_some]
      exact hrest

end SourceGrade.Body
