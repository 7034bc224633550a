import SourceGrade.Metric.Smell
import SourceGrade.Proofs.Pattern.Hits
import SourceGrade.Proofs.Pattern.Outcomes
import SourceGrade.Proofs.Text.Digit

set_option autoImplicit false

/-!
# Operands

What `Smell.operand` finds, said without the pattern: `OperandAt` asks for an operator, blanks, and
at least two digits that no word character follows. A text is cut into these parts in only one way
from any place, and an operator never begins within an earlier operand, so the hits of the pattern
are exactly the operands of the text.
-/

namespace SourceGrade.Smell

open Pattern (word anyOf)
open Text (isBlank isDigit isWord)

/-- The operators of comparison and arithmetic. -/
def operators : List String := ["==", "!=", ">=", "<=", ">", "<", "+", "-", "*", "/"]

/-- A text begins with an operand of the given parts. -/
structure BeginsOperand (t op gap digits rest : List Char) : Prop where
  /-- The text is made of the parts. -/
  text : t = op ++ (gap ++ (digits ++ rest))
  /-- The first part is an operator. -/
  operator : op ∈ operators.map String.toList
  /-- Nothing but blanks stands after it. -/
  blank : ∀ c ∈ gap, isBlank c = true
  /-- The number is written in digits. -/
  digit : ∀ c ∈ digits, isDigit c = true
  /-- There are at least two of them. -/
  two_le : 2 ≤ digits.length
  /-- The word ends with the number. -/
  edge : rest.head?.any isWord = false

/-- The given digits are an operand at an offset of a text. -/
def OperandAt (t : List Char) (start : Nat) (digits : List Char) : Prop :=
  ∃ op gap rest, BeginsOperand (t.drop start) op gap digits rest

/-! ## The characters of operators -/

theorem operator_not_blank :
    ∀ op ∈ operators.map String.toList, ∀ c ∈ op, isBlank c = false ∧ isDigit c = false := by
  have hall : (operators.all fun w => w.toList.all fun c => !isBlank c && !isDigit c) = true := by
    decide +kernel
  intro op hop c hc
  obtain ⟨w, hw, rfl⟩ := List.mem_map.mp hop
  have hboth := List.all_eq_true.mp (List.all_eq_true.mp hall w hw) c hc
  rw [Bool.and_eq_true, Bool.not_eq_true', Bool.not_eq_true'] at hboth
  exact hboth

theorem operator_second :
    ∀ op ∈ operators.map String.toList,
      op.length = 1 ∨ op.length = 2 ∧ op[1]? = some '=' := by
  decide +kernel

theorem operator_of_equals :
    ∀ op ∈ operators.map String.toList, op[0]? = some '=' → op = ['=', '='] := by
  decide +kernel

theorem operator_eq_or_equals :
    ∀ op ∈ operators.map String.toList, ∀ op' ∈ operators.map String.toList,
      op <+: op' → op = op' ∨ op'[op.length]? = some '=' := by
  decide +kernel

/-! ## The parts of an operand -/

theorem takeWhile_run {ok : Char → Bool} {run rest : List Char} (hrun : ∀ c ∈ run, ok c = true)
    (hrest : rest.head?.any ok = false) : (run ++ rest).takeWhile ok = run := by
  rw [List.takeWhile_append_of_pos hrun]
  cases rest with
  | nil => simp
  | cons c rest =>
    have hc : ok c = false := by simpa using hrest
    simp [hc]

namespace BeginsOperand

variable {t op gap digits rest op' gap' digits' rest' : List Char}

theorem digits_ne_nil (h : BeginsOperand t op gap digits rest) : digits ≠ [] := by
  intro hnil
  have := h.two_le
  rw [hnil] at this
  exact absurd this (by decide)

/-- No digit follows the number. -/
theorem rest_not_digit (h : BeginsOperand t op gap digits rest) :
    rest.head?.any isDigit = false := by
  have hedge := h.edge
  cases rest with
  | nil => rfl
  | cons c rest =>
    simp only [List.head?_cons, Option.any_some] at hedge ⊢
    by_contra hc
    rw [Bool.not_eq_false] at hc
    rw [Text.isWord_of_isDigit hc] at hedge
    exact Bool.noConfusion hedge

/-- No blank stands where the number begins. -/
theorem digits_not_blank (h : BeginsOperand t op gap digits rest) :
    (digits ++ rest).head?.any isBlank = false := by
  obtain ⟨c, digits, rfl⟩ := List.exists_cons_of_ne_nil h.digits_ne_nil
  have hc := Text.isBlank_of_isDigit (h.digit c List.mem_cons_self)
  simpa using hc

/-- After the operator and before the end of the number stand blanks and digits only. -/
theorem blank_or_digit (h : BeginsOperand t op gap digits rest) {k : Nat} {c : Char}
    (hle : op.length ≤ k) (hlt : k < op.length + gap.length + digits.length)
    (hk : t[k]? = some c) : isBlank c = true ∨ isDigit c = true := by
  rw [h.text, List.getElem?_append_right hle, ← List.append_assoc,
    List.getElem?_append_left (by rw [List.length_append]; omega)] at hk
  rcases List.mem_append.mp (List.mem_of_getElem? hk) with hmem | hmem
  · exact .inl (h.blank c hmem)
  · exact .inr (h.digit c hmem)

/-- The operator is not a part of a longer one, because no operator has a blank or a digit in it. -/
theorem operator_le (h : BeginsOperand t op gap digits rest)
    (h' : BeginsOperand t op' gap' digits' rest') (hle : op.length ≤ op'.length) : op = op' := by
  have hbegins : op <+: t := ⟨_, h.text.symm⟩
  have hbegins' : op' <+: t := ⟨_, h'.text.symm⟩
  have hpart : op <+: op' := List.prefix_of_prefix_length_le hbegins hbegins' hle
  rcases operator_eq_or_equals op h.operator op' h'.operator hpart with heq | hnext
  · exact heq
  · have hlt : op.length < op'.length := (List.getElem?_eq_some_iff.mp hnext).1
    have hchar : t[op.length]? = some '=' := by
      rw [h'.text, List.getElem?_append_left hlt, hnext]
    have hdigits : 0 < digits.length := List.length_pos_of_ne_nil h.digits_ne_nil
    rcases h.blank_or_digit (Nat.le_refl _) (by omega) hchar with hc | hc
    · exact absurd hc (by decide)
    · exact absurd hc (by decide)

/-- A text is cut into the parts of an operand in one way. -/
theorem unique (h : BeginsOperand t op gap digits rest)
    (h' : BeginsOperand t op' gap' digits' rest') :
    op = op' ∧ gap = gap' ∧ digits = digits' ∧ rest = rest' := by
  have hop : op = op' := by
    rcases Nat.le_total op.length op'.length with hle | hle
    · exact h.operator_le h' hle
    · exact (h'.operator_le h hle).symm
  subst hop
  have hafter : gap ++ (digits ++ rest) = gap' ++ (digits' ++ rest') :=
    List.append_cancel_left (h.text.symm.trans h'.text)
  have hgap : gap = gap' := by
    rw [← takeWhile_run h.blank h.digits_not_blank, hafter,
      takeWhile_run h'.blank h'.digits_not_blank]
  subst hgap
  have hnumber : digits ++ rest = digits' ++ rest' := List.append_cancel_left hafter
  have hdigits : digits = digits' := by
    rw [← takeWhile_run h.digit h.rest_not_digit, hnumber,
      takeWhile_run h'.digit h'.rest_not_digit]
  subst hdigits
  exact ⟨rfl, rfl, rfl, List.append_cancel_left hnumber⟩

end BeginsOperand

/-! ## The pattern -/

/-- Where the pattern ends when the text goes on with an operand. -/
def operandEnd (c : Cursor) (op gap digits rest : List Char) : Cursor :=
  ⟨digits.getLast?, rest, c.offset + op.length + gap.length + digits.length, some digits⟩

theorem operandEnd_eq {c : Cursor} {digits : List Char} (hne : digits ≠ [])
    (op gap r₁ r₂ rest : List Char) :
    { ((c.past op r₁).past gap r₂).past digits rest with marked := some digits } =
      operandEnd c op gap digits rest := by
  unfold Cursor.past operandEnd
  rw [List.getLast?_eq_some_getLast hne, Option.some_or]

/-- A word ends with an operand if no word character follows it. -/
theorem atWordEdge_operandEnd {c : Cursor} {op gap digits rest : List Char}
    (hdigit : ∀ x ∈ digits, isDigit x = true) (hne : digits ≠ []) :
    (operandEnd c op gap digits rest).atWordEdge = !rest.head?.any isWord := by
  have hword : isWord (digits.getLast hne) = true :=
    Text.isWord_of_isDigit (hdigit _ (List.getLast_mem hne))
  unfold Cursor.atWordEdge operandEnd
  rw [List.getLast?_eq_some_getLast hne, Option.any_some, hword]
  cases rest.head?.any isWord <;> rfl

theorem mem_outcomes_digits {c d : Cursor} :
    d ∈ Pattern.outcomes (.run isDigit 2 none .longestFirst) c ↔
      ∃ digits rest, c.rest = digits ++ rest ∧ (∀ x ∈ digits, isDigit x = true) ∧
        2 ≤ digits.length ∧ d = c.past digits rest := by
  unfold Pattern.outcomes
  rw [Cursor.mem_runStops_iff (by decide)]
  simp

/-- The pattern passes over an operand and marks its digits. -/
theorem mem_outcomes_operand {c d : Cursor} :
    d ∈ operand.outcomes c ↔ ∃ op gap digits rest,
      BeginsOperand c.rest op gap digits rest ∧ d = operandEnd c op gap digits rest := by
  have hops : anyOf [word "==", word "!=", word ">=", word "<=", word ">", word "<", word "+",
      word "-", word "*", word "/"] = anyOf (operators.map word) := rfl
  unfold operand Pattern.inOrder Pattern.inOrder Pattern.inOrder Pattern.inOrder
  rw [hops]
  simp only [Pattern.mem_outcomes_seq, Pattern.mem_outcomes_anyOf_word, Language.blanks,
    Pattern.mem_outcomes_many, Pattern.mem_outcomes_mark, Pattern.mem_outcomes_wordEdge,
    mem_outcomes_digits]
  constructor
  · rintro ⟨-, ⟨w, hw, r₁, h₁, rfl⟩, -, ⟨gap, r₂, h₂, hgap, rfl⟩, -,
      ⟨-, ⟨digits, r₃, h₃, hdigit, htwo, rfl⟩, rfl⟩, hedge, rfl⟩
    have hne : digits ≠ [] := List.ne_nil_of_length_pos (by omega)
    rw [Cursor.marking_past h₃, operandEnd_eq hne] at hedge ⊢
    rw [atWordEdge_operandEnd hdigit hne, Bool.not_eq_true'] at hedge
    refine ⟨w.toList, gap, digits, r₃, ?_, rfl⟩
    exact {
      text := by rw [h₁, ← h₃]; exact congrArg (w.toList ++ ·) h₂
      operator := List.mem_map_of_mem hw
      blank := hgap
      digit := hdigit
      two_le := htwo
      edge := hedge }
  · rintro ⟨op, gap, digits, rest, h, rfl⟩
    obtain ⟨w, hw, rfl⟩ := List.mem_map.mp h.operator
    refine ⟨_, ⟨w, hw, _, h.text, rfl⟩, _, ⟨gap, _, rfl, h.blank, rfl⟩, _,
      ⟨_, ⟨digits, rest, rfl, h.digit, h.two_le, rfl⟩, rfl⟩, ?_⟩
    rw [Cursor.marking_past rfl, operandEnd_eq h.digits_ne_nil,
      atWordEdge_operandEnd h.digit h.digits_ne_nil, h.edge]
    exact ⟨rfl, rfl⟩

/-- The pattern finds an operand from wherever one begins. -/
theorem firstOutcome?_operand {c d : Cursor} :
    operand.firstOutcome? c = some d ↔ ∃ op gap digits rest,
      BeginsOperand c.rest op gap digits rest ∧ d = operandEnd c op gap digits rest := by
  rw [Pattern.firstOutcome?_eq_head?]
  constructor
  · exact fun h => mem_outcomes_operand.mp (List.mem_of_head? h)
  · rintro ⟨op, gap, digits, rest, h, rfl⟩
    have hmem := mem_outcomes_operand.mpr ⟨op, gap, digits, rest, h, rfl⟩
    cases hall : operand.outcomes c with
    | nil =>
      rw [hall] at hmem
      exact absurd hmem List.not_mem_nil
    | cons e others =>
      obtain ⟨op', gap', digits', rest', h', rfl⟩ :=
        mem_outcomes_operand.mp (hall ▸ List.mem_cons_self : e ∈ operand.outcomes c)
      obtain ⟨rfl, rfl, rfl, rfl⟩ := h.unique h'
      rfl

/-! ## The operands of a text -/

theorem findsAt_operand {t : List Char} {i : Nat} {d : Cursor} :
    operand.FindsAt t i d ↔ ∃ op gap digits rest,
      BeginsOperand (t.drop i) op gap digits rest ∧
        d = operandEnd (.atOffset t i) op gap digits rest := by
  constructor
  · exact fun h => firstOutcome?_operand.mp h.found
  · rintro ⟨op, gap, digits, rest, h, rfl⟩
    have htwo := h.two_le
    have hlength := congrArg List.length h.text
    simp only [List.length_drop, List.length_append] at hlength
    refine ⟨firstOutcome?_operand.mpr ⟨op, gap, digits, rest, h, rfl⟩, ?_, by omega⟩
    show i < i + op.length + gap.length + digits.length
    omega

/-- No operand begins within another one. -/
theorem not_begins_within {t op gap digits rest op' gap' digits' rest' : List Char} {k : Nat}
    (h : BeginsOperand t op gap digits rest)
    (h' : BeginsOperand (t.drop k) op' gap' digits' rest')
    (hpos : 0 < k) (hlt : k < op.length + gap.length + digits.length) : False := by
  have htwo := h.two_le
  have hop := operator_second op h.operator
  have hlength : 0 < op'.length := by
    rcases operator_second op' h'.operator with h₁ | h₂ <;> omega
  have hchar : ∀ (i : Nat), i < op'.length → t[k + i]? = op'[i]? := fun i hi => by
    rw [← List.getElem?_drop, h'.text, List.getElem?_append_left hi]
  -- The first character of an operator is neither blank nor a digit, so it lies in the operator.
  have hfirst : t[k]? = some op'[0] := by
    rw [← Nat.add_zero k, hchar 0 hlength, List.getElem?_eq_getElem hlength]
  have hin : k < op.length := by
    refine Nat.lt_of_not_le fun hle => ?_
    obtain ⟨hblank, hdigit⟩ := operator_not_blank op' h'.operator _ (List.getElem_mem hlength)
    rcases h.blank_or_digit hle hlt hfirst with hc | hc
    · exact Bool.noConfusion (hc.symm.trans hblank)
    · exact Bool.noConfusion (hc.symm.trans hdigit)
  -- There it is the second one, which only one operator begins with.
  obtain ⟨htwo', hequals⟩ : op.length = 2 ∧ op[1]? = some '=' := hop.resolve_left (by omega)
  obtain rfl : k = 1 := by omega
  have hop' : op' = ['=', '='] := by
    refine operator_of_equals op' h'.operator ?_
    rw [← hchar 0 hlength, h.text, List.getElem?_append_left hin, hequals]
  subst hop'
  have hsecond : t[2]? = some '=' := hchar 1 (by decide)
  rcases h.blank_or_digit (by omega) (by omega) hsecond with hc | hc
  · exact absurd hc (by decide)
  · exact absurd hc (by decide)

/-- The hits of the pattern are the operands of the text. -/
theorem exists_hit_iff_operandAt {t : List Char} {i : Nat} {digits : List Char} :
    (∃ h ∈ operand.hits t, h.start = i ∧ h.marked = some digits) ↔ OperandAt t i digits := by
  constructor
  · rintro ⟨h, hmem, rfl, hmarked⟩
    obtain ⟨i, d, hd, rfl⟩ := Pattern.findsAt_of_mem_hits hmem
    obtain ⟨op, gap, digits', rest, hbegins, rfl⟩ := findsAt_operand.mp hd
    obtain rfl := Option.some.inj hmarked
    exact ⟨op, gap, rest, hbegins⟩
  · rintro ⟨op, gap, rest, hbegins⟩
    have hfinds := findsAt_operand.mpr ⟨op, gap, digits, rest, hbegins, rfl⟩
    obtain ⟨h, hmem, hle, hlt⟩ := Pattern.exists_mem_hits hfinds
    obtain ⟨j, e, he, rfl⟩ := Pattern.findsAt_of_mem_hits hmem
    obtain ⟨op', gap', digits', rest', hbegins', rfl⟩ := findsAt_operand.mp he
    rcases Nat.eq_or_lt_of_le hle with rfl | hlt'
    · obtain ⟨rfl, rfl, rfl, rfl⟩ := hbegins.unique hbegins'
      exact ⟨_, hmem, rfl, rfl⟩
    · have hafter : j < i := hlt'
      have hwithin : i < j + op'.length + gap'.length + digits'.length := hlt
      have hdrop : t.drop i = (t.drop j).drop (i - j) := by
        rw [List.drop_drop, Nat.add_sub_cancel' (Nat.le_of_lt hafter)]
      rw [hdrop] at hbegins
      exact (not_begins_within hbegins' hbegins (by omega) (by omega)).elim

end SourceGrade.Smell
