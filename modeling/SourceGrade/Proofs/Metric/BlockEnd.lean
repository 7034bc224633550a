import SourceGrade.Proofs.Metric.LineCount

set_option autoImplicit false

/-!
# The end of a block comment on the line that begins it

The count of lines looks for the mark that ends a block comment on the whole of the line that begins
one. The two marks share an asterisk, so a line that begins with `/*/` ends the comment that it
begins, although its only asterisk belongs to the mark at its beginning. `LineKind.ofLineApart` is
the rule that looks for the end behind that mark alone. The count follows it on every text in which
no such line begins a comment, and elsewhere the two differ by the code that stands inside comments
which that rule leaves open.
-/

namespace SourceGrade

namespace LineKind

/-! ## Rules -/

/-- What a line holds and whether a block comment is open after it, told from whether one is open
before it. -/
abbrev LineRule : Type := Bool → List Char → LineKind × Bool

/-- Whether a block comment is open after lines by a rule. -/
def openBy (rule : LineRule) (inBlock : Bool) (lines : List (List Char)) : Bool :=
  lines.foldl (fun inBlock line => (rule inBlock line).2) inBlock

/-- What each of the lines holds by a rule. -/
def kindsBy (rule : LineRule) (inBlock : Bool) : List (List Char) → List LineKind
  | [] => []
  | line :: rest => (rule inBlock line).1 :: kindsBy rule (rule inBlock line).2 rest

/-- The lines before which no block comment is open by a rule. -/
def linesOutside (rule : LineRule) (inBlock : Bool) : List (List Char) → List (List Char)
  | [] => []
  | line :: rest =>
    (if inBlock then [] else [line]) ++ linesOutside rule (rule inBlock line).2 rest

section TwoRules

variable {rule rule' : LineRule}

/-- Two rules that agree inside block comments leave the same comments open if and only if they
agree on every line that they meet outside of one. -/
theorem openBy_eq_iff (hin : ∀ line, (rule' true line).2 = (rule true line).2) (inBlock : Bool)
    (lines : List (List Char)) :
    (∀ i ≤ lines.length,
        openBy rule' inBlock (lines.take i) = openBy rule inBlock (lines.take i)) ↔
      ∀ line ∈ linesOutside rule inBlock lines, (rule' false line).2 = (rule false line).2 := by
  induction lines generalizing inBlock with
  | nil => exact iff_of_true (fun i _ => by rw [List.take_nil]; rfl) nofun
  | cons line rest ih =>
    have hfirst : (∀ l ∈ if inBlock then [] else [line], (rule' false l).2 = (rule false l).2) ↔
        (rule' inBlock line).2 = (rule inBlock line).2 := by
      cases inBlock with
      | true => exact iff_of_true nofun (hin line)
      | false => simp
    rw [linesOutside, List.forall_mem_append, hfirst, ← ih]
    constructor
    · intro h
      have hline : (rule' inBlock line).2 = (rule inBlock line).2 :=
        h 1 (Nat.le_add_left 1 rest.length)
      refine ⟨hline, fun i hi => ?_⟩
      have hnext := h (i + 1) (Nat.succ_le_succ hi)
      unfold openBy at hnext ⊢
      rwa [List.take_succ_cons, List.foldl_cons, List.foldl_cons, hline] at hnext
    · rintro ⟨hline, hrest⟩ i hi
      cases i with
      | zero => rfl
      | succ i =>
        have hnext := hrest i (Nat.le_of_succ_le_succ hi)
        unfold openBy at hnext ⊢
        rwa [List.take_succ_cons, List.foldl_cons, List.foldl_cons, hline]

end TwoRules

/-! ## Marks apart -/

/-- Whether a line begins, after its blanks, with the mark of a block comment. -/
def beginsBlock (language : Language) (line : List Char) : Bool :=
  language.blockStart.toList.isPrefixOf (Text.trim line)

/-- Whether the mark that ends a block comment stands on a line after the length of the mark that
begins one. -/
def endsBehindStart (language : Language) (line : List Char) : Bool :=
  endsBlock language ((Text.trim line).drop language.blockStart.toList.length)

/-- Whether a line begins a block comment and the mark that ends one stands on it nowhere but on
characters of the mark at its beginning. -/
def sharesMark (language : Language) (line : List Char) : Bool :=
  beginsBlock language line && endsBlock language (Text.trim line) &&
    !endsBehindStart language line

/-- What a line holds, and whether a block comment is open after it, by a test that tells of a line
that begins a comment, without the blanks around it, whether the comment ends there. -/
def lineRule (language : Language) (endsAtOnce : List Char → Bool) : LineRule := fun inBlock line =>
  let content := Text.trim line
  if content.isEmpty then (.blank, inBlock)
  else if inBlock then (.comment, !endsBlock language content)
  else if language.lineComment.toList.isPrefixOf content || directiveMark.isPrefixOf content then
    (.comment, false)
  else if language.blockStart.toList.isPrefixOf content then (.comment, !endsAtOnce content)
  else (.code, false)

/-- The rule of the count looks for the mark of the end on the whole line. -/
theorem ofLine_eq_lineRule (language : Language) :
    ofLine language = lineRule language (endsBlock language) := rfl

/-- The rule that looks for the mark of the end behind the mark at the beginning of the line. -/
def ofLineApart (language : Language) : LineRule :=
  lineRule language fun content =>
    endsBlock language (content.drop language.blockStart.toList.length)

variable {language : Language} {line : List Char}

/-- What is told of a line does not depend on the test. -/
theorem fst_ofLineApart (language : Language) (inBlock : Bool) (line : List Char) :
    (ofLineApart language inBlock line).1 = (ofLine language inBlock line).1 := by
  rw [ofLine_eq_lineRule]
  unfold ofLineApart lineRule
  dsimp only
  repeat' split
  all_goals rfl

theorem ofLineApart_inBlock (language : Language) (line : List Char) :
    ofLineApart language true line = ofLine language true line := rfl

/-- A line leaves a comment open only if one was open before it or it begins one. -/
theorem snd_lineRule_of_not_beginsBlock (h : beginsBlock language line = false)
    (endsAtOnce : List Char → Bool) : (lineRule language endsAtOnce false line).2 = false := by
  unfold beginsBlock at h
  unfold lineRule
  simp only [h, Bool.false_eq_true, if_false]
  repeat' split
  all_goals rfl

theorem exists_of_beginsBlock (hmarks : language.MarksLikeC)
    (h : beginsBlock language line = true) : ∃ rest, Text.trim line = '/' :: '*' :: rest := by
  unfold beginsBlock at h
  rw [hmarks.blockStart, List.isPrefixOf_iff_prefix] at h
  obtain ⟨rest, hrest⟩ := h
  exact ⟨rest, hrest.symm⟩

/-- A line that begins a block comment leaves it open unless the test says that it ends there. -/
theorem snd_lineRule_of_beginsBlock (hmarks : language.MarksLikeC)
    (h : beginsBlock language line = true) (endsAtOnce : List Char → Bool) :
    (lineRule language endsAtOnce false line).2 = !endsAtOnce (Text.trim line) := by
  obtain ⟨rest, hrest⟩ := exists_of_beginsBlock hmarks h
  unfold beginsBlock at h
  unfold lineRule
  simp only [h]
  simp [hrest, hmarks.lineComment, directiveMark]

theorem snd_ofLine_of_beginsBlock (hmarks : language.MarksLikeC)
    (h : beginsBlock language line = true) :
    (ofLine language false line).2 = !endsBlock language (Text.trim line) :=
  snd_lineRule_of_beginsBlock hmarks h _

theorem snd_ofLineApart_of_beginsBlock (hmarks : language.MarksLikeC)
    (h : beginsBlock language line = true) :
    (ofLineApart language false line).2 = !endsBehindStart language line :=
  snd_lineRule_of_beginsBlock hmarks h _

theorem endsBlock_of_endsBehindStart (h : endsBehindStart language line = true) :
    endsBlock language (Text.trim line) = true := by
  unfold endsBehindStart endsBlock at *
  rw [occursIn_iff_isInfix] at h ⊢
  exact h.trans (List.drop_suffix _ _).isInfix

/-- The rules leave different comments open after the lines on which the marks share a character,
and after no others. -/
theorem snd_ofLineApart_eq_iff (hmarks : language.MarksLikeC) (line : List Char) :
    (ofLineApart language false line).2 = (ofLine language false line).2 ↔
      sharesMark language line = false := by
  unfold sharesMark
  cases hbegins : beginsBlock language line with
  | false =>
    rw [ofLine_eq_lineRule, ofLineApart, snd_lineRule_of_not_beginsBlock hbegins,
      snd_lineRule_of_not_beginsBlock hbegins]
    simp
  | true =>
    have hends := @endsBlock_of_endsBehindStart language line
    rw [snd_ofLineApart_of_beginsBlock hmarks hbegins, snd_ofLine_of_beginsBlock hmarks hbegins]
    revert hends
    cases endsBehindStart language line <;> cases endsBlock language (Text.trim line) <;> simp

/-- The asterisk of the mark at the beginning of a line serves for the mark that ends the comment if
a slash follows it. -/
theorem endsBlock_iff_of_beginsBlock (hmarks : language.MarksLikeC)
    (hend : language.blockEnd = "*/") (h : beginsBlock language line = true) :
    endsBlock language (Text.trim line) = true ↔
      endsBehindStart language line = true ∨ "/*/".toList <+: Text.trim line := by
  obtain ⟨rest, hrest⟩ := exists_of_beginsBlock hmarks h
  have hstart : language.blockStart.toList.length = 2 := by rw [hmarks.blockStart]; rfl
  have hmark : language.blockEnd.toList = ['*', '/'] := by rw [hend]; rfl
  have hshared : "/*/".toList = ['/', '*', '/'] := rfl
  unfold endsBehindStart endsBlock
  rw [occursIn_iff_isInfix, occursIn_iff_isInfix, hstart, hmark, hshared, hrest,
    List.infix_cons_iff, List.infix_cons_iff]
  simp only [List.cons_prefix_cons, true_and, List.drop_succ_cons, List.drop_zero]
  constructor
  · rintro (⟨hslash, -⟩ | hslash | hbehind)
    · exact absurd hslash (by decide)
    · exact .inr hslash
    · exact .inl hbehind
  · rintro (hbehind | hslash)
    · exact .inr (.inr hbehind)
    · exact .inr (.inl hslash)

/-- A line that begins a block comment ends it behind the mark at its beginning, or by the asterisk
of that mark. -/
theorem ofLine_ends_iff (hmarks : language.MarksLikeC) (hend : language.blockEnd = "*/")
    (h : beginsBlock language line = true) :
    (ofLine language false line).2 = false ↔
      endsBehindStart language line = true ∨ "/*/".toList <+: Text.trim line := by
  rw [snd_ofLine_of_beginsBlock hmarks h, Bool.not_eq_false',
    endsBlock_iff_of_beginsBlock hmarks hend h]

/-- A comment that is open is also open by the rule that keeps the marks apart. -/
theorem open_ofLineApart_of_open (hmarks : language.MarksLikeC) (inBlock inBlock' : Bool)
    (line : List Char) (h : inBlock = true → inBlock' = true)
    (hopen : (ofLine language inBlock line).2 = true) :
    (ofLineApart language inBlock' line).2 = true := by
  cases inBlock with
  | true =>
    rw [h rfl, ofLineApart_inBlock]
    exact hopen
  | false =>
    cases hbegins : beginsBlock language line with
    | false =>
      rw [ofLine_eq_lineRule, snd_lineRule_of_not_beginsBlock hbegins] at hopen
      exact Bool.noConfusion hopen
    | true =>
      rw [snd_ofLine_of_beginsBlock hmarks hbegins, Bool.not_eq_true'] at hopen
      cases inBlock' with
      | false =>
        rw [snd_ofLineApart_of_beginsBlock hmarks hbegins, Bool.not_eq_true']
        refine Bool.eq_false_iff.mpr fun hends => ?_
        rw [endsBlock_of_endsBehindStart hends] at hopen
        exact Bool.noConfusion hopen
      | true =>
        unfold ofLineApart lineRule
        simp only [hopen, if_true]
        split <;> rfl

theorem kind_inBlock (language : Language) (line : List Char) :
    (ofLine language true line).1 =
      if (ofLine language false line).1 = .blank then .blank else .comment := by
  have hempty : (Text.trim line).isEmpty = isBlankLine line := Text.isEmpty_trim line
  simp only [kind_eq_blank_iff]
  unfold ofLine
  simp only [hempty, if_true]
  split <;> rfl

/-- Where a comment is open by the rule that keeps the marks apart, a line of code is a comment by
that rule, and otherwise the rules tell the same of a line. -/
theorem fst_ofLineApart_of_open (language : Language) {inBlock inBlock' : Bool}
    (line : List Char) (h : inBlock = true → inBlock' = true) :
    (ofLineApart language inBlock' line).1 =
      if inBlock' = true ∧ (ofLine language inBlock line).1 = .code then .comment
      else (ofLine language inBlock line).1 := by
  rw [fst_ofLineApart]
  cases inBlock with
  | true =>
    have hnoCode : (ofLine language true line).1 ≠ .code := fun hcode =>
      Bool.noConfusion (kind_eq_code_iff.mp hcode).2.1
    rw [h rfl, if_neg fun hcode => hnoCode hcode.2]
  | false =>
    cases inBlock' with
    | false => rw [if_neg fun hcode => Bool.false_ne_true hcode.1]
    | true =>
      rw [kind_inBlock]
      cases (ofLine language false line).1 <;> rfl

/-- Inside a block comment it is the mark of its end that ends it. -/
theorem ofLine_inBlock_ends_iff (h : language ∈ Language.registry) (line : List Char) :
    (ofLine language true line).2 = false ↔ endsBlock language line = true := by
  have hmark : language.blockEnd.toList = ['*', '/'] := by
    rw [Language.blockEnd_of_mem_registry h]
    rfl
  have hink : ∀ c ∈ language.blockEnd.toList, Text.isBlank c = false := by
    rw [hmark]
    intro c hc
    rcases List.mem_pair.mp hc with rfl | rfl <;> rfl
  have hne : language.blockEnd.toList ≠ [] := by
    rw [hmark]
    exact List.cons_ne_nil _ _
  rw [ofLine_inBlock hink hne, Bool.not_eq_false']

/-! ## Code inside comments -/

/-- The number of lines that hold code although a comment is open before them by the rule that keeps
the marks apart. `inBlock` and `inBlock'` say whether one is open before all of them by either
rule. -/
def codeInComments (language : Language) (inBlock inBlock' : Bool) : List (List Char) → Nat
  | [] => 0
  | line :: rest =>
    (if inBlock' = true ∧ (ofLine language inBlock line).1 = .code then 1 else 0) +
      codeInComments language (ofLine language inBlock line).2
        (ofLineApart language inBlock' line).2 rest

/-- The rule that keeps the marks apart takes code inside comments for comments. -/
theorem count_kindsBy_ofLineApart (hmarks : language.MarksLikeC) (lines : List (List Char))
    {inBlock inBlock' : Bool} (h : inBlock = true → inBlock' = true) :
    (kindsBy (ofLineApart language) inBlock' lines).count .blank =
        (ofLines language inBlock lines).count .blank ∧
      (kindsBy (ofLineApart language) inBlock' lines).count .comment =
        (ofLines language inBlock lines).count .comment +
          codeInComments language inBlock inBlock' lines ∧
      (kindsBy (ofLineApart language) inBlock' lines).count .code +
          codeInComments language inBlock inBlock' lines =
        (ofLines language inBlock lines).count .code := by
  induction lines generalizing inBlock inBlock' with
  | nil => exact ⟨rfl, rfl, rfl⟩
  | cons line rest ih =>
    obtain ⟨hblank, hcomment, hcode⟩ := ih (open_ofLineApart_of_open hmarks inBlock inBlock' line h)
    rw [kindsBy, ofLines, codeInComments, fst_ofLineApart_of_open language line h]
    simp only [List.count_cons]
    by_cases hhidden : inBlock' = true ∧ (ofLine language inBlock line).1 = .code
    · rw [if_pos hhidden, if_pos hhidden, hhidden.2]
      simp only [beq_self_eq_true, if_true, reduceCtorEq, beq_iff_eq, if_false]
      omega
    · rw [if_neg hhidden, if_neg hhidden]
      omega

/-- There is no code inside comments where the rules agree on the lines outside of them. -/
theorem codeInComments_eq_zero {lines : List (List Char)} {inBlock : Bool}
    (h : ∀ line ∈ linesOutside (ofLine language) inBlock lines,
      (ofLineApart language false line).2 = (ofLine language false line).2) :
    codeInComments language inBlock inBlock lines = 0 := by
  induction lines generalizing inBlock with
  | nil => rfl
  | cons line rest ih =>
    rw [linesOutside, List.forall_mem_append] at h
    have hstate : (ofLineApart language inBlock line).2 = (ofLine language inBlock line).2 := by
      cases inBlock with
      | true => exact congrArg Prod.snd (ofLineApart_inBlock language line)
      | false => exact h.1 line (List.mem_singleton_self line)
    have hnoCode : ¬(inBlock = true ∧ (ofLine language inBlock line).1 = .code) := by
      rintro ⟨hopen, hcode⟩
      rw [(kind_eq_code_iff.mp hcode).2.1] at hopen
      exact Bool.false_ne_true hopen
    rw [codeInComments, if_neg hnoCode, hstate, ih h.2]

/-- No line that begins a block comment has the mark of its end only on characters of the mark at
its beginning. -/
def MarksApart (language : Language) (lines : List (List Char)) : Prop :=
  ∀ line ∈ linesOutside (ofLine language) false lines, sharesMark language line = false

instance (language : Language) (lines : List (List Char)) :
    Decidable (MarksApart language lines) :=
  decidable_of_iff
    (((linesOutside (ofLine language) false lines).all fun line => !sharesMark language line) = true)
    (by simp [MarksApart])

theorem marksApart_iff (hmarks : language.MarksLikeC) (lines : List (List Char)) :
    MarksApart language lines ↔ ∀ line ∈ linesOutside (ofLine language) false lines,
      (ofLineApart language false line).2 = (ofLine language false line).2 := by
  unfold MarksApart
  simp only [snd_ofLineApart_eq_iff hmarks]

end LineKind

namespace LineCount

open LineKind (beginsBlock endsBehindStart endsBlock ofLine ofLineApart openBy blockOpenAfter
  MarksApart codeInComments)

/-- The lines of a text, counted by the rule that looks for the end of a block comment behind the
mark at its beginning. -/
def ofTextApart (language : Language) (t : List Char) : LineCount :=
  ofKinds (LineKind.kindsBy (ofLineApart language) false (Text.lines t))

/-- The count with so many lines of code taken for comments. -/
def takingForComments (n : LineCount) (k : Nat) : LineCount :=
  ⟨n.total, n.blank, n.comment + k, n.code - k⟩

theorem takingForComments_zero (n : LineCount) : n.takingForComments 0 = n := by
  unfold takingForComments
  simp

/-- Code inside comments is all that the two counts differ by. -/
theorem ofTextApart_eq {language : Language} (hmarks : language.MarksLikeC) (t : List Char) :
    ofTextApart language t = (ofText language t).takingForComments
      (codeInComments language false false (Text.lines t)) := by
  have hclosed : false = true → false = true := id
  obtain ⟨hblank, hcomment, hcode⟩ :=
    LineKind.count_kindsBy_ofLineApart hmarks (Text.lines t) hclosed
  have hsum := sum_ofKinds (LineKind.kindsBy (ofLineApart language) false (Text.lines t))
  have hsum' := sum_ofKinds (LineKind.ofLines language false (Text.lines t))
  unfold ofTextApart ofText takingForComments
  unfold ofKinds at hsum hsum' ⊢
  simp only [mk.injEq] at hsum hsum' ⊢
  omega

/-- A line that begins a block comment ends it if the mark of its end stands behind the mark at the
beginning of the line, or if a slash follows that mark, and every later line ends it on which the
mark of its end stands. The same comments are open before all lines of a text as by the rule that
does not look into the mark at the beginning if and only if the two marks are apart wherever a line
begins a comment, and then the lines are also counted as by that rule. In any case that rule only
counts as comments what is code inside the comments that it leaves open. -/
theorem ends_blocks_apart {language : Language} (h : language ∈ Language.registry)
    (t : List Char) :
    (∀ line, beginsBlock language line = true →
      ((ofLine language false line).2 = false ↔
        endsBehindStart language line = true ∨ "/*/".toList <+: Text.trim line)) ∧
    (∀ line, (ofLine language true line).2 = false ↔ endsBlock language line = true) ∧
    ((∀ i ≤ (Text.lines t).length,
        openBy (ofLineApart language) false ((Text.lines t).take i) =
          blockOpenAfter language false ((Text.lines t).take i)) ↔
      MarksApart language (Text.lines t)) ∧
    (MarksApart language (Text.lines t) → ofText language t = ofTextApart language t) ∧
    ofTextApart language t = (ofText language t).takingForComments
      (codeInComments language false false (Text.lines t)) := by
  have hmarks := Language.marksLikeC_of_mem_registry h
  have hin : ∀ line, (ofLineApart language true line).2 = (ofLine language true line).2 :=
    fun line => congrArg Prod.snd (LineKind.ofLineApart_inBlock language line)
  refine ⟨fun line hbegins => ?_, LineKind.ofLine_inBlock_ends_iff h, ?_, fun happart => ?_,
    ofTextApart_eq hmarks t⟩
  · exact LineKind.ofLine_ends_iff hmarks (Language.blockEnd_of_mem_registry h) hbegins
  · rw [LineKind.marksApart_iff hmarks]
    exact LineKind.openBy_eq_iff hin false (Text.lines t)
  · have hnone := LineKind.codeInComments_eq_zero ((LineKind.marksApart_iff hmarks _).mp happart)
    rw [ofTextApart_eq hmarks, hnone, takingForComments_zero]

/-- A comment of one line whose text begins with a slash, code, and a comment that stays open. -/
def slashInComment : List Char := "/*/ a */ b()\nc()\n/* d".toList

/-- The mark at the beginning of a line may have the mark of the end in it and behind it. -/
theorem ends_blocks_apart_slashInComment :
    Language.go ∈ Language.registry ∧ beginsBlock .go "  /*/".toList = true ∧
    (ofLine .go false "  /*/".toList).2 = false ∧
    MarksApart .go (Text.lines slashInComment) ∧
    ofText .go slashInComment = ofTextApart .go slashInComment := by
  have hgo : Language.go ∈ Language.registry := by simp [Language.registry]
  have hbegins : beginsBlock .go "  /*/".toList = true := by decide
  have hshared : "/*/".toList <+: Text.trim "  /*/".toList := ⟨[], by decide⟩
  have happart : MarksApart .go (Text.lines slashInComment) := by decide
  obtain ⟨hends, -, -, hcount, -⟩ := ends_blocks_apart hgo slashInComment
  exact ⟨hgo, hbegins, (hends _ hbegins).mpr (.inr hshared), happart, hcount happart⟩

/-- A line with nothing but a slash after the mark that begins a comment, and a word below it. -/
def loneMark : List Char := "/*/\nx".toList

/-- The word below is counted as code, and as a part of the comment where the marks are kept
apart. -/
theorem loneMark_ends_comment :
    ¬∀ t : List Char, ofText Language.fallback t = ofTextApart Language.fallback t := by
  intro hall
  exact absurd (hall loneMark) (by decide)

end LineCount

end SourceGrade
