import Mathlib.Data.List.Basic
import SourceGrade.Proofs.Metric.BlockComment
import SourceGrade.Proofs.Text.Lines

set_option autoImplicit false

/-!
# Counting texts one below the other

Lines matter to those below them only by whether they leave a block comment open. So the count of
two texts, one below the other, is the sum of their counts if the upper one leaves none open. If it
does, the lines of the lower one belong to that comment until one of them ends it, and the lines
after that one are counted as a text of their own.
-/

namespace SourceGrade

theorem occursIn_iff_isInfix {piece t : List Char} : occursIn piece t = true ↔ piece <:+: t := by
  induction t with
  | nil => rw [occursIn, List.isEmpty_iff, List.infix_nil]
  | cons c t ih =>
    rw [occursIn, Bool.or_eq_true, List.isPrefixOf_iff_prefix, ih, List.infix_cons_iff]

namespace LineKind

/-- Whether a line holds nothing but blanks. -/
def isBlankLine (line : List Char) : Bool := line.all Text.isBlank

/-- Whether the mark that ends a block comment stands on a line. -/
def endsBlock (language : Language) (line : List Char) : Bool :=
  occursIn language.blockEnd.toList line

/-- Whether a line begins, after its blanks, with the mark of a comment or a directive. -/
def beginsComment (language : Language) (line : List Char) : Bool :=
  [language.lineComment.toList, directiveMark, language.blockStart.toList].any fun mark =>
    mark.isPrefixOf (Text.trim line)

/-- The lines down to the first one on which a block comment ends, and that one. -/
def throughEnd (language : Language) (lines : List (List Char)) : List (List Char) :=
  lines.take (lines.findIdx (endsBlock language) + 1)

/-- The lines below the first one on which a block comment ends. -/
def afterEnd (language : Language) (lines : List (List Char)) : List (List Char) :=
  lines.drop (lines.findIdx (endsBlock language) + 1)

variable {language : Language} {inBlock : Bool} {line : List Char}

/-! ## One line -/

theorem ofLine_of_isBlankLine (h : isBlankLine line = true) :
    ofLine language inBlock line = (.blank, inBlock) := by
  have hempty : (Text.trim line).isEmpty = true := by rw [Text.isEmpty_trim]; exact h
  simp [ofLine, hempty]

/-- A line inside a block comment is a comment unless it is blank, and the comment goes on unless it
ends there. -/
theorem ofLine_inBlock (hink : ∀ c ∈ language.blockEnd.toList, Text.isBlank c = false)
    (hne : language.blockEnd.toList ≠ []) (line : List Char) :
    ofLine language true line =
      (if isBlankLine line then .blank else .comment, !endsBlock language line) := by
  have htrim : occursIn language.blockEnd.toList (Text.trim line) = endsBlock language line := by
    rw [Bool.eq_iff_iff, endsBlock, occursIn_iff_isInfix, occursIn_iff_isInfix,
      Text.infix_trim_iff hne hink]
  by_cases hblank : isBlankLine line = true
  · have hends : endsBlock language line = false := by
      refine Bool.eq_false_iff.mpr fun hends => ?_
      obtain ⟨c, hc⟩ := List.exists_mem_of_ne_nil _ hne
      have hmem : c ∈ line := (occursIn_iff_isInfix.mp hends).subset hc
      have hcblank := List.all_eq_true.mp hblank c hmem
      rw [hink c hc] at hcblank
      exact Bool.false_ne_true hcblank
    simp [ofLine_of_isBlankLine hblank, hblank, hends]
  · have hempty : (Text.trim line).isEmpty = false := by
      rw [Text.isEmpty_trim]
      exact Bool.eq_false_iff.mpr hblank
    simp [ofLine, hempty, hblank, htrim]

theorem kind_eq_blank_iff :
    (ofLine language inBlock line).1 = .blank ↔ isBlankLine line = true := by
  have hempty : (Text.trim line).isEmpty = isBlankLine line := Text.isEmpty_trim line
  unfold ofLine
  simp only [hempty]
  cases isBlankLine line with
  | true => simp
  | false =>
    cases inBlock with
    | true => simp
    | false =>
      refine iff_of_false ?_ Bool.false_ne_true
      simp only [Bool.false_eq_true, if_false]
      split
      · exact LineKind.noConfusion
      · split <;> exact LineKind.noConfusion

/-- A line is code if it is not blank, no block comment is open before it and it does not begin one
of any kind. -/
theorem kind_eq_code_iff :
    (ofLine language inBlock line).1 = .code ↔
      isBlankLine line = false ∧ inBlock = false ∧ beginsComment language line = false := by
  have hempty : (Text.trim line).isEmpty = isBlankLine line := Text.isEmpty_trim line
  unfold ofLine beginsComment
  simp only [hempty, List.any_cons, List.any_nil, Bool.or_false]
  cases isBlankLine line with
  | true => simp
  | false =>
    cases inBlock with
    | true => simp
    | false =>
      cases language.lineComment.toList.isPrefixOf (Text.trim line) <;>
        cases directiveMark.isPrefixOf (Text.trim line) <;>
        cases language.blockStart.toList.isPrefixOf (Text.trim line) <;> simp

/-! ## All lines -/

theorem length_ofLines (language : Language) (inBlock : Bool) (ls : List (List Char)) :
    (ofLines language inBlock ls).length = ls.length := by
  induction ls generalizing inBlock with
  | nil => rfl
  | cons line rest ih => exact congrArg (· + 1) (ih _)

/-- Lines below others go on where those leave off. -/
theorem ofLines_append (language : Language) (inBlock : Bool) (upper lower : List (List Char)) :
    ofLines language inBlock (upper ++ lower) =
      ofLines language inBlock upper ++
        ofLines language (blockOpenAfter language inBlock upper) lower := by
  induction upper generalizing inBlock with
  | nil => rfl
  | cons line upper ih =>
    have hlater := ih (ofLine language inBlock line).2
    simpa [ofLines, blockOpenAfter] using hlater

/-- Each line by itself, with what the lines above it leave open. -/
theorem ofLines_eq_map (language : Language) (inBlock : Bool) (ls : List (List Char)) :
    ofLines language inBlock ls = ls.zipIdx.map fun p =>
      (ofLine language (blockOpenAfter language inBlock (ls.take p.2)) p.1).1 := by
  apply List.ext_getElem?
  intro i
  rw [getElem?_ofLines, List.getElem?_map, List.getElem?_zipIdx, Option.map_map, Nat.zero_add]
  rfl

theorem count_blank (language : Language) (inBlock : Bool) (ls : List (List Char)) :
    (ofLines language inBlock ls).count .blank = ls.countP isBlankLine := by
  induction ls generalizing inBlock with
  | nil => rfl
  | cons line rest ih =>
    rw [ofLines, List.count_cons, List.countP_cons, ih]
    simp only [beq_iff_eq, kind_eq_blank_iff]

theorem count_code (language : Language) (inBlock : Bool) (ls : List (List Char)) :
    (ofLines language inBlock ls).count .code = ls.zipIdx.countP fun p =>
      !isBlankLine p.1 && !blockOpenAfter language inBlock (ls.take p.2) &&
        !beginsComment language p.1 := by
  rw [ofLines_eq_map, List.count_eq_countP, List.countP_map]
  congr 1
  funext p
  rw [Function.comp_apply, Bool.eq_iff_iff, beq_iff_eq, kind_eq_code_iff]
  simp [and_assoc]

/-- Inside a block comment, lines belong to it down to the one that ends it. -/
theorem ofLines_inBlock (hink : ∀ c ∈ language.blockEnd.toList, Text.isBlank c = false)
    (hne : language.blockEnd.toList ≠ []) (ls : List (List Char)) :
    ofLines language true ls =
      (throughEnd language ls).map (fun line => if isBlankLine line then .blank else .comment) ++
        ofLines language false (afterEnd language ls) := by
  induction ls with
  | nil => rfl
  | cons line rest ih =>
    rw [ofLines, ofLine_inBlock hink hne]
    unfold throughEnd afterEnd at ih ⊢
    rw [List.findIdx_cons]
    cases hends : endsBlock language line with
    | true => simp
    | false => simpa using ih

end LineKind

namespace LineCount

open LineKind (isBlankLine beginsComment blockOpenAfter throughEnd afterEnd)

/-- The numbers added up one by one. -/
instance : Add LineCount where
  add m n := ⟨m.total + n.total, m.blank + n.blank, m.comment + n.comment, m.code + n.code⟩

/-- The count of lines that belong to a block comment. -/
def ofComment (ls : List (List Char)) : LineCount where
  total := ls.length
  blank := ls.countP isBlankLine
  comment := ls.countP fun line => !isBlankLine line
  code := 0

/-- The count of lines as a text of their own. No lines are no text. -/
def ofFresh (language : Language) (ls : List (List Char)) : LineCount :=
  if ls = [] then {} else ofText language (['\n'].intercalate ls)

/-- What the numbers of a count say of the lines. -/
structure Tells (language : Language) (ls : List (List Char)) (n : LineCount) : Prop where
  total : n.total = ls.length
  blank : n.blank = ls.countP isBlankLine
  /-- A line of code is not blank, lies outside of block comments and does not begin with the mark
  of a comment or a directive. -/
  code : n.code = ls.zipIdx.countP fun p =>
    !isBlankLine p.1 && !blockOpenAfter language false (ls.take p.2) && !beginsComment language p.1
  nonneg : 0 ≤ n.blank ∧ 0 ≤ n.comment ∧ 0 ≤ n.code
  /-- Every line is counted under one heading. -/
  sum : n.blank + n.comment + n.code = n.total

theorem total_ofText (language : Language) (t : List Char) :
    (ofText language t).total = (Text.lines t).length :=
  congrArg Nat.cast (LineKind.length_ofLines language false (Text.lines t))

theorem ofKinds_append (upper lower : List LineKind) :
    ofKinds (upper ++ lower) = ofKinds upper + ofKinds lower := by
  have hadd : ∀ m n : LineCount, m + n =
      ⟨m.total + n.total, m.blank + n.blank, m.comment + n.comment, m.code + n.code⟩ :=
    fun _ _ => rfl
  simp [ofKinds, hadd]

/-- Each kind is counted once. -/
theorem sum_ofKinds (kinds : List LineKind) :
    (ofKinds kinds).blank + (ofKinds kinds).comment + (ofKinds kinds).code =
      (ofKinds kinds).total := by
  unfold ofKinds
  induction kinds with
  | nil => rfl
  | cons kind kinds ih =>
    cases kind <;> simp at ih ⊢ <;> omega

theorem tells_ofText (language : Language) (t : List Char) :
    Tells language (Text.lines t) (ofText language t) where
  total := total_ofText language t
  blank := congrArg Nat.cast (LineKind.count_blank language false (Text.lines t))
  code := congrArg Nat.cast (LineKind.count_code language false (Text.lines t))
  nonneg := by simp [ofText, ofKinds]
  sum := sum_ofKinds _

theorem ofKinds_map_comment (ls : List (List Char)) :
    ofKinds (ls.map fun line => if isBlankLine line then .blank else .comment) = ofComment ls := by
  induction ls with
  | nil => rfl
  | cons line ls ih =>
    simp [ofKinds, ofComment, List.count_cons, List.countP_cons] at ih ⊢
    cases isBlankLine line <;> simp [ih]

/-- Lines are counted as the text that they make up. -/
theorem ofFresh_eq {ls : List (List Char)} (hlines : ∀ line ∈ ls, '\n' ∉ line)
    (language : Language) : ofFresh language ls = ofKinds (LineKind.ofLines language false ls) := by
  unfold ofFresh
  split
  · rename_i hnil
    rw [hnil]
    rfl
  · rename_i hne
    unfold ofText Text.lines
    rw [List.splitOn_intercalate '\n' hlines hne]

variable {language : Language} {a : List Char}

theorem ofText_append_of_closed (hclosed : blockOpenAfter language false (Text.lines a) = false)
    (b : List Char) :
    ofText language (a ++ '\n' :: b) = ofText language a + ofText language b := by
  unfold ofText
  rw [Text.lines_append_lineFeed, LineKind.ofLines_append, hclosed, ofKinds_append]

theorem ofText_append_of_open (hink : ∀ c ∈ language.blockEnd.toList, Text.isBlank c = false)
    (hne : language.blockEnd.toList ≠ [])
    (hopen : blockOpenAfter language false (Text.lines a) = true) (b : List Char) :
    ofText language (a ++ '\n' :: b) =
      ofText language a + (ofComment (throughEnd language (Text.lines b)) +
        ofFresh language (afterEnd language (Text.lines b))) := by
  have hlines : ∀ line ∈ afterEnd language (Text.lines b), '\n' ∉ line := fun line hline =>
    Text.lineFeed_notMem_of_mem_lines (List.mem_of_mem_drop hline)
  rw [ofFresh_eq hlines, ← ofKinds_map_comment, ← ofKinds_append]
  unfold ofText
  rw [Text.lines_append_lineFeed, LineKind.ofLines_append, hopen,
    LineKind.ofLines_inBlock hink hne, ofKinds_append]

/-- If a text leaves no block comment open, what stands below it is counted by itself. If it does,
the lines down to the one that ends the comment count as parts of it, and those below that one as a
text of their own. In any case every line is counted under one heading, and the lines of code are
those that are not blank, lie outside of block comments and begin no comment. -/
theorem ofText_append_lineFeed (h : language ∈ Language.registry) (a b : List Char) :
    (blockOpenAfter language false (Text.lines a) = false →
      ofText language (a ++ '\n' :: b) = ofText language a + ofText language b) ∧
    (blockOpenAfter language false (Text.lines a) = true →
      ofText language (a ++ '\n' :: b) =
        ofText language a + (ofComment (throughEnd language (Text.lines b)) +
          ofFresh language (afterEnd language (Text.lines b)))) ∧
    ∀ t, Tells language (Text.lines t) (ofText language t) := by
  have hend := Language.blockEnd_of_mem_registry h
  have hink : ∀ c ∈ "*/".toList, Text.isBlank c = false := by
    have hall : ("*/".toList.all fun c => !Text.isBlank c) = true := by decide
    exact fun c hc => (Bool.not_eq_true' _).mp (List.all_eq_true.mp hall c hc)
  refine ⟨fun hclosed => ofText_append_of_closed hclosed b, fun hopen => ?_, tells_ofText language⟩
  refine ofText_append_of_open ?_ ?_ hopen b
  · rw [hend]
    exact hink
  · rw [hend]
    decide

/-- Two texts with the same text below them, which ends the comment that the second one leaves
open. -/
theorem ofText_append_lineFeed_openComment :
    Language.go ∈ Language.registry ∧
    blockOpenAfter .go false (Text.lines "x := 1".toList) = false ∧
    ofText .go ("x := 1".toList ++ '\n' :: "note\n\nend */ y\nz()".toList) =
      ofText .go "x := 1".toList + ofText .go "note\n\nend */ y\nz()".toList ∧
    blockOpenAfter .go false (Text.lines "/* x".toList) = true ∧
    ofText .go ("/* x".toList ++ '\n' :: "note\n\nend */ y\nz()".toList) =
      ofText .go "/* x".toList + (⟨3, 1, 2, 0⟩ + ⟨1, 0, 0, 1⟩) ∧
    Tells .go (Text.lines "/* x\nnote".toList) ⟨2, 0, 2, 0⟩ := by
  have hgo : Language.go ∈ Language.registry := by simp [Language.registry]
  have hclosed : blockOpenAfter .go false (Text.lines "x := 1".toList) = false := by decide
  have hopen : blockOpenAfter .go false (Text.lines "/* x".toList) = true := by decide
  obtain ⟨-, hadded, htells⟩ :=
    ofText_append_lineFeed hgo "/* x".toList "note\n\nend */ y\nz()".toList
  exact ⟨hgo, hclosed, (ofText_append_lineFeed hgo _ _).1 hclosed, hopen, hadded hopen,
    htells "/* x\nnote".toList⟩

end LineCount

end SourceGrade
