import SourceGrade.Metric.Duplication
import SourceGrade.Metric.LineCount
import SourceGrade.Proofs.Language.Registry
import SourceGrade.Proofs.Pattern.Outcomes

set_option autoImplicit false

/-!
# Two notions of a comment

The count of lines follows a block comment from line to line. The search for repeated fragments
looks at each line by itself and knows a comment by its first characters. So the two agree on a
significant line exactly where no block comment is open before it: inside a block comment the line
is a comment for the count and still significant for the search.
-/

namespace SourceGrade

namespace Duplication

/-- What begins a comment or a directive, as far as a single line shows. -/
def commentMarks : List String := ["//", "/*", "*", "#"]

theorem matchesStart_of_mark {line : List Char} {mark : String} (hmark : mark ∈ commentMarks)
    (h : mark.toList.isPrefixOf line = true) : insignificantStart.matchesStart line = true := by
  obtain ⟨rest, hrest⟩ := List.isPrefixOf_iff_prefix.mp h
  have hpatterns : insignificantStart = Pattern.anyOf (commentMarks.map Pattern.word ++
      [.inOrder [.word "import", .wordEdge], .inOrder [.word "using", .wordEdge]]) := rfl
  have hmem : (Cursor.ofText line).past mark.toList rest ∈
      insignificantStart.outcomes (.ofText line) := by
    rw [hpatterns, Pattern.mem_outcomes_anyOf]
    exact ⟨.word mark, List.mem_append_left _ (List.mem_map_of_mem hmark),
      Pattern.mem_outcomes_text.mpr ⟨rest, hrest.symm, rfl⟩⟩
  unfold Pattern.matchesStart
  rw [Pattern.firstOutcome?_eq_head?, List.isSome_head?]
  exact List.ne_nil_of_mem hmem

/-- A significant line does not begin with the mark of a comment or a directive. -/
theorem not_begins_of_isSignificant {line : List Char} (h : isSignificant line = true)
    (mark : String) (hmark : mark ∈ commentMarks) : mark.toList.isPrefixOf line = false := by
  unfold isSignificant at h
  rw [Bool.and_eq_true, Bool.not_eq_true'] at h
  refine Bool.eq_false_iff.mpr fun hbegins => ?_
  rw [matchesStart_of_mark hmark hbegins] at h
  exact Bool.noConfusion h.2

theorem ne_nil_of_isSignificant {line : List Char} (h : isSignificant line = true) :
    line ≠ [] := by
  rintro rfl
  unfold isSignificant at h
  simp at h

end Duplication

namespace LineKind

open Duplication (isSignificant)
open Text (trim)

/-- Whether a block comment is open after lines. -/
def blockOpenAfter (language : Language) (inBlock : Bool) (lines : List (List Char)) : Bool :=
  lines.foldl (fun inBlock line => (ofLine language inBlock line).2) inBlock

/-- The lines that a block comment is open before. -/
def linesInBlock (language : Language) (inBlock : Bool) : List (List Char) → List (List Char)
  | [] => []
  | line :: rest =>
    (if inBlock then [line] else []) ++ linesInBlock language (ofLine language inBlock line).2 rest

/-- What a line holds depends on the earlier lines only by whether they leave a block comment
open. -/
theorem getElem?_ofLines (language : Language) (inBlock : Bool) (lines : List (List Char))
    (i : Nat) :
    (ofLines language inBlock lines)[i]? = lines[i]?.map fun line =>
      (ofLine language (blockOpenAfter language inBlock (lines.take i)) line).1 := by
  induction lines generalizing inBlock i with
  | nil => simp [ofLines]
  | cons line rest ih =>
    cases i with
    | zero => simp [ofLines, blockOpenAfter]
    | succ i => simpa [ofLines, blockOpenAfter] using ih _ i

variable {language : Language}

/-- A significant line is a comment inside a block comment, and code outside of any. -/
theorem ofLine_of_isSignificant (hmarks : language.MarksLikeC) (inBlock : Bool) {line : List Char}
    (h : isSignificant (trim line) = true) :
    (ofLine language inBlock line).1 = if inBlock then .comment else .code := by
  have hnotEmpty : (trim line).isEmpty = false := by
    rw [List.isEmpty_eq_false_iff]
    exact Duplication.ne_nil_of_isSignificant h
  have hline := Duplication.not_begins_of_isSignificant h "//" (by decide)
  have hblock := Duplication.not_begins_of_isSignificant h "/*" (by decide)
  have hdirective : directiveMark.isPrefixOf (trim line) = false :=
    Duplication.not_begins_of_isSignificant h "#" (by decide)
  unfold ofLine
  simp only [hnotEmpty, hmarks.lineComment, hmarks.blockStart, hline, hblock, hdirective]
  cases inBlock <;> rfl

/-- Every significant line is counted as code or lies inside a block comment. -/
theorem length_significant_le (hmarks : language.MarksLikeC) (inBlock : Bool)
    (lines : List (List Char)) :
    ((lines.map trim).filter isSignificant).length ≤
      (ofLines language inBlock lines).count .code +
        (((linesInBlock language inBlock lines).map trim).filter isSignificant).length := by
  induction lines generalizing inBlock with
  | nil => exact Nat.zero_le _
  | cons line rest ih =>
    have hrest := ih (ofLine language inBlock line).2
    unfold ofLines linesInBlock
    rw [List.map_cons, List.filter_cons, List.count_cons, List.map_append, List.filter_append,
      List.length_append]
    by_cases hs : isSignificant (trim line) = true
    · rw [if_pos hs, List.length_cons, ofLine_of_isSignificant hmarks inBlock hs]
      cases inBlock with
      | false =>
        rw [if_neg Bool.false_ne_true, if_pos (by rfl)]
        omega
      | true =>
        simp only [if_true, List.map_cons, List.map_nil, List.filter_cons, hs, List.filter_nil,
          List.length_singleton]
        omega
    · rw [if_neg hs]
      omega

end LineKind

namespace Duplication

/-- A significant line of a file is counted as code if and only if no block comment is open before
it. So there are at most as many significant lines as code lines, but for those inside block
comments. -/
theorem code_iff_outside_block (filename : String) (t : List Char) :
    (∀ i line, (Text.lines t)[i]? = some line → isSignificant (Text.trim line) = true →
      ((LineKind.ofLines (Language.ofFilename filename) false (Text.lines t))[i]? = some .code ↔
        LineKind.blockOpenAfter (Language.ofFilename filename) false
          ((Text.lines t).take i) = false)) ∧
    ((significantLines t).length : Int) ≤
      (LineCount.ofText (Language.ofFilename filename) t).code +
        (((LineKind.linesInBlock (Language.ofFilename filename) false (Text.lines t)).map
          Text.trim).filter isSignificant).length := by
  have hmarks := Language.marksLikeC_ofFilename filename
  constructor
  · intro i line hline hs
    rw [LineKind.getElem?_ofLines, hline, Option.map_some, Option.some.injEq,
      LineKind.ofLine_of_isSignificant hmarks _ hs]
    cases LineKind.blockOpenAfter (Language.ofFilename filename) false ((Text.lines t).take i) <;>
      simp
  · unfold significantLines LineCount.ofText LineCount.ofKinds
    dsimp only
    exact_mod_cast LineKind.length_significant_le hmarks false (Text.lines t)

/-- A block comment with a line of words. -/
def wordsInBlock : List Char := "/*\nsome words in a comment\n*/".toList

/-- The significant lines of a text may outnumber its code lines. -/
theorem significant_outnumber_code :
    ¬∀ t : List Char,
      ((significantLines t).length : Int) ≤ (LineCount.ofText Language.fallback t).code := by
  intro hall
  exact absurd (hall wordsInBlock) (by decide)

end Duplication

end SourceGrade
