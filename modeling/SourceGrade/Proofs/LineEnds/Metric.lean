import Mathlib.Data.List.Basic
import SourceGrade.Metric.Declarations
import SourceGrade.Metric.Duplication
import SourceGrade.Metric.LineCount
import SourceGrade.Metric.Naming
import SourceGrade.Metric.Smell
import SourceGrade.Proofs.Attempts
import SourceGrade.Proofs.LineEnds.Import

set_option autoImplicit false

/-!
# Measurements and line ends

What is measured line by line does not see the carriage returns of a text whose lines end in two
characters, for lines are trimmed, but for the length of a line. What is measured hit by hit is the
same if the patterns keep their places.
-/

namespace SourceGrade

open Text (crlf crlfOffset withReturns)
open Pattern (KeepsPlaces)

variable {t : List Char}

/-! ## Line by line -/

theorem LineKind.ofLine_eq_of_trim_eq {language : Language} {inBlock : Bool}
    {line line' : List Char} (h : Text.trim line = Text.trim line') :
    ofLine language inBlock line = ofLine language inBlock line' := by
  unfold ofLine
  rw [h]

theorem LineKind.ofLines_eq_of_trim_eq {language : Language} {inBlock : Bool}
    {lines lines' : List (List Char)} (h : lines.map Text.trim = lines'.map Text.trim) :
    ofLines language inBlock lines = ofLines language inBlock lines' := by
  induction lines generalizing inBlock lines' with
  | nil =>
    rw [List.map_nil, eq_comm, List.map_eq_nil_iff] at h
    rw [h]
  | cons line lines ih =>
    obtain ⟨line', rest', rfl, hline, hrest⟩ := List.map_eq_cons_iff.mp h.symm
    unfold ofLines
    rw [ofLine_eq_of_trim_eq hline.symm, ih hrest.symm]

theorem LineCount.ofText_crlf (language : Language) (t : List Char) :
    ofText language (crlf t) = ofText language t := by
  unfold ofText
  rw [LineKind.ofLines_eq_of_trim_eq (Text.map_trim_lines_crlf t)]

theorem Duplication.ofText_crlf (t : List Char) : ofText (crlf t) = ofText t := by
  unfold ofText significantLines
  rw [Text.map_trim_lines_crlf]

namespace Smell

/-- The lengths of lines that leave room for a carriage return. -/
theorem longLines_withReturns {allowed : Int} {lines : List (List Char)}
    (h : ∀ line ∈ lines.dropLast, (line.length : Int) < allowed) :
    longLines allowed (withReturns lines) = longLines allowed lines := by
  unfold longLines
  generalize 1 = number
  induction lines generalizing number with
  | nil => rfl
  | cons line rest ih =>
    cases rest with
    | nil => rfl
    | cons next rest =>
      rw [List.dropLast_cons_of_ne_nil (List.cons_ne_nil next rest), List.forall_mem_cons] at h
      have hshort : ¬allowed < ((line ++ ['\r']).length : Int) := by
        rw [List.length_append, List.length_singleton]
        omega
      have hshort' : ¬allowed < (line.length : Int) := by omega
      rw [Text.withReturns_cons line (List.cons_ne_nil next rest), List.zipIdx_cons,
        List.zipIdx_cons]
      simp only [List.filterMap_cons, hshort, hshort', if_false, ih h.2]

theorem nestedFrom_eq_of_lineDepth_eq {allowed depth : Int} {number : Nat}
    {lines lines' : List (List Char)} (h : lines.map lineDepth = lines'.map lineDepth) :
    nestedFrom allowed depth number lines = nestedFrom allowed depth number lines' := by
  induction lines generalizing depth number lines' with
  | nil =>
    rw [List.map_nil, eq_comm, List.map_eq_nil_iff] at h
    rw [h]
  | cons line lines ih =>
    obtain ⟨line', rest', rfl, hline, hrest⟩ := List.map_eq_cons_iff.mp h.symm
    unfold nestedFrom
    dsimp only
    rw [hline, ih hrest.symm]

theorem lineDepth_concat_return (line : List Char) :
    lineDepth (line ++ ['\r']) = lineDepth line := by
  unfold lineDepth
  rw [List.count_append, List.count_append]
  rfl

theorem deepNesting_crlf (allowed : Int) (t : List Char) :
    deepNesting allowed (Text.lines (crlf t)) = deepNesting allowed (Text.lines t) := by
  unfold deepNesting
  rw [Text.lines_crlf]
  exact nestedFrom_eq_of_lineDepth_eq (Text.map_withReturns lineDepth_concat_return _)

end Smell

/-! ## Hit by hit -/

/-- What is told of hits by their marks and lines is told of what they become. -/
theorem map_hits_crlf {α : Type} {p : Pattern} (hp : KeepsPlaces t [] p)
    (hmarks : p.marksInLine = true) (f : Option (List Char) → Nat → α) :
    ((p.hits (crlf t)).map fun h => f h.marked ((Text.LineIndex.ofText (crlf t)).lineOf h.start)) =
      (p.hits t).map fun h => f h.marked ((Text.LineIndex.ofText t).lineOf h.start) := by
  rw [Pattern.hits_crlf hp, List.map_map]
  refine List.map_congr_left fun h hmem => ?_
  rw [Function.comp_apply, Pattern.marked_twinHit hmarks hmem, Pattern.lineOf_twinHit hmem]

theorem keepsPlaces_of_steady (t : List Char) {p : Pattern} (hp : p.steady = true) :
    KeepsPlaces t [] p := Pattern.keepsPlaces_of_steady (.inl rfl) hp

namespace Smell

theorem todos_crlf (t : List Char) :
    todos (crlf t) (.ofText (crlf t)) = todos t (.ofText t) :=
  map_hits_crlf (keepsPlaces_of_steady t (by decide)) (by decide)
    fun marked line => (Finding.todo (marked.getD [])).onLine line

theorem debugOutput_crlf (t : List Char) :
    debugOutput (crlf t) (.ofText (crlf t)) = debugOutput t (.ofText t) := by
  have hall : ∀ p ∈ debugCalls, p.1.steady = true ∧ p.1.marksInLine = true := by decide
  unfold debugOutput
  refine List.flatMap_congr fun p hmem => ?_
  obtain ⟨hsteady, hmarks⟩ := hall p hmem
  exact map_hits_crlf (keepsPlaces_of_steady t hsteady) hmarks
    fun _ line => (Finding.debugOutput p.2).onLine line

theorem emptyCatches_crlf (hp : KeepsPlaces t [] swallowedError) :
    emptyCatches (crlf t) (.ofText (crlf t)) = emptyCatches t (.ofText t) :=
  map_hits_crlf hp (by decide) fun _ line => Finding.emptyCatch.onLine line

theorem magicNumbers_crlf (allowed : List Int) (t : List Char) :
    magicNumbers allowed (crlf t) (.ofText (crlf t)) = magicNumbers allowed t (.ofText t) := by
  unfold magicNumbers
  rw [Pattern.hits_crlf (keepsPlaces_of_steady t (by decide)), mapM_map_eq fun h hmem => ?_]
  rw [Pattern.marked_twinHit (by decide) hmem, Pattern.lineOf_twinHit hmem]

/-- The same smells are found in a text whose lines end in two characters, or none in either. -/
theorem ofText_crlf {maxLineLength : Int} (maxNestingDepth : Int) (allowedNumbers : List Int)
    (hlines : ∀ line ∈ (Text.lines t).dropLast, (line.length : Int) < maxLineLength)
    (hp : KeepsPlaces t [] swallowedError) :
    ofText maxLineLength maxNestingDepth allowedNumbers (crlf t) =
      ofText maxLineLength maxNestingDepth allowedNumbers t := by
  unfold ofText
  dsimp only
  rw [magicNumbers_crlf, todos_crlf, debugOutput_crlf, emptyCatches_crlf hp, deepNesting_crlf,
    Text.lines_crlf, longLines_withReturns hlines]

end Smell

theorem NamingIssue.ofVariables_crlf (allowed : List String) (t : List Char) :
    ofVariables allowed (crlf t) = ofVariables allowed t := by
  unfold ofVariables
  dsimp only
  rw [Pattern.hits_crlf (keepsPlaces_of_steady t (by decide)), List.filterMap_map]
  refine List.filterMap_congr fun h hmem => ?_
  rw [Function.comp_apply, Pattern.marked_twinHit (by decide) hmem, Pattern.lineOf_twinHit hmem]

namespace Metric

theorem countTypes_crlf {language : Language} (hp : KeepsPlaces t [] language.typePattern) :
    countTypes language (crlf t) = countTypes language t := by
  unfold countTypes
  rw [← Pattern.countHits_twin hp (.inl rfl), List.append_nil]

/-- The same modules are imported, since a group of imports is cut into its lines. -/
theorem imports_crlf {language : Language} (ht : '\r' ∉ t)
    (hp : KeepsPlaces t [] language.importPattern) :
    imports language (crlf t) = imports language t := by
  unfold imports
  rw [Pattern.hits_crlf hp, List.flatMap_map]
  refine congrArg List.eraseDups (List.flatMap_congr fun h hmem => ?_)
  unfold modulesOfHit Pattern.twinHit
  dsimp only
  cases hmarked : h.marked with
  | none => rfl
  | some piece =>
    have hpiece : '\r' ∉ piece := fun hin => ht ((Pattern.marked_of_mem_hits hmem hmarked).1 hin)
    rw [Option.map_some]
    dsimp only
    rw [Text.pieces_crlf hpiece]

end Metric

end SourceGrade
