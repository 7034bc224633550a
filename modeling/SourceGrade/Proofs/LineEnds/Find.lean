import Mathlib.Data.List.Basic
import SourceGrade.Proofs.Function.Find
import SourceGrade.Proofs.LineEnds.Body
import SourceGrade.Proofs.LineEnds.Hits

set_option autoImplicit false

/-!
# Functions and line ends

In a text whose lines end in two characters the same functions are found as in the text with line
feeds alone, if the signature patterns keep their places and each body is still short enough to be
scanned. All that differs is the text of the bodies.
-/

namespace SourceGrade

open Text (crlf crlfOffset IsTail)
open Pattern (KeepsPlaces)

/-- The complexity of a body does not depend on its line ends. -/
theorem Complexity.estimate_crlf (body : List Char) {tail : List Char} (htail : IsTail tail) :
    estimate (crlf body ++ tail) = estimate body := by
  have hsteady : ∀ p ∈ decisions, p.steady = true := by decide
  unfold estimate
  rw [List.map_congr_left fun p hp =>
    Pattern.countHits_twin (Pattern.keepsPlaces_of_steady htail (hsteady p hp)) htail]

theorem Text.lineFeeds_crlf_append (body : List Char) {tail : List Char} (htail : IsTail tail) :
    lineFeeds (crlf body ++ tail) = lineFeeds body := by
  rw [lineFeeds_append, lineFeeds_crlf]
  rcases htail with rfl | rfl <;> rfl

namespace FunctionInfo

/-- What a candidate becomes. -/
def twinCandidate (t : List Char) (c : Candidate) : Candidate :=
  { c with start := crlfOffset t c.start }

/-- What is told of a function without its text. -/
def withoutBody (f : FunctionInfo) : FunctionInfo := { f with body := [] }

variable {t : List Char} {language : Language}

/-- The candidates become what is found in the other text. -/
theorem candidates_crlf
    (hp : ∀ p ∈ language.functionPatterns, KeepsPlaces t [] p ∧ p.marksInLine = true) :
    candidates language (.ofText (crlf t)) (crlf t) =
      (candidates language (.ofText t) t).map (twinCandidate t) := by
  unfold candidates
  rw [List.map_flatMap]
  refine List.flatMap_congr fun p hmem => ?_
  obtain ⟨hkeeps, hmarks⟩ := hp p hmem
  rw [Pattern.hits_crlf hkeeps, List.filterMap_map, List.map_filterMap]
  refine List.filterMap_congr fun h hh => ?_
  have hname : nameOf? (Pattern.twinHit t h) = nameOf? h := by
    unfold nameOf?
    rw [Pattern.marked_twinHit hmarks hh]
  rw [Function.comp_apply, hname, Pattern.lineOf_twinHit hh, Option.map_map]
  rfl

theorem firstCandidates_map_twin (cs : List Candidate) :
    firstCandidates (cs.map (twinCandidate t)) = (firstCandidates cs).map (twinCandidate t) :=
  eraseDupsBy_map (fun _ _ => rfl) cs

/-- What is told of a function does not change with the line ends of its body. -/
theorem withoutBody_ofBody_crlf (c : Candidate) (body : List Char) {tail : List Char}
    (htail : IsTail tail) :
    (ofBody (twinCandidate t c) (crlf body ++ tail)).withoutBody = (ofBody c body).withoutBody := by
  unfold ofBody withoutBody
  simp only [Complexity.estimate_crlf body htail, Text.lineFeeds_crlf_append body htail]
  rfl

theorem start_le_length {c : Candidate} (h : c ∈ candidates language (.ofText t) t) :
    c.start ≤ t.length := by
  obtain ⟨p, -, hit, hmem, -, -, hstart⟩ := exists_hit_of_mem_candidates h
  obtain ⟨i, d, hfinds, rfl⟩ := Pattern.findsAt_of_mem_hits hmem
  rw [hstart]
  exact hfinds.lt_length.le

/-- The same functions are found in a text whose lines end in two characters. -/
theorem find_crlf {limit : Nat}
    (hp : ∀ p ∈ language.functionPatterns, KeepsPlaces t [] p ∧ p.marksInLine = true)
    (hbodies : ∀ f ∈ find language t limit, (crlf f.body).length ≤ limit + 1) :
    (find language (crlf t) limit).map withoutBody = (find language t limit).map withoutBody := by
  unfold find at hbodies ⊢
  dsimp only at hbodies ⊢
  rw [candidates_crlf hp, firstCandidates_map_twin, List.map_map, List.map_map, List.map_map]
  refine List.map_congr_left fun c hc => ?_
  have hstart := start_le_length ((firstCandidates_sublist _).subset hc)
  have hroom := hbodies _ (List.mem_map_of_mem hc)
  have hstart' : crlfOffset t c.start ≤ (crlf t).length := Text.crlfOffset_le_length hstart
  unfold ofBody at hroom
  rw [Body.lookUp_eq_ofRest hstart] at hroom
  obtain ⟨tail, htail, hbody⟩ := Body.ofRest_crlf hroom
  rw [← Text.drop_crlf hstart] at hbody
  simp only [Function.comp_apply]
  rw [Body.lookUp_eq_ofRest hstart, ← withoutBody_ofBody_crlf c _ htail, ← hbody,
    ← Body.lookUp_eq_ofRest hstart']
  rfl

end FunctionInfo

end SourceGrade
