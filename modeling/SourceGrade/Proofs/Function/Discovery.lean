import SourceGrade.Proofs.First
import SourceGrade.Proofs.Function.Find
import SourceGrade.Proofs.Pattern.Scan

set_option autoImplicit false

/-!
# The order of discovery

A language finds functions as its signature patterns capture names, pattern by pattern and for each
of them from left to right. What is captured where the same name was captured on the same line
before is passed over, and so are captures that are no names. Nothing else is lost, and the body of
a function is read from where its name was captured first.
-/

namespace SourceGrade

/-- A piece of a text that a hit marks, and where the hit begins. -/
structure Capture where
  name : String
  /-- The offset at which the hit begins. -/
  start : Nat
  deriving DecidableEq, Repr

namespace Capture

/-- What a hit captures, if it marks a piece. -/
def ofHit? (h : Hit) : Option Capture := h.marked.map fun piece => ⟨String.ofList piece, h.start⟩

/-- The captured piece may name a function: it is not empty and no word of the language. -/
def isName (c : Capture) : Bool := c.name ≠ "" ∧ c.name ∉ FunctionInfo.reservedNames

/-- The captured name with the number of the line on which the hit begins. -/
def place (t : List Char) (c : Capture) : String × Int := (c.name, Text.lineAt t c.start)

/-- The candidate of a capture. -/
def candidate (lines : Text.LineIndex) (c : Capture) : Candidate :=
  ⟨c.name, lines.lineOf c.start, c.start⟩

/-- A hit names a function as it captures a name. -/
theorem nameOf?_eq (h : Hit) :
    FunctionInfo.nameOf? h = ((ofHit? h).filter isName).map Capture.name := by
  unfold FunctionInfo.nameOf? ofHit?
  cases h.marked with
  | none => rfl
  | some piece =>
    dsimp only
    rw [Option.map_some, Option.filter_some]
    have hempty : piece.isEmpty = decide (piece = []) := by cases piece <;> rfl
    have hname : isName ⟨String.ofList piece, h.start⟩ =
        !(piece.isEmpty || FunctionInfo.reservedNames.contains (String.ofList piece)) := by
      unfold isName
      simp [String.ofList_eq_empty_iff, hempty]
    rw [hname]
    cases piece.isEmpty || FunctionInfo.reservedNames.contains (String.ofList piece) <;> rfl

theorem start_of_ofHit? {h : Hit} {c : Capture} (hc : ofHit? h = some c) : c.start = h.start := by
  obtain ⟨piece, -, rfl⟩ := Option.map_eq_some_iff.mp hc
  rfl

end Capture

namespace Language

/-- What the signature patterns of a language capture in a text: pattern by pattern, and for each of
them along its hits. -/
def captures (language : Language) (t : List Char) : List Capture :=
  language.functionPatterns.flatMap fun p => (p.hits t).filterMap Capture.ofHit?

/-- The captures of a language that may name functions. -/
def signatures (language : Language) (t : List Char) : List Capture :=
  (language.captures t).filter Capture.isName

end Language

namespace FunctionInfo

open SourceGrade.Language (signatures)

variable {language : Language} {t : List Char} {limit : Int}

/-- The name of a function with the line on which it begins. -/
def place (f : FunctionInfo) : String × Int := (f.name, f.startLine)

theorem candidates_eq (language : Language) (lines : Text.LineIndex) (t : List Char) :
    candidates language lines t = (language.signatures t).map (Capture.candidate lines) := by
  unfold candidates signatures Language.captures
  rw [List.filter_flatMap, List.map_flatMap]
  refine congrArg (language.functionPatterns.flatMap ·) (funext fun p => ?_)
  rw [List.filter_filterMap, List.map_filterMap]
  refine List.filterMap_congr fun h _ => ?_
  rw [Capture.nameOf?_eq, Option.map_map]
  cases hcapture : Capture.ofHit? h with
  | none => rfl
  | some c =>
    have hstart : c.start = h.start := Capture.start_of_ofHit? hcapture
    rw [Option.filter_some]
    by_cases hname : c.isName = true
    · rw [if_pos hname, Option.map_some, Option.map_some, Function.comp_apply, Capture.candidate,
        hstart]
    · rw [if_neg hname]
      rfl

/-- What is kept of the candidates is what is captured first at its place. -/
theorem firstCandidates_map_candidate (t : List Char) (cs : List Capture) :
    firstCandidates (cs.map (Capture.candidate (.ofText t))) =
      (firstsBy (Capture.place t) cs).map (Capture.candidate (.ofText t)) := by
  have hsame : ∀ a b : Capture,
      ((a.candidate (.ofText t)).name == (b.candidate (.ofText t)).name &&
        (a.candidate (.ofText t)).line == (b.candidate (.ofText t)).line) =
      decide (a.place t = b.place t) := by
    intro a b
    unfold Capture.place Capture.candidate
    dsimp only
    rw [Text.LineIndex.lineOf_ofText, Text.LineIndex.lineOf_ofText, Bool.eq_iff_iff,
      Bool.and_eq_true, beq_iff_eq, beq_iff_eq, decide_eq_true_eq, Prod.mk.injEq, Int.natCast_inj]
  unfold firstCandidates
  rw [eraseDupsBy_map hsame]
  exact congrArg _ (eraseDupsBy_eq_firstsBy (Capture.place t) cs)

/-- The functions of a text are the first signatures at each place, measured by the bodies that
begin there. -/
theorem find_eq (language : Language) (t : List Char) (limit : Int) :
    find language t limit = (firstsBy (Capture.place t) (language.signatures t)).map fun c =>
      ofBody ⟨c.name, Text.lineAt t c.start, c.start⟩
        (Body.lookUp t (.ofText t) (.ofText t) c.start limit) := by
  unfold find
  dsimp only
  rw [candidates_eq, firstCandidates_map_candidate, List.map_map]
  refine List.map_congr_left fun c _ => ?_
  rw [Function.comp_apply, Capture.candidate, Text.LineIndex.lineOf_ofText]

theorem place_find (language : Language) (t : List Char) (limit : Int) :
    (find language t limit).map place =
      (firstsBy (Capture.place t) (language.signatures t)).map (Capture.place t) := by
  rw [find_eq, List.map_map]
  rfl

/-- What is found in a text are the functions that its signatures name, each of them once. -/
structure Discovers (language : Language) (t : List Char) (limit : Int)
    (found : List FunctionInfo) : Prop where
  /-- The hits of a signature pattern are those of the search from left to right in which no two
  overlap. -/
  scans : ∀ p ∈ language.functionPatterns, ∀ hs, p.IsScan t hs ↔ hs = p.hits t
  /-- The names with their lines are the first occurrences of those of the signatures, in order. -/
  places : found.map place = firstsBy id ((language.signatures t).map (Capture.place t))
  /-- A function is measured where its name is captured first on its line. -/
  bodies : found = (firstsBy (Capture.place t) (language.signatures t)).map fun c =>
    ofBody ⟨c.name, Text.lineAt t c.start, c.start⟩
      (Body.lookUp t (.ofText t) (.ofText t) c.start limit)
  /-- No name occurs twice on a line. -/
  distinct : (found.map place).Nodup
  /-- No name is empty or a word of the language. -/
  named : ∀ f ∈ found, f.name ≠ "" ∧ f.name ∉ reservedNames
  /-- No signature is lost. -/
  complete : ∀ c ∈ language.signatures t, c.place t ∈ found.map place

theorem discovers_find (language : Language) (t : List Char) (limit : Int) :
    Discovers language t limit (find language t limit) where
  scans := fun _ _ _ => Pattern.isScan_iff
  places := by rw [place_find, map_firstsBy]
  bodies := find_eq language t limit
  distinct := by
    rw [place_find]
    exact nodup_map_firstsBy _ _
  named := by
    intro f hf
    rw [find_eq] at hf
    obtain ⟨c, hc, rfl⟩ := List.mem_map.mp hf
    have hname : c.isName = true := (List.mem_filter.mp (mem_of_mem_firstsBy hc)).2
    exact of_decide_eq_true hname
  complete := by
    intro c hc
    rw [place_find, mem_map_firstsBy]
    exact List.mem_map_of_mem hc

end FunctionInfo

end SourceGrade
