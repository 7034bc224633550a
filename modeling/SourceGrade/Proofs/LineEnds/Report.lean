import SourceGrade.Proofs.Language.Registry
import SourceGrade.Proofs.LineEnds.Find
import SourceGrade.Proofs.LineEnds.Metric
import SourceGrade.Proofs.Report.Analysis

set_option autoImplicit false

/-!
# Reports and line ends

A text whose lines end in two characters is judged as the same text with line feeds alone, as long
as no limit on a number of characters is passed because of the carriage returns and no import is
taken apart by a line end: `Report.withoutBodies_ofText_crlf`. A line that is as long as is allowed
shows that the first cannot be left out, for the carriage return counts.
-/

namespace SourceGrade

open Text (crlf)
open Pattern (KeepsPlaces)

namespace FunctionSummary

/-- A summary of functions without their bodies. -/
def withoutBodies (s : FunctionSummary) : FunctionSummary :=
  { s with
    longFunctions := s.longFunctions.map (·.withoutBody)
    complexFunctions := s.complexFunctions.map (·.withoutBody)
    all := s.all.map (·.withoutBody) }

theorem meanComplexity_withoutBody (fs : List FunctionInfo) :
    meanComplexity (fs.map (·.withoutBody)) = meanComplexity fs := by
  unfold meanComplexity
  rw [List.map_map, List.length_map, List.isEmpty_map]
  rfl

/-- The bodies are left out before or after functions are summarized. -/
theorem withoutBodies_ofFunctions (settings : AnalysisSettings) (fs : List FunctionInfo) :
    (ofFunctions settings fs).withoutBodies =
      ofFunctions settings (fs.map (·.withoutBody)) := by
  unfold ofFunctions withoutBodies
  rw [meanComplexity_withoutBody, List.map_map, List.filter_map, List.filter_map, List.length_map]
  rfl

end FunctionSummary

/-- Names are judged without bodies. -/
theorem NamingIssue.listed_withoutBody (language : Language) (fs : List FunctionInfo)
    (allowed : List String) (t : List Char) :
    listed language (fs.map (·.withoutBody)) allowed t = listed language fs allowed t := by
  unfold listed
  rw [List.filterMap_map]
  rfl

theorem NamingIssue.listed_crlf (language : Language) (fs : List FunctionInfo)
    (allowed : List String) (t : List Char) :
    listed language fs allowed (crlf t) = listed language fs allowed t := by
  unfold listed
  rw [ofVariables_crlf]

namespace Report

/-- A report without the bodies of functions, which are only handed out on demand. -/
def withoutBodies (r : Report) : Report := { r with functions := r.functions.withoutBodies }

theorem withoutBodies_assemble (settings : AnalysisSettings) (filename : String)
    (language : Language) (t : List Char) (fs : List FunctionInfo) (issues : List NamingIssue)
    (smells : List Smell) :
    (assemble settings filename language t fs issues smells).withoutBodies =
      assemble settings filename language t (fs.map (·.withoutBody)) issues smells := by
  have hlong : (FunctionSummary.ofFunctions settings fs).longFunctions.length =
      (FunctionSummary.ofFunctions settings (fs.map (·.withoutBody))).longFunctions.length := by
    rw [← FunctionSummary.withoutBodies_ofFunctions]
    exact (List.length_map _).symm
  unfold assemble withoutBodies signals
  dsimp only
  rw [FunctionSummary.withoutBodies_ofFunctions, FunctionSummary.meanComplexity_withoutBody, hlong]

/-- A report without bodies is made from functions without bodies. -/
theorem map_withoutBodies_ofText (settings : AnalysisSettings) (filename : String)
    (t : List Char) :
    (ofText settings filename t).map withoutBodies =
      let language := Language.ofFilename filename
      let fs := (FunctionInfo.find language t settings.bodyScanLimit).map (·.withoutBody)
      ((Smell.ofText settings.maxLineLength settings.maxNestingDepth settings.magicNumberAllowlist
        t).mapError .smells).map
        (assemble settings filename language t fs
          (NamingIssue.listed language fs settings.shortNameAllowlist t)) := by
  unfold ofText
  dsimp only
  rw [NamingIssue.ofText_find, NamingIssue.listed_withoutBody]
  cases Smell.ofText settings.maxLineLength settings.maxNestingDepth
      settings.magicNumberAllowlist t with
  | error e => rfl
  | ok smells => exact congrArg Except.ok (withoutBodies_assemble ..)

theorem assemble_crlf {settings : AnalysisSettings} {filename : String} {language : Language}
    {t : List Char} {fs : List FunctionInfo} {issues : List NamingIssue} (ht : '\r' ∉ t)
    (htype : KeepsPlaces t [] language.typePattern)
    (himport : KeepsPlaces t [] language.importPattern) :
    assemble settings filename language (crlf t) fs issues =
      assemble settings filename language t fs issues := by
  funext smells
  unfold assemble signals
  rw [LineCount.ofText_crlf, Duplication.ofText_crlf, Metric.countTypes_crlf htype,
    Metric.imports_crlf ht himport]

/-- A text has room for carriage returns in front of its line feeds: no limit on a number of
characters is passed because of them, and no import consists of line ends. -/
structure HasRoomForReturns (settings : AnalysisSettings) (language : Language)
    (t : List Char) : Prop where
  /-- There is no carriage return yet. -/
  returns : '\r' ∉ t
  /-- A line that a line feed ends is shorter than a line may be. -/
  lines : ∀ line ∈ (Text.lines t).dropLast, (line.length : Int) < settings.maxLineLength
  /-- The lists in brackets that the patterns come to stay within their bounds. -/
  runs : ∀ p ∈ Smell.swallowedError :: language.importPattern :: language.functionPatterns,
    ∀ i ≤ t.length, p.hasRoom (.atOffset t i) = true
  /-- Bodies are scanned for their end. -/
  scan : 0 ≤ settings.bodyScanLimit
  /-- The bodies of functions are scanned to their end. -/
  bodies : ∀ f ∈ FunctionInfo.find language t settings.bodyScanLimit,
    ((crlf f.body).length : Int) ≤ settings.bodyScanLimit + 1
  /-- Every import has something other than a line end between its words. -/
  imports : Language.brokenImport.hits t = []

variable {settings : AnalysisSettings} {filename : String} {t : List Char}

/-- The signature patterns of every language keep their places where there is room. -/
theorem keepsPlaces_functionPatterns
    (h : HasRoomForReturns settings (Language.ofFilename filename) t) :
    ∀ p ∈ (Language.ofFilename filename).functionPatterns,
      KeepsPlaces t [] p ∧ p.marksInLine = true := by
  have hall : ∀ l ∈ Language.registry, ∀ p ∈ l.functionPatterns,
      p.immune = true ∧ p.marksInLine = true := by decide
  intro p hp
  obtain ⟨himmune, hmarks⟩ := hall _ (Language.ofFilename_mem_registry filename) p hp
  exact ⟨Pattern.keepsPlaces_of_immune (.inl rfl) himmune
    (h.runs p (List.mem_cons_of_mem _ (List.mem_cons_of_mem _ hp))), hmarks⟩

theorem keepsPlaces_typePattern (filename : String) (t : List Char) :
    KeepsPlaces t [] (Language.ofFilename filename).typePattern := by
  have hall : ∀ l ∈ Language.registry, l.typePattern.steady = true := by decide
  exact keepsPlaces_of_steady t (hall _ (Language.ofFilename_mem_registry filename))

theorem keepsPlaces_importPattern
    (h : HasRoomForReturns settings (Language.ofFilename filename) t) :
    KeepsPlaces t [] (Language.ofFilename filename).importPattern := by
  have hmem := Language.ofFilename_mem_registry filename
  have hruns := h.runs _ (List.mem_cons_of_mem _ List.mem_cons_self)
  generalize Language.ofFilename filename = language at hmem hruns
  have hall : ∀ l ∈ [Language.csharp, .dart, .go], l.importPattern.immune = true := by decide
  have hcases : language.importPattern = Language.importFrom ∨
      language.importPattern.immune = true := by
    simp only [Language.registry, List.mem_cons, List.not_mem_nil, or_false] at hmem
    rcases hmem with rfl | rfl | rfl | rfl | rfl | rfl
    all_goals first | exact .inl rfl | exact .inr (hall _ (by simp))
  rcases hcases with heq | himmune
  · rw [heq]
    exact Language.keepsPlaces_importFrom h.imports
  · exact Pattern.keepsPlaces_of_immune (.inl rfl) himmune hruns

/-- The functions of a text with room for carriage returns do not depend on them. -/
theorem find_crlf (h : HasRoomForReturns settings (Language.ofFilename filename) t) :
    (FunctionInfo.find (Language.ofFilename filename) (crlf t) settings.bodyScanLimit).map
        (·.withoutBody) =
      (FunctionInfo.find (Language.ofFilename filename) t settings.bodyScanLimit).map
        (·.withoutBody) := by
  have hbodies := h.bodies
  obtain ⟨limit, hlimit⟩ := Int.eq_ofNat_of_zero_le h.scan
  rw [hlimit] at hbodies ⊢
  exact FunctionInfo.find_crlf (keepsPlaces_functionPatterns h) fun f hf =>
    Int.ofNat_le.mp (hbodies f hf)

/-- A text whose lines end in two characters has the report of the same text with line feeds alone,
but for the text of bodies, if there is room for the carriage returns; and a reader that unifies
line ends gets the text with line feeds alone. -/
theorem withoutBodies_ofText_crlf
    (h : HasRoomForReturns settings (Language.ofFilename filename) t) :
    (ofText settings filename (crlf t)).map withoutBodies =
        (ofText settings filename t).map withoutBodies ∧
      Text.unifyLineEnds (crlf t) = t := by
  refine ⟨?_, Text.unifyLineEnds_crlf h.returns⟩
  have hcatch : KeepsPlaces t [] Smell.swallowedError :=
    Pattern.keepsPlaces_of_immune (.inl rfl) (by decide) (h.runs _ List.mem_cons_self)
  rw [map_withoutBodies_ofText, map_withoutBodies_ofText]
  dsimp only
  rw [Smell.ofText_crlf _ _ h.lines hcatch, find_crlf h, NamingIssue.listed_crlf,
    assemble_crlf h.returns (keepsPlaces_typePattern filename t) (keepsPlaces_importPattern h)]

/-- A short function after an import. -/
def shortModule : List Char :=
  "import m from 'n'\nfunction f(a) \x7b\n\x7d\n".toList

theorem withoutBodies_ofText_crlf_shortModule :
    HasRoomForReturns {} (Language.ofFilename "a.js") shortModule ∧
    (ofText {} "a.js" (crlf shortModule)).map withoutBodies =
        (ofText {} "a.js" shortModule).map withoutBodies ∧
      Text.unifyLineEnds (crlf shortModule) = shortModule := by
  have hroom : HasRoomForReturns {} (Language.ofFilename "a.js") shortModule := {
    returns := by decide +kernel
    lines := by decide +kernel
    runs := by decide +kernel
    scan := by decide
    bodies := by decide +kernel
    imports := by decide +kernel }
  exact ⟨hroom, withoutBodies_ofText_crlf hroom⟩

/-- A line that is as long as a line may be, with a line feed. -/
def fullLine : List Char := List.replicate 120 'a' ++ ['\n']

/-- A text may be judged differently if its lines end in two characters: the carriage return counts
as a character of its line. -/
theorem smells_crlf_differ : ¬∀ (filename : String) (t : List Char), '\r' ∉ t →
    (ofText {} filename (crlf t)).map (·.smells) = (ofText {} filename t).map (·.smells) := by
  intro hall
  exact absurd (hall "a.js" fullLine (by decide)) (by decide +kernel)

end Report

end SourceGrade
