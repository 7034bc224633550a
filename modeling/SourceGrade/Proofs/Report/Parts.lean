import SourceGrade.Proofs.Function.Discovery
import SourceGrade.Proofs.Language.Registry
import SourceGrade.Proofs.Report.Size

set_option autoImplicit false

/-!
# The parts of a report on their own

The passes over a text can also be run on their own. They then choose the language by its tag and
bring their own limits, and the pass over the names seeks the functions once more, with the usual
room for their bodies. How far a scan may go has no influence on which functions there are, only on
their bodies, and a name is judged without its body. So a report holds what its passes find on their
own, and what is computed of that on its own: `Report.parts_alone`.
-/

namespace SourceGrade

namespace Language

/-- A registered language is the one of its tag. -/
theorem ofTag?_tag {language : Language} (h : language ∈ registry) :
    ofTag? language.tag = some language := by
  simp only [registry, List.mem_cons, List.not_mem_nil, or_false] at h
  rcases h with rfl | rfl | rfl | rfl | rfl | rfl <;> rfl

theorem ofTag?_tag_ofFilename (filename : String) :
    ofTag? (ofFilename filename).tag = some (ofFilename filename) :=
  ofTag?_tag (ofFilename_mem_registry filename)

end Language

namespace FunctionInfo

/-- The same functions are found on the same lines, however far a scan may go. -/
theorem places_find (language : Language) (t : List Char) (a b : Int) :
    (find language t a).map place = (find language t b).map place := by
  rw [place_find, place_find]

theorem places_findByTag (tag : String) (t : List Char) (a b : Int) :
    (findByTag tag t a).map place = (findByTag tag t b).map place := by
  unfold findByTag
  cases Language.ofTag? tag with
  | none => rfl
  | some language => exact places_find language t a b

theorem findByTag_ofFilename (filename : String) (t : List Char) (limit : Int) :
    findByTag (Language.ofFilename filename).tag t limit =
      find (Language.ofFilename filename) t limit := by
  unfold findByTag
  rw [Language.ofTag?_tag_ofFilename]

end FunctionInfo

namespace NamingIssue

open FunctionInfo (place)

/-- The name of a function is judged without its body. -/
theorem issue?_eq (convention : Option NamingConvention) (f : FunctionInfo) :
    issue? convention f =
      issue? convention { name := f.place.1, startLine := f.place.2 } := by
  unfold issue? ofFunction place
  rfl

/-- The issues with names depend on the places of the functions. -/
theorem listed_of_places {fs gs : List FunctionInfo} (h : fs.map place = gs.map place)
    (language : Language) (allowed : List String) (t : List Char) :
    listed language fs allowed t = listed language gs allowed t := by
  have hissues : ∀ (ks : List FunctionInfo), ks.filterMap (issue? (some language.convention)) =
      (ks.map place).filterMap fun p =>
        issue? (some language.convention) { name := p.1, startLine := p.2 } := by
    intro ks
    rw [List.filterMap_map]
    exact List.filterMap_congr fun f _ => issue?_eq _ f
  unfold listed
  rw [hissues fs, hissues gs, h]

/-- Where the functions are sought again, the issues are those with the functions that are found
with any other limit. -/
theorem ofTag_tag_ofFilename (filename : String) (t : List Char) (limit : Int)
    (allowed : List String) :
    ofTag (Language.ofFilename filename).tag t none allowed =
      .ok (listed (Language.ofFilename filename)
        (FunctionInfo.find (Language.ofFilename filename) t limit) allowed t) := by
  unfold ofTag
  rw [Language.ofTag?_tag_ofFilename]
  dsimp only
  rw [Option.getD_none, ofText_find]
  exact congrArg _ (listed_of_places (FunctionInfo.places_find _ t _ limit) _ allowed t)

end NamingIssue

namespace Report

variable {settings : AnalysisSettings} {filename : String} {t : List Char} {r : Report}

/-- A report holds what its passes find on their own. -/
structure HoldsParts (settings : AnalysisSettings) (filename : String) (t : List Char)
    (r : Report) : Prop where
  /-- The issues with names are found without the functions of the report. -/
  issues : NamingIssue.ofTag (Language.ofFilename filename).tag t none settings.shortNameAllowlist =
    .ok r.namingIssues
  /-- Under the usual settings the summary is that of the functions that are found with the usual
  limit. -/
  summary : settings = {} → r.functions =
    .ofFunctions {} (FunctionInfo.findByTag (Language.ofFilename filename).tag t)
  /-- These are all functions of the report. -/
  functions : settings = {} →
    r.functions.all = FunctionInfo.findByTag (Language.ofFilename filename).tag t
  /-- Under the usual settings the names are judged by the customary ones. -/
  customary : settings = {} →
    NamingIssue.ofTag (Language.ofFilename filename).tag t = .ok r.namingIssues
  /-- Under the usual settings the smells are those that are found with the usual limits. -/
  smells : settings = {} → Smell.ofText Smell.usualLineLength Smell.usualNestingDepth
    Smell.usualNumbers t = .ok r.smells
  /-- The summary, the share of the comments and the score are what is computed on its own of what
  the report holds, unless the text is immense. -/
  computed : t.length < Text.immense → Computes settings filename t r

theorem holdsParts (h : ofText settings filename t = .ok r) :
    HoldsParts settings filename t r := by
  have hcomputed : t.length < Text.immense → Computes settings filename t r := computes_of_ofText h
  obtain ⟨hread, rfl⟩ := ofText_eq_ok_iff.mp h
  have hissues := NamingIssue.ofTag_tag_ofFilename filename t settings.bodyScanLimit
    settings.shortNameAllowlist
  have hsummary : settings = {} → (ofReadable settings filename t).functions =
      .ofFunctions {} (FunctionInfo.findByTag (Language.ofFilename filename).tag t) := by
    rintro rfl
    rw [FunctionInfo.findByTag_ofFilename]
    rfl
  refine ⟨hissues, hsummary, ?_, ?_, ?_, hcomputed⟩
  · intro husual
    rw [hsummary husual]
    exact all_ofFunctions _ _
  · rintro rfl
    exact hissues
  · rintro rfl
    exact Smell.ofText_eq_ok_iff.mpr ⟨hread, rfl⟩

/-- Any two limits find the same functions on the same lines, and every report holds what its passes
find on their own and what is computed of that on its own. -/
theorem parts_alone :
    (∀ (tag : String) (t : List Char) (a b : Int),
      (FunctionInfo.findByTag tag t a).map FunctionInfo.place =
        (FunctionInfo.findByTag tag t b).map FunctionInfo.place) ∧
    (∀ (language : Language) (t : List Char) (a b : Int),
      (FunctionInfo.find language t a).map FunctionInfo.place =
        (FunctionInfo.find language t b).map FunctionInfo.place) ∧
    ∀ (settings : AnalysisSettings) (filename : String) (t : List Char) (r : Report),
      ofText settings filename t = .ok r → HoldsParts settings filename t r :=
  ⟨FunctionInfo.places_findByTag, FunctionInfo.places_find, fun _ _ _ _ => holdsParts⟩

/-- A function of two lines with a capital letter. -/
def capitalFunction : List Char := "function GET() ".toList ++ ['{', '\n', '}']

/-- A small limit cuts the body of the function short and leaves the issue with its name. Under the
usual settings the report has the function with its whole body. -/
theorem parts_alone_capitalFunction :
    (∃ r, ofText { bodyScanLimit := 3 } "a.js" capitalFunction = .ok r ∧
      r.functions.all.map (·.lineCount) = [1] ∧
      r.namingIssues = [⟨"function", "GET", "camelCase", 1⟩] ∧
      NamingIssue.ofTag "javascript" capitalFunction = .ok r.namingIssues) ∧
    ∃ r, ofText {} "a.js" capitalFunction = .ok r ∧
      r.functions.all.map (·.lineCount) = [2] ∧
      r.functions.all = FunctionInfo.findByTag "javascript" capitalFunction := by
  have hread : Smell.Readable capitalFunction := Smell.readable_of_length_le (by decide)
  have htag : (Language.ofFilename "a.js").tag = "javascript" := by decide
  have hreport : ∀ settings : AnalysisSettings, ofText settings "a.js" capitalFunction =
      .ok (ofReadable settings "a.js" capitalFunction) :=
    fun _ => ofText_eq_ok_iff.mpr ⟨hread, rfl⟩
  have hissues := (parts_alone.2.2 _ _ _ _ (hreport { bodyScanLimit := 3 })).issues
  have hfunctions := (parts_alone.2.2 _ _ _ _ (hreport {})).functions rfl
  rw [htag] at hissues hfunctions
  refine ⟨⟨_, hreport { bodyScanLimit := 3 }, ?_, ?_, hissues⟩, ⟨_, hreport {}, ?_, hfunctions⟩⟩
  all_goals decide +kernel

end Report

end SourceGrade
