import SourceGrade.Function.Find
import SourceGrade.Proofs.Pattern.Pieces
import SourceGrade.Proofs.Sublist
import SourceGrade.Proofs.Text.Lines

set_option autoImplicit false

/-!
# The names and places of functions

A function is named as a hit of a signature pattern marks it, and a hit that marks nothing is passed
over. So every function that is found has a name with a first letter, and its body is a piece of the
text that begins where the hit does.
-/

namespace SourceGrade

/-- A body that is looked up is a piece of the text from the signature on. -/
theorem Body.lookUp_prefix (t : List Char) (braces : BraceIndex)
    (lines : Text.LineIndex) (start : Nat) (limit : Int) :
    Body.lookUp t braces lines start limit <+: t.drop start := by
  unfold Body.lookUp
  split
  · exact List.take_prefix _ _
  · exact List.take_prefix _ _

namespace FunctionInfo

theorem firstCandidates_sublist (cs : List Candidate) : (firstCandidates cs).Sublist cs :=
  eraseDupsBy_sublist _ cs

/-- The name that a hit gives is not empty. -/
theorem toList_ne_nil_of_nameOf? {h : Hit} {name : String} (heq : nameOf? h = some name) :
    name.toList ≠ [] := by
  unfold nameOf? at heq
  cases hmarked : h.marked with
  | none =>
    rw [hmarked] at heq
    cases heq
  | some piece =>
    rw [hmarked] at heq
    cases piece with
    | nil => cases heq
    | cons c cs =>
      dsimp only at heq
      split at heq
      · cases heq
      · rw [← Option.some.inj heq, String.toList_ofList]
        exact List.cons_ne_nil c cs

/-- A candidate is a hit of a signature pattern that marks a name. -/
theorem exists_hit_of_mem_candidates {language : Language} {lines : Text.LineIndex}
    {t : List Char} {c : Candidate} (hmem : c ∈ candidates language lines t) :
    ∃ pattern ∈ language.functionPatterns, ∃ h ∈ pattern.hits t,
      nameOf? h = some c.name ∧ c.line = lines.lineOf h.start ∧ c.start = h.start := by
  unfold candidates at hmem
  obtain ⟨pattern, hpattern, hmem⟩ := List.mem_flatMap.mp hmem
  obtain ⟨h, hh, hmem⟩ := List.mem_filterMap.mp hmem
  obtain ⟨name, hname, rfl⟩ := Option.map_eq_some_iff.mp hmem
  exact ⟨pattern, hpattern, h, hh, hname, rfl, rfl⟩

/-- Every function that is found comes from a candidate, and its body is looked up there. -/
theorem exists_candidate_of_mem_find {language : Language} {t : List Char} {limit : Int}
    {f : FunctionInfo} (hmem : f ∈ find language t limit) :
    ∃ c ∈ candidates language (.ofText t) t,
      f = ofBody c (Body.lookUp t (.ofText t) (.ofText t) c.start limit) := by
  unfold find at hmem
  obtain ⟨c, hc, rfl⟩ := List.mem_map.mp hmem
  exact ⟨c, (firstCandidates_sublist _).subset hc, rfl⟩

/-- Every function that is found has a name with a first letter. -/
theorem name_ne_nil_of_mem_find {language : Language} {t : List Char} {limit : Int}
    {f : FunctionInfo} (hmem : f ∈ find language t limit) : f.name.toList ≠ [] := by
  obtain ⟨c, hc, rfl⟩ := exists_candidate_of_mem_find hmem
  obtain ⟨_, -, h, -, hname, -, -⟩ := exists_hit_of_mem_candidates hc
  exact toList_ne_nil_of_nameOf? hname

/-- A name is what a hit marks. -/
theorem marked_of_nameOf? {h : Hit} {name : String} (heq : nameOf? h = some name) :
    h.marked = some name.toList := by
  unfold nameOf? at heq
  cases hmarked : h.marked with
  | none =>
    rw [hmarked] at heq
    cases heq
  | some piece =>
    rw [hmarked] at heq
    dsimp only at heq
    split at heq
    · cases heq
    · rw [← Option.some.inj heq, String.toList_ofList]

/-- The name of a function lies on one line. -/
theorem lineFeed_notMem_name {language : Language} (hlanguage : language ∈ Language.registry)
    {t : List Char} {limit : Int} {f : FunctionInfo} (h : f ∈ find language t limit) :
    '\n' ∉ f.name.toList := by
  have hall : ∀ l ∈ Language.registry, ∀ p ∈ l.functionPatterns, p.marksInLine = true := by decide
  obtain ⟨c, hc, rfl⟩ := exists_candidate_of_mem_find h
  obtain ⟨p, hp, hit, hmem, hname, -, -⟩ := exists_hit_of_mem_candidates hc
  exact (Pattern.marked_of_mem_hits hmem (marked_of_nameOf? hname)).2 (hall language hlanguage p hp)

/-! ## The places of functions -/

/-- A function lies in a text: its body is a piece of the text that begins on its line and ends no
later than on the last one. -/
structure LiesIn (t : List Char) (f : FunctionInfo) : Prop where
  /-- The body begins at an offset of the text that lies on the line of the function. -/
  begins : ∃ start, start < t.length ∧ f.startLine = Text.lineAt t start ∧ f.body <+: t.drop start
  /-- The last line of the body is a line of the text. -/
  ends : f.startLine + f.lineCount - 1 ≤ (Text.lines t).length

/-- Every function that is found lies in the text. -/
theorem liesIn_of_mem_find {language : Language} {t : List Char} {limit : Int}
    {f : FunctionInfo} (hmem : f ∈ find language t limit) : LiesIn t f := by
  obtain ⟨c, hc, rfl⟩ := exists_candidate_of_mem_find hmem
  obtain ⟨pattern, -, h, hh, -, hline, hstart⟩ := exists_hit_of_mem_candidates hc
  obtain ⟨i, d, hfinds, rfl⟩ := Pattern.findsAt_of_mem_hits hh
  rw [Text.LineIndex.lineOf_ofText, ← hstart] at hline
  have hprefix := Body.lookUp_prefix t (.ofText t) (.ofText t) c.start limit
  have hends := Text.lineAt_add_lineFeeds_le hprefix
  constructor
  · refine ⟨c.start, ?_, congrArg Nat.cast hline, hprefix⟩
    rw [hstart]
    exact hfinds.lt_length
  · unfold ofBody
    dsimp only
    omega

end FunctionInfo

end SourceGrade
