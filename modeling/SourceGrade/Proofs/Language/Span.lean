import SourceGrade.Metric.Smell
import SourceGrade.Proofs.Pattern.GivingBack

set_option autoImplicit false

/-!
# Spans between two characters

Parameter lists, type arguments, receivers and groups of imports are matched by a run that gives
nothing back, between an opening and a closing character. There is one way at most to match such a
span from a place: through the first closing character, if the bounds on what stands before that one
are kept. All runs of the registered patterns that may have several lengths are of this kind, so
functions, imports and handlers that swallow an error are found in the same places, with the same
marks, if these runs give characters back.
-/

namespace SourceGrade

open Pattern (inOrder mem_outcomes_seq mem_outcomes_text mem_outcomes_mark)

/-! ## Spans -/

/-- A run of characters between two others, the second of which ends it. -/
structure Span where
  opening : Char
  closing : Char
  /-- The bounds on the number of characters between the two. -/
  least : Nat
  most : Nat
  /-- Whether the characters between the two are remembered. -/
  remembered : Bool
  deriving DecidableEq, Repr

namespace Span

/-- The characters between the two. -/
def inside (s : Span) : Pattern :=
  let run := Pattern.span (Language.except [s.closing]) s.least s.most
  if s.remembered then .mark run else run

/-- The pattern of a span. -/
def pattern (s : Span) : Pattern := inOrder [.text [s.opening], s.inside, .text [s.closing]]

/-- The run of a span, with the characters that stand beside it. -/
def keptRun (s : Span) : KeptRun :=
  ⟨some s.opening, Language.except [s.closing], s.least, some s.most, some s.closing⟩

/-- From one place to another a text goes on with the opening character, as many other characters
as are allowed, and the first closing character. -/
def Covers (s : Span) (c d : Cursor) : Prop :=
  ∃ piece rest, c.rest = s.opening :: (piece ++ s.closing :: rest) ∧ s.closing ∉ piece ∧
    s.least ≤ piece.length ∧ piece.length ≤ s.most ∧
    d = { c.past (s.opening :: (piece ++ [s.closing])) rest with
      marked := if s.remembered then some piece else c.marked }

variable {s : Span} {c d : Cursor}

theorem isSettled_keptRun (s : Span) : s.keptRun.isSettled = true := by
  simp [keptRun, KeptRun.isSettled, Language.except]

theorem keptRuns_pattern (s : Span) : s.pattern.keptRuns none none = [s.keptRun] := by
  unfold pattern inside
  split <;> rfl

theorem outcomes_givingBack (s : Span) (c : Cursor) :
    s.pattern.givingBack.outcomes c = s.pattern.outcomes c := by
  refine Pattern.outcomes_givingBack (fun r hr => ?_) c
  rw [keptRuns_pattern, List.mem_singleton] at hr
  rw [hr]
  exact s.isSettled_keptRun

theorem neverBranches_pattern (s : Span) : s.pattern.neverBranches = true := by
  unfold pattern inside
  split <;> rfl

/-- The inside of a span that gives characters back may end after any number of characters within
its bounds. -/
theorem mem_outcomes_inside :
    d ∈ s.inside.givingBack.outcomes c ↔
      ∃ piece rest, c.rest = piece ++ rest ∧ s.closing ∉ piece ∧
        s.least ≤ piece.length ∧ piece.length ≤ s.most ∧
        d = { c.past piece rest with
          marked := if s.remembered then some piece else c.marked } := by
  have hrun : ∀ e : Cursor,
      e ∈ c.runStops (Language.except [s.closing]) s.least (some s.most) .longestFirst ↔
        ∃ piece rest, c.rest = piece ++ rest ∧ s.closing ∉ piece ∧
          s.least ≤ piece.length ∧ piece.length ≤ s.most ∧ e = c.past piece rest := by
    intro e
    rw [Cursor.mem_runStops_iff (by decide)]
    have hclass : ∀ piece : List Char,
        (∀ x ∈ piece, Language.except [s.closing] x = true) ↔ s.closing ∉ piece := by
      intro piece
      simp only [Language.except, List.contains_cons, List.contains_nil, Bool.or_false,
        Bool.not_eq_true', beq_eq_false_iff_ne]
      exact ⟨fun h hmem => h _ hmem rfl, fun h x hx heq => h (heq ▸ hx)⟩
    simp only [hclass, Option.some.injEq, forall_eq']
  unfold inside
  cases s.remembered with
  | false => exact hrun d
  | true =>
    simp only [if_true]
    constructor
    · intro h
      obtain ⟨e, he, rfl⟩ := mem_outcomes_mark.mp h
      obtain ⟨piece, rest, hrest, hnot, hleast, hmost, rfl⟩ := (hrun e).mp he
      exact ⟨piece, rest, hrest, hnot, hleast, hmost, Cursor.marking_past hrest⟩
    · rintro ⟨piece, rest, hrest, hnot, hleast, hmost, rfl⟩
      refine mem_outcomes_mark.mpr ⟨c.past piece rest, ?_, Cursor.marking_past hrest⟩
      exact (hrun _).mpr ⟨piece, rest, hrest, hnot, hleast, hmost, rfl⟩

/-- Where the three parts of a span lead, one after the other. -/
theorem past_parts (s : Span) (c : Cursor) (piece rest rest' rest'' : List Char)
    (marked : Option (List Char)) :
    Cursor.past { (c.past [s.opening] rest).past piece rest' with marked } [s.closing] rest'' =
      { c.past (s.opening :: (piece ++ [s.closing])) rest'' with marked } := by
  have hparts : ((c.past [s.opening] rest).past piece rest').past [s.closing] rest'' =
      c.past (s.opening :: (piece ++ [s.closing])) rest'' := by
    rw [Cursor.past_past, Cursor.past_past]
    rfl
  rw [← hparts]
  rfl

/-- A span is matched through its first closing character or not at all. -/
theorem mem_outcomes_pattern : d ∈ s.pattern.outcomes c ↔ s.Covers c d := by
  have hparts : s.pattern.givingBack = .seq (.text [s.opening])
      (.seq s.inside.givingBack (.text [s.closing])) := rfl
  rw [← outcomes_givingBack, hparts]
  simp only [mem_outcomes_seq, mem_outcomes_text, mem_outcomes_inside]
  constructor
  · rintro ⟨_, ⟨rest, hopening, rfl⟩, _, ⟨piece, rest', hpiece, hnot, hleast, hmost, rfl⟩,
      rest'', hclosing, rfl⟩
    obtain rfl : rest = piece ++ rest' := hpiece
    obtain rfl : rest' = s.closing :: rest'' := hclosing
    exact ⟨piece, rest'', hopening, hnot, hleast, hmost, past_parts s c piece _ _ rest'' _⟩
  · rintro ⟨piece, rest, hrest, hnot, hleast, hmost, rfl⟩
    exact ⟨_, ⟨_, hrest, rfl⟩, _, ⟨piece, _, rfl, hnot, hleast, hmost, rfl⟩, rest, rfl,
      (past_parts s c piece _ _ rest _).symm⟩

/-! ## Registered spans -/

/-- The parameters of a function, and those of the handler of an error. -/
def parameterList : Span := ⟨'(', ')', 0, 500, false⟩

def typeArguments : Span := ⟨'<', '>', 1, 200, false⟩

/-- The value that a method belongs to. -/
def receiver : Span := ⟨'(', ')', 1, 300, false⟩

def importGroup : Span := ⟨'(', ')', 1, 5000, true⟩

def registered : List Span := [parameterList, typeArguments, receiver, importGroup]

/-- The patterns by which functions, imports and handlers that swallow an error are found. -/
def searched : List Pattern :=
  Smell.swallowedError :: Language.registry.flatMap fun l => l.importPattern :: l.functionPatterns

/-- The runs of a pattern that give nothing back and may have several lengths. -/
def variedRuns (p : Pattern) : List KeptRun :=
  (p.keptRuns none none).filter fun r => r.most != some r.least

/-- The spans of the patterns, in the order in which they stand there. -/
def searchedSpans : List Span := [
  parameterList, parameterList, parameterList, typeArguments, parameterList, parameterList,
  typeArguments, typeArguments, typeArguments, importGroup, receiver, parameterList, parameterList]

theorem variedRuns_searched : searched.flatMap variedRuns = searchedSpans.map keptRun := rfl

theorem mem_registered_of_mem_searchedSpans (h : s ∈ searchedSpans) : s ∈ registered := by
  have hall : searchedSpans.all registered.contains = true := by decide
  exact List.contains_iff_mem.mp (List.all_eq_true.mp hall s h)

/-- Every run of the registered patterns that gives nothing back has one length or is that of a
span. -/
theorem fixed_or_span {p : Pattern} (hp : p ∈ searched) {r : KeptRun}
    (hr : r ∈ p.keptRuns none none) :
    r.most = some r.least ∨ ∃ s ∈ registered, r = s.keptRun := by
  by_cases hmost : r.most = some r.least
  · exact .inl hmost
  · have hvaried : r ∈ searched.flatMap variedRuns :=
      List.mem_flatMap.mpr ⟨p, hp, List.mem_filter.mpr ⟨hr, by simpa using hmost⟩⟩
    rw [variedRuns_searched, List.mem_map] at hvaried
    obtain ⟨s, hs, rfl⟩ := hvaried
    exact .inr ⟨s, mem_registered_of_mem_searchedSpans hs, rfl⟩

theorem isSettled_of_mem_searched {p : Pattern} (hp : p ∈ searched) :
    ∀ r ∈ p.keptRuns none none, r.isSettled = true := by
  intro r hr
  rcases fixed_or_span hp hr with hmost | ⟨s, -, rfl⟩
  · unfold KeptRun.isSettled
    rw [hmost, beq_self_eq_true, Bool.true_or]
  · exact s.isSettled_keptRun

/-- All runs of several lengths that give nothing back stand in one of four spans. From no place is
there more than one match of a span, it goes from the opening character through the first closing
one, and it exists if and only if there are as many characters between as the bounds allow, whether
or not the run gives characters back. So the patterns for functions, imports and handlers that
swallow an error match the same pieces in the same order if their runs give characters back, and
have the same hits. -/
theorem matches_in_one_way :
    (∀ p ∈ searched, ∀ r ∈ p.keptRuns none none,
      r.most = some r.least ∨ ∃ s ∈ registered, r = s.keptRun) ∧
    (∀ s ∈ registered, ∀ c : Cursor, (s.pattern.outcomes c).length ≤ 1 ∧
      (∀ d, d ∈ s.pattern.outcomes c ↔ s.Covers c d) ∧
      s.pattern.givingBack.outcomes c = s.pattern.outcomes c) ∧
    ∀ p ∈ searched, (∀ c, p.givingBack.outcomes c = p.outcomes c) ∧
      ∀ t, p.givingBack.hits t = p.hits t := by
  refine ⟨fun p hp r hr => fixed_or_span hp hr, fun s _ c => ⟨?_, ?_, ?_⟩, fun p hp => ⟨?_, ?_⟩⟩
  · exact Pattern.length_outcomes_le_one s.neverBranches_pattern c
  · exact fun d => mem_outcomes_pattern
  · exact s.outcomes_givingBack c
  · exact Pattern.outcomes_givingBack (isSettled_of_mem_searched hp)
  · exact Pattern.hits_givingBack (isSettled_of_mem_searched hp)

/-- A handler that does nothing, with its parameter. -/
def emptyHandler : List Char := "catch (e) { }".toList

/-- The parameter of a handler is a span, and the handler is found by either reading of it. -/
theorem matches_in_one_way_handler :
    Smell.swallowedError ∈ searched ∧
    parameterList.keptRun ∈ Smell.swallowedError.keptRuns none none ∧
    (∃ s ∈ registered, parameterList.keptRun = s.keptRun) ∧
    parameterList ∈ registered ∧
    ⟨some ')', " { }".toList, 9, none⟩ ∈ parameterList.pattern.outcomes (.atOffset emptyHandler 6) ∧
    Smell.swallowedError.hits emptyHandler = [⟨0, 13, none⟩] ∧
    Smell.swallowedError.givingBack.hits emptyHandler = [⟨0, 13, none⟩] := by
  have hsearched : Smell.swallowedError ∈ searched := List.mem_cons_self
  have hrun : parameterList.keptRun ∈ Smell.swallowedError.keptRuns none none :=
    List.mem_cons_self
  have hspan : parameterList ∈ registered := List.mem_cons_self
  have hhits : Smell.swallowedError.hits emptyHandler = [⟨0, 13, none⟩] := by decide
  obtain ⟨hfixed, hspans, hsame⟩ := matches_in_one_way
  refine ⟨hsearched, hrun, (hfixed _ hsearched _ hrun).resolve_left (by decide), hspan, ?_, hhits,
    ((hsame _ hsearched).2 emptyHandler).trans hhits⟩
  exact ((hspans _ hspan _).2.1 _).mpr ⟨['e'], " { }".toList, rfl, by decide, by decide,
    by decide, rfl⟩

end Span

end SourceGrade
