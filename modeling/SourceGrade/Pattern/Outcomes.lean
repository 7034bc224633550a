import SourceGrade.Pattern.Basic

set_option autoImplicit false

/-!
# What a pattern matches

`Pattern.outcomes` is the meaning of a pattern: the places at which a match from a given place may
end, in order of preference. `Pattern.search` finds the first of them that a continuation accepts
without listing the others, and `Pattern.search_eq_findSome?` says that this is all it does.
-/

namespace SourceGrade.Pattern

/-- The places where a match may end, the preferred one first. -/
def outcomes : Pattern → Cursor → List Cursor
  | .nothing, c => [c]
  | .text s, c => (c.past? s).toList
  | .run ok least most order, c => c.runStops ok least most order
  | .seq p q, c => (p.outcomes c).flatMap q.outcomes
  | .alt p q, c => p.outcomes c ++ q.outcomes c
  | .mark p, c => (p.outcomes c).map (·.marking c)
  | .wordEdge, c => if c.atWordEdge then [c] else []
  | .after ok, c => if c.before.any ok then [c] else []
  | .notAfter ok, c => if c.before.any ok then [] else [c]
  | .ahead p, c => if (p.outcomes c).isEmpty then [] else [c]
  | .notAhead p, c => if (p.outcomes c).isEmpty then [c] else []

/-- The first answer that `k` gives at a place where a match may end, in order of preference. -/
def search : Pattern → Cursor → (Cursor → Option Cursor) → Option Cursor
  | .nothing, c, k => k c
  | .text s, c, k => (c.past? s).bind k
  | .run ok least most order, c, k => (c.runStops ok least most order).findSome? k
  | .seq p q, c, k => p.search c fun d => q.search d k
  | .alt p q, c, k =>
    match p.search c k with
    | some d => some d
    | none => q.search c k
  | .mark p, c, k => p.search c fun d => k (d.marking c)
  | .wordEdge, c, k => if c.atWordEdge then k c else none
  | .after ok, c, k => if c.before.any ok then k c else none
  | .notAfter ok, c, k => if c.before.any ok then none else k c
  | .ahead p, c, k => if (p.search c some).isSome then k c else none
  | .notAhead p, c, k => if (p.search c some).isSome then none else k c

/-- The preferred end of a match from a place. -/
def firstOutcome? (p : Pattern) (c : Cursor) : Option Cursor := p.search c some

theorem findSome?_some_eq_head? {α : Type} (l : List α) : l.findSome? some = l.head? := by
  cases l <;> rfl

theorem findSome?_flatMap {α β γ : Type} (l : List α) (f : α → List β) (k : β → Option γ) :
    (l.flatMap f).findSome? k = l.findSome? fun a => (f a).findSome? k := by
  induction l with
  | nil => rfl
  | cons a l ih =>
    rw [List.flatMap_cons, List.findSome?_append, List.findSome?_cons, ih]
    cases (f a).findSome? k <;> rfl

/-- The search is the first acceptance among the outcomes. -/
theorem search_eq_findSome? (p : Pattern) (c : Cursor) (k : Cursor → Option Cursor) :
    p.search c k = (p.outcomes c).findSome? k := by
  induction p generalizing c k with
  | nothing => simp [search, outcomes]
  | text s => cases h : c.past? s <;> simp [search, outcomes, h]
  | run ok least most order => rfl
  | seq p q ihp ihq => simp [search, outcomes, ihp, ihq, findSome?_flatMap]
  | alt p q ihp ihq =>
    simp only [search, outcomes, ihp, ihq, List.findSome?_append]
    cases (p.outcomes c).findSome? k <;> rfl
  | mark p ih => simp [search, outcomes, ih, List.findSome?_map, Function.comp_def]
  | wordEdge => by_cases h : c.atWordEdge <;> simp [search, outcomes, h]
  | after ok => by_cases h : c.before.any ok <;> simp [search, outcomes, h]
  | notAfter ok => by_cases h : c.before.any ok <;> simp [search, outcomes, h]
  | ahead p ih =>
    simp only [search, outcomes, ih, findSome?_some_eq_head?]
    cases p.outcomes c <;> simp
  | notAhead p ih =>
    simp only [search, outcomes, ih, findSome?_some_eq_head?]
    cases p.outcomes c <;> simp

/-- The preferred end is the first outcome. -/
theorem firstOutcome?_eq_head? (p : Pattern) (c : Cursor) :
    p.firstOutcome? c = (p.outcomes c).head? := by
  rw [firstOutcome?, search_eq_findSome?, findSome?_some_eq_head?]

end SourceGrade.Pattern
