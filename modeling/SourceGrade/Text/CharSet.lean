import SourceGrade.Sorted

set_option autoImplicit false

/-!
# Sets of characters

Two descriptions of a set of code points. `CharSet` lists where membership changes and is searched
by halving; `CharRun` lists evenly spaced runs and suits the letters of the cased scripts, where
the two cases often alternate.
-/

namespace SourceGrade.Text

/-- A set of characters, given by the ascending code points at which membership changes. The
first one is the first member. -/
structure CharSet where
  /-- The code points that begin a stretch of members or of non-members, in turn. -/
  toggles : Array Nat

/-- A character is a member when an odd number of changes lies at or below it. -/
def CharSet.contains (s : CharSet) (c : Char) : Bool :=
  Sorted.upperBound s.toggles c.toNat % 2 == 1

/-- Every `step`-th character from `first` to `last`. -/
structure CharRun where
  /-- The first code point. -/
  first : Nat
  /-- The last code point. -/
  last : Nat
  /-- The distance between neighbours. -/
  step : Nat

/-- Whether the run meets a character. -/
def CharRun.contains (r : CharRun) (c : Char) : Bool :=
  r.first ≤ c.toNat && c.toNat ≤ r.last && (c.toNat - r.first) % r.step == 0

/-- Whether one of the runs meets a character. -/
def CharRun.anyContains (rs : List CharRun) (c : Char) : Bool := rs.any (·.contains c)

end SourceGrade.Text
