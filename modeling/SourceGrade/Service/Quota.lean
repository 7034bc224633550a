set_option autoImplicit false

/-!
# Routes and quotas

Each route answers requests of one method at one path, and only so many of a client's requests in a
minute. A request counts when it reaches its route, whatever comes of it there.
-/

namespace SourceGrade.Service

/-- What can be asked of the service. -/
inductive Route where
  | health
  | languages
  | file
  | batch
  | report
  | project
  deriving DecidableEq, Repr

namespace Route

/-- All routes. -/
def all : List Route := [file, batch, report, project, languages, health]

/-- The path of a route. -/
def path : Route → String
  | health => "/health"
  | languages => "/languages"
  | file => "/analyze/file"
  | batch => "/analyze/batch"
  | report => "/analyze/report"
  | project => "/analyze/project"

/-- The method of a route. -/
def method : Route → String
  | health => "GET"
  | languages => "GET"
  | _ => "POST"

/-- The route at a path. -/
def ofPath? (path : String) : Option Route := all.find? (·.path == path)

/-- The number of requests that a route answers in a minute, where `perMinute` is the number in the
settings. A negative number sets no limit. -/
def limit? (perMinute : Int) : Route → Option Nat
  | health => some 100
  | languages => some 60
  | project => some 10
  | _ => if perMinute < 0 then none else some perMinute.toNat

end Route

/-- How many requests have reached each route within the minute. -/
structure Tally where
  count : Route → Nat

namespace Tally

/-- The tally at the beginning of a minute. -/
def zero : Tally := ⟨fun _ => 0⟩

/-- The tally with one more request at a route. -/
def hit (t : Tally) (r : Route) : Tally := ⟨fun s => if s = r then t.count s + 1 else t.count s⟩

/-- The limit that a request at a route goes beyond, if it does. -/
def exceeded? (t : Tally) (perMinute : Int) (r : Route) : Option Nat :=
  match r.limit? perMinute with
  | some n => if n ≤ t.count r then some n else none
  | none => none

end Tally

end SourceGrade.Service
