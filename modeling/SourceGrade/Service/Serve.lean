import SourceGrade.Service.Task

set_option autoImplicit false

/-!
# Serving requests

A request is routed, its body is checked, it is counted, and only then it is carried out. Every
response names its request, and pages from allowed origins may read it; only where the service
itself fails neither is said.
-/

namespace SourceGrade.Service

/-- The service. -/
structure Server where
  /-- What tasks are carried out with. -/
  bench : Bench
  /-- The origins from which pages may ask. -/
  allowedOrigins : List String

/-- What comes of a request. -/
structure Outcome where
  response : Response
  /-- The requests that have reached each route, this one included. -/
  tally : Tally
  /-- The fields that go with the records which are known to belong to the request. -/
  bound : Log.Fields
  entries : List Entry

/-- Where a request leads. -/
inductive Routing where
  /-- To a route. -/
  | found (r : Route)
  /-- Nowhere. -/
  | refused (e : Refusal)

namespace Routing

/-- The path with the slash at its end taken away, or put there if there is none. -/
def otherSpelling (path : String) : String :=
  if path.endsWith "/" then String.ofList (path.toList.reverse.dropWhile (· == '/')).reverse
  else path ++ "/"

/-- Where a request with a method at a path leads. -/
def of (method path : String) : Routing :=
  match Route.ofPath? path with
  | some r => if r.method = method then found r else refused .wrongMethod
  | none =>
    if path != "/" && (Route.ofPath? (otherSpelling path)).isSome then refused .elsewhere
    else refused .unknownPath

end Routing

/-- The methods that a page may ask with. -/
def methods : List String := ["DELETE", "GET", "HEAD", "OPTIONS", "PATCH", "POST", "PUT"]

namespace Request

/-- The identifier that a request brings. -/
def givenId? (q : Request) : Option String :=
  match q.header? "x-request-id" with
  | some id => if id.isEmpty then none else some id
  | none => none

/-- The method that a page wants to ask with, if the request is the question whether it may. -/
def plannedMethod? (q : Request) : Option String :=
  if q.method = "OPTIONS" && (q.header? "origin").isSome then
    q.header? "access-control-request-method"
  else none

end Request

namespace Server

/-- The origin of a request, if it is allowed. -/
def allowedOrigin? (s : Server) (q : Request) : Option String :=
  match q.header? "origin" with
  | some origin => if s.allowedOrigins.contains origin then some origin else none
  | none => none

/-- The answer to the question whether a page may ask with a method. -/
def answerPlan (s : Server) (q : Request) (method : String) : Nat × Body :=
  let refused := (if (s.allowedOrigin? q).isNone then ["origin"] else []) ++
    (if methods.contains method then [] else ["method"])
  if refused.isEmpty then (200, .text "OK")
  else (400, .text ("Disallowed CORS " ++ ", ".intercalate refused))

/-- What comes of a request that leads to a route: the requests that have reached each route, and
what comes of the task. A request whose body is refused does not reach its route. -/
def carryOut (s : Server) (t : Tally) (r : Route) (q : Request) : Tally × Result :=
  match Task.ofRequest r q with
  | .error e => (t, (.error e, []))
  | .ok task =>
    match t.exceeded? s.bench.settings.security.requestsPerMinute r with
    | some n => (t.hit r, (.error (.overLimit n), []))
    | none => (t.hit r, task.run s.bench)

/-- What comes of a request. -/
def dispatch (s : Server) (t : Tally) (q : Request) : Tally × Result :=
  match Routing.of q.method q.path with
  | .found r => s.carryOut t r q
  | .refused e => (t, (.error e, []))

/-- The response to a request with the given identifier. -/
def respond (s : Server) (q : Request) (id : String) (result : Except Refusal Body) : Response :=
  let allowOrigin := s.allowedOrigin? q
  match result with
  | .ok body => { status := 200, body, requestId := some id, allowOrigin }
  | .error e =>
    let (status, body) := e.reply s.bench.host
    if e.isFailure then { status, body } else { status, body, requestId := some id, allowOrigin }

/-- What comes of a request. `freshId` identifies it if it brings no identifier. -/
def serve (s : Server) (freshId : String) (t : Tally) (q : Request) : Outcome :=
  let id := q.givenId?.getD freshId
  let bound : Log.Fields := [("request_id", .text id), ("path", .text q.path)]
  match q.plannedMethod? with
  | some method =>
    let (status, body) := s.answerPlan q method
    let response : Response :=
      { status, body, requestId := some id, allowOrigin := s.allowedOrigin? q }
    { response, tally := t, bound, entries := [] }
  | none =>
    let (tally, result, entries) := s.dispatch t q
    { response := s.respond q id result, tally, bound, entries }

/-- What comes of requests one after another within a minute. -/
def serveAll (s : Server) (freshId : String) : Tally → List Request → List Outcome
  | _, [] => []
  | t, q :: qs =>
    let o := s.serve freshId t q
    o :: s.serveAll freshId o.tally qs

end Server

/-- The log after what a request left in it. -/
def Outcome.logTo (b : Log.Book) (o : Outcome) : Log.Book :=
  o.entries.foldl (fun b e => b.addWith (if e.isBound then o.bound else []) e.record) b

/-- The log of a service that started, served requests and stopped. -/
def logOf (settings : Settings) (b : Log.Book) (outcomes : List Outcome) : Log.Book :=
  ((outcomes.foldl Outcome.logTo (b.add (Journal.started settings).record)).add
    Journal.stopped.record)

end SourceGrade.Service
