import Mathlib
import SourceGrade.Proofs.Service.Serve

set_option autoImplicit false

/-!
# Quotas over a run of requests

Every route has a quota for a minute. Over any sequence of requests the tally of a route is the
number of requests that have reached it, so a request is refused for coming too often exactly if as
many earlier requests as the quota have reached the same route. Other requests have no part in it.
-/

namespace SourceGrade.Service

variable {s : Server} {id : String} {t t' : Tally} {q : Request} {qs : List Request} {r : Route}
  {perMinute : Nat}

namespace Route

/-- The number of requests that a route answers in a minute. -/
def quota (perMinute : Nat) : Route → Nat
  | health => 100
  | languages => 60
  | project => 10
  | file => perMinute
  | batch => perMinute
  | report => perMinute

theorem limit?_natCast (r : Route) (perMinute : Nat) :
    r.limit? perMinute = some (r.quota perMinute) := by
  cases r <;> rfl

/-- Whether a request reaches the route. -/
def isReachedBy (r : Route) (q : Request) : Bool := q.reached? = some r

theorem isReachedBy_iff : r.isReachedBy q = true ↔ q.reached? = some r := decide_eq_true_iff

end Route

theorem Tally.exceeded?_natCast (t : Tally) (r : Route) :
    t.exceeded? perMinute r =
      if r.quota perMinute ≤ t.count r then some (r.quota perMinute) else none := by
  unfold exceeded?
  rw [Route.limit?_natCast]

/-! ## One request -/

namespace Server

/-- A request adds to the tally of the route that it reaches, and to no other. -/
theorem count_tally_serve (s : Server) (id : String) (t : Tally) (q : Request) (r : Route) :
    (s.serve id t q).tally.count r = t.count r + [q].countP r.isReachedBy := by
  rw [List.countP_singleton]
  cases hreached : q.reached? with
  | none =>
    have hno : ¬ r.isReachedBy q = true := by
      rw [Route.isReachedBy_iff, hreached]
      exact nofun
    rw [(s.serve_of_not_reached id t hreached).1, if_neg hno, Nat.add_zero]
  | some r' =>
    obtain ⟨hfound, task, htask⟩ := Request.reached?_eq_some_iff.mp hreached
    rw [(s.serve_of_reached id t hfound htask).1, Tally.hit]
    dsimp only
    by_cases hr : r = r'
    · rw [if_pos hr, if_pos (Route.isReachedBy_iff.mpr (hr ▸ hreached))]
    · have hno : ¬ r.isReachedBy q = true := by
        rw [Route.isReachedBy_iff, hreached]
        exact fun h => hr (Option.some.inj h).symm
      rw [if_neg hr, if_neg hno, Nat.add_zero]

/-- A request is refused for coming too often if the quota of its route is used up. -/
theorem status_serve_eq_tooMany_iff (id : String) (t : Tally)
    (hquota : s.bench.settings.security.requestsPerMinute = perMinute)
    (hreached : q.reached? = some r) :
    (s.serve id t q).response.status = 429 ↔ r.quota perMinute ≤ t.count r := by
  obtain ⟨hfound, task, htask⟩ := Request.reached?_eq_some_iff.mp hreached
  rw [(s.serve_of_reached id t hfound htask).2, status_respond_eq_tooMany_iff, hquota,
    Tally.exceeded?_natCast]
  by_cases hcount : r.quota perMinute ≤ t.count r
  · rw [if_pos hcount]
    exact ⟨fun _ => hcount, fun _ => ⟨_, rfl⟩⟩
  · rw [if_neg hcount]
    refine ⟨?_, fun h => absurd h hcount⟩
    rintro ⟨n, hn⟩
    exact absurd hn (Task.run_ne_overLimit s.bench task n)

/-- The answer to a request depends on the tally of its route alone. -/
theorem response_serve_congr (s : Server) (id : String) (hreached : q.reached? = some r)
    (hcount : t.count r = t'.count r) :
    (s.serve id t q).response = (s.serve id t' q).response := by
  obtain ⟨hfound, task, htask⟩ := Request.reached?_eq_some_iff.mp hreached
  have hexceeded : t.exceeded? s.bench.settings.security.requestsPerMinute r =
      t'.exceeded? s.bench.settings.security.requestsPerMinute r := by
    unfold Tally.exceeded?
    rw [hcount]
  rw [(s.serve_of_reached id t hfound htask).2, (s.serve_of_reached id t' hfound htask).2,
    hexceeded]

/-! ## A run of requests -/

/-- Every request of a run is served at the tally of the requests before it. -/
theorem getElem?_serveAll {i : Nat} (s : Server) (id : String) (t : Tally)
    (h : qs[i]? = some q) :
    ∃ before, (s.serveAll id t qs)[i]? = some (s.serve id before q) ∧
      ∀ r, before.count r = t.count r + (qs.take i).countP r.isReachedBy := by
  induction qs generalizing t i with
  | nil => cases h
  | cons first qs ih =>
    cases i with
    | zero =>
      obtain rfl := Option.some.inj h
      exact ⟨t, rfl, fun r => rfl⟩
    | succ i =>
      obtain ⟨before, hserved, hbefore⟩ := ih (s.serve id t first).tally h
      refine ⟨before, hserved, fun r => ?_⟩
      rw [hbefore, count_tally_serve, List.take_succ_cons, Nat.add_assoc, ← List.countP_append]
      rfl

/-- The responses to the requests that reach a route, in the order of the requests. -/
def answersAt (s : Server) (id : String) (r : Route) (t : Tally) (qs : List Request) :
    List Response :=
  ((s.serveAll id t qs).zip qs).filterMap fun (o, q) =>
    if r.isReachedBy q then some o.response else none

theorem answersAt_cons_of_reached (s : Server) (id : String) (t : Tally) (qs : List Request)
    (h : r.isReachedBy q = true) :
    s.answersAt id r t (q :: qs) =
      (s.serve id t q).response :: s.answersAt id r (s.serve id t q).tally qs :=
  List.filterMap_cons_some (if_pos h)

theorem answersAt_cons_of_not_reached (s : Server) (id : String) (t : Tally) (qs : List Request)
    (h : ¬ r.isReachedBy q = true) :
    s.answersAt id r t (q :: qs) = s.answersAt id r (s.serve id t q).tally qs :=
  List.filterMap_cons_none (if_neg h)

/-- Requests that do not reach a route have no part in what is answered there. -/
theorem answersAt_filter {kept : Request → Bool} (s : Server) (id : String)
    (hkept : ∀ q, q.reached? = some r → kept q = true) (hcount : t.count r = t'.count r)
    (qs : List Request) :
    s.answersAt id r t (qs.filter kept) = s.answersAt id r t' qs := by
  -- Both runs are followed together: their tallies agree at `r` and may differ elsewhere.
  induction qs generalizing t t' with
  | nil => rfl
  | cons q qs ih =>
    have hnext : (s.serve id t q).tally.count r = (s.serve id t' q).tally.count r := by
      rw [count_tally_serve, count_tally_serve, hcount]
    by_cases hreached : r.isReachedBy q = true
    · have hroute := Route.isReachedBy_iff.mp hreached
      rw [List.filter_cons_of_pos (hkept q hroute), answersAt_cons_of_reached s id t _ hreached,
        answersAt_cons_of_reached s id t' qs hreached, response_serve_congr s id hroute hcount,
        ih hnext]
    · rw [answersAt_cons_of_not_reached s id t' qs hreached]
      by_cases hq : kept q = true
      · rw [List.filter_cons_of_pos hq, answersAt_cons_of_not_reached s id t _ hreached, ih hnext]
      · rw [List.filter_cons_of_neg hq]
        have hsame : t.count r = (s.serve id t' q).tally.count r := by
          rw [count_tally_serve, List.countP_singleton, if_neg hreached, hcount, Nat.add_zero]
        exact ih hsame

/-- Over a minute in which any requests are made, a request that reaches a route is refused for
coming too often if and only if as many earlier requests as the quota of the route have reached it;
a request that reaches none is never refused for that. The tally counts the requests that have
reached a route, whatever was answered there, and what is answered at a route stays the same if
requests that do not reach it are left out. -/
theorem quotas_of_serveAll (s : Server) (id : String) (qs : List Request)
    (hquota : s.bench.settings.security.requestsPerMinute = perMinute) :
    (∀ (i : Nat) (q : Request), qs[i]? = some q →
      ∃ o, (s.serveAll id Tally.zero qs)[i]? = some o ∧
        (∀ r, q.reached? = some r →
          (o.response.status = 429 ↔
            r.quota perMinute ≤ (qs.take i).countP r.isReachedBy)) ∧
        (q.reached? = none → o.response.status ≠ 429) ∧
        ∀ r : Route, o.tally.count r = (qs.take (i + 1)).countP r.isReachedBy) ∧
    ∀ (r : Route) (kept : Request → Bool), (∀ q, q.reached? = some r → kept q = true) →
      s.answersAt id r Tally.zero (qs.filter kept) = s.answersAt id r Tally.zero qs := by
  refine ⟨fun i q hq => ?_, fun r kept hkept => answersAt_filter s id hkept rfl qs⟩
  obtain ⟨before, hserved, hbefore⟩ := s.getElem?_serveAll id Tally.zero hq
  have hzero : ∀ r : Route, before.count r = (qs.take i).countP r.isReachedBy := by
    intro r
    rw [hbefore]
    exact Nat.zero_add _
  refine ⟨_, hserved, fun r hr => ?_, fun hr => (s.serve_of_not_reached id before hr).2,
    fun r => ?_⟩
  · rw [status_serve_eq_tooMany_iff id before hquota hr, hzero]
  · rw [count_tally_serve, hzero, List.take_add_one, hq, List.countP_append]
    rfl

end Server

/-! ### Too large a text twice -/

/-- A service that answers one request in a minute for the analysis of a text of one byte. -/
def strictServer : Server where
  bench := {
    settings := { security := { requestsPerMinute := 1 }, analyzer := { maxFileSize := 1 } }
    host := { workingDirectory := ["w"], files := ⟨[(["w"], .directory)]⟩ }
    writtenAt := "" }
  allowedOrigins := []

/-- A request with a text that is too large for it. -/
def largeUpload : Request where
  method := "POST"
  target := "/analyze/file"
  body := "\x7b\"filename\":\"a\",\"text\":\"ab\"\x7d".toList

/-- A request with a body that holds no text. -/
def emptyUpload : Request where
  method := "POST"
  target := "/analyze/file"
  body := "\x7b\x7d".toList

theorem reached?_largeUpload : largeUpload.reached? = some .file :=
  Request.reached?_eq_some_iff.mpr ⟨rfl, .file ⟨⟨"a", .ofString "ab"⟩, false⟩, by cbv⟩

theorem reached?_emptyUpload : emptyUpload.reached? = none := by
  have hfound : Routing.of emptyUpload.method emptyUpload.path = .found .file := rfl
  have hinvalid : Task.ofRequest .file emptyUpload = .error (.invalid
      [⟨[.key "body", .key "filename"], .missing⟩, ⟨[.key "body", .key "text"], .missing⟩]) := by
    cbv
  unfold Request.reached?
  rw [hfound]
  dsimp only
  rw [hinvalid]
  rfl

/-- The text that is refused for its size uses up the quota, the body that is refused does not. -/
theorem quotas_of_serveAll_uploads :
    strictServer.bench.settings.security.requestsPerMinute = (1 : Nat) ∧
    (∃ o, (strictServer.serveAll "id" Tally.zero [emptyUpload, largeUpload, largeUpload])[0]? =
      some o ∧ o.response.status ≠ 429 ∧ o.tally.count .file = 0) ∧
    (∃ o, (strictServer.serveAll "id" Tally.zero [emptyUpload, largeUpload, largeUpload])[1]? =
      some o ∧ o.response.status ≠ 429 ∧ o.tally.count .file = 1) ∧
    ∃ o, (strictServer.serveAll "id" Tally.zero [emptyUpload, largeUpload, largeUpload])[2]? =
      some o ∧ o.response.status = 429 := by
  have hlarge : Route.file.isReachedBy largeUpload = true :=
    Route.isReachedBy_iff.mpr reached?_largeUpload
  have hempty : Route.file.isReachedBy emptyUpload = false := by
    rw [Route.isReachedBy, reached?_emptyUpload]
    rfl
  have hquota : strictServer.bench.settings.security.requestsPerMinute = (1 : Nat) := rfl
  obtain ⟨hrun, -⟩ := Server.quotas_of_serveAll strictServer "id"
    [emptyUpload, largeUpload, largeUpload] hquota
  obtain ⟨o₀, hserved₀, -, hstatus₀, htally₀⟩ := hrun 0 emptyUpload rfl
  obtain ⟨o₁, hserved₁, hstatus₁, -, htally₁⟩ := hrun 1 largeUpload rfl
  obtain ⟨o₂, hserved₂, hstatus₂, -, -⟩ := hrun 2 largeUpload rfl
  refine ⟨hquota, ⟨o₀, hserved₀, hstatus₀ reached?_emptyUpload, ?_⟩, ⟨o₁, hserved₁, ?_, ?_⟩,
    o₂, hserved₂, ?_⟩
  · rw [htally₀]
    simp [hempty]
  · rw [ne_eq, hstatus₁ .file reached?_largeUpload]
    simp [hempty, Route.quota]
  · rw [htally₁]
    simp [hempty, hlarge]
  · rw [hstatus₂ .file reached?_largeUpload]
    simp [hempty, hlarge, Route.quota]

end SourceGrade.Service
