import SourceGrade.Service.Serve

set_option autoImplicit false

/-!
# What a request comes to

A request reaches a route if it leads there and its body is that of a task. Only requests that reach
a route are counted, and only they can be over a limit. Refusals on the way to a route and refusals
of the task itself are told apart by where they come from.
-/

namespace SourceGrade.Service

variable {s : Server} {t : Tally} {q : Request} {r : Route} {id : String}

/-! ## Routing -/

theorem Route.path_of_ofPath? {path : String} (h : Route.ofPath? path = some r) :
    r.path = path := by
  have hfound := List.find?_some h
  exact beq_iff_eq.mp hfound

/-- A request leads to a route if it has its method and its path. -/
theorem Routing.of_eq_found {method path : String} (h : Routing.of method path = .found r) :
    r.method = method ∧ r.path = path := by
  unfold Routing.of at h
  split at h
  · rename_i r' hpath
    split at h
    · rename_i hmethod
      obtain rfl := Routing.found.inj h
      exact ⟨hmethod, Route.path_of_ofPath? hpath⟩
    · cases h
  · split at h <;> cases h

theorem Routing.ne_overLimit {method path : String} {e : Refusal} (n : Nat)
    (h : Routing.of method path = .refused e) : e ≠ .overLimit n := by
  rintro rfl
  unfold Routing.of at h
  split at h
  · split at h <;> cases h
  · split at h <;> cases h

theorem Route.method_ne_options (r : Route) : r.method ≠ "OPTIONS" := by
  cases r <;> decide

/-- The question whether a page may ask leads to no route. -/
theorem Request.plannedMethod?_of_found (h : Routing.of q.method q.path = .found r) :
    q.plannedMethod? = none := by
  have hmethod : q.method ≠ "OPTIONS" := fun hoptions =>
    r.method_ne_options ((Routing.of_eq_found h).1.trans hoptions)
  unfold plannedMethod?
  rw [decide_eq_false hmethod]
  rfl

/-! ## Requests that reach a route -/

/-- The route that a request reaches: it has the method and the path of the route, and its body is
that of a task there. -/
def Request.reached? (q : Request) : Option Route :=
  match Routing.of q.method q.path with
  | .found r => if (Task.ofRequest r q).isOk then some r else none
  | .refused _ => none

theorem Request.reached?_eq_some_iff :
    q.reached? = some r ↔
      Routing.of q.method q.path = .found r ∧ ∃ task, Task.ofRequest r q = .ok task := by
  unfold reached?
  constructor
  · intro h
    split at h
    · rename_i r' hfound
      cases htask : Task.ofRequest r' q with
      | ok task =>
        rw [htask] at h
        obtain rfl := Option.some.inj h
        exact ⟨hfound, task, htask⟩
      | error e => rw [htask] at h; cases h
    · cases h
  · rintro ⟨hfound, task, htask⟩
    rw [hfound]
    dsimp only
    rw [htask]
    rfl

/-- What comes of a request that reaches a route. -/
theorem Server.serve_of_reached {task : Task} (s : Server) (id : String) (t : Tally)
    (hfound : Routing.of q.method q.path = .found r) (htask : Task.ofRequest r q = .ok task) :
    (s.serve id t q).tally = t.hit r ∧
      (s.serve id t q).response = s.respond q (q.givenId?.getD id)
        (match t.exceeded? s.bench.settings.security.requestsPerMinute r with
          | some n => .error (.overLimit n)
          | none => (task.run s.bench).1) := by
  unfold serve dispatch carryOut
  rw [Request.plannedMethod?_of_found hfound, hfound]
  dsimp only
  rw [htask]
  dsimp only
  cases t.exceeded? s.bench.settings.security.requestsPerMinute r <;> exact ⟨rfl, rfl⟩

/-! ## Statuses -/

theorem Refusal.status_eq_tooMany_iff (e : Refusal) (host : Host) :
    (e.reply host).1 = 429 ↔ ∃ n, e = .overLimit n := by
  constructor
  · intro h
    cases e with
    | overLimit n => exact ⟨n, rfl⟩
    | upload e => cases e <;> cases h
    | workspace e => cases e <;> cases h
    | _ => cases h
  · rintro ⟨n, rfl⟩
    rfl

theorem Server.status_respond_error (s : Server) (q : Request) (id : String) (e : Refusal) :
    (s.respond q id (.error e)).status = (e.reply s.bench.host).1 := by
  unfold respond
  dsimp only
  split <;> rfl

/-- Every other status than that of an answer is the status of a refusal. -/
theorem Server.status_respond_eq_iff {result : Except Refusal Body} {status : Nat}
    (h : status ≠ 200) :
    (s.respond q id result).status = status ↔
      ∃ e, result = .error e ∧ (e.reply s.bench.host).1 = status := by
  cases result with
  | ok body =>
    constructor
    · exact fun hstatus => absurd hstatus.symm h
    · rintro ⟨e, he, -⟩
      cases he
  | error e =>
    rw [status_respond_error]
    constructor
    · exact fun hstatus => ⟨e, rfl, hstatus⟩
    · rintro ⟨e', he, hstatus⟩
      exact Except.error.inj he ▸ hstatus

theorem Server.status_respond_eq_tooMany_iff {result : Except Refusal Body} :
    (s.respond q id result).status = 429 ↔ ∃ n, result = .error (.overLimit n) := by
  rw [status_respond_eq_iff (by decide)]
  constructor
  · rintro ⟨e, rfl, hstatus⟩
    obtain ⟨n, rfl⟩ := (e.status_eq_tooMany_iff s.bench.host).mp hstatus
    exact ⟨n, rfl⟩
  · rintro ⟨n, rfl⟩
    exact ⟨_, rfl, rfl⟩

/-! ## Where refusals come from -/

namespace Task

theorem refusalFor_ne_overLimit (p : Payload) (cs : List Complaint) (n : Nat) :
    refusalFor p cs ≠ .overLimit n := by
  unfold refusalFor
  split <;> exact nofun

theorem ofChecked_ne_overLimit {α : Type} (p : Payload) (task : α → Task) (c : Checked α)
    (n : Nat) : ofChecked p task c ≠ .error (.overLimit n) := by
  cases c with
  | good form => exact nofun
  | bad cs => exact fun h => refusalFor_ne_overLimit p cs n (Except.error.inj h)

theorem ofRequest_ne_overLimit (r : Route) (q : Request) (n : Nat) :
    ofRequest r q ≠ .error (.overLimit n) := by
  unfold ofRequest
  split
  · exact nofun
  · exact nofun
  · split
    · unfold ofPayload
      split
      · exact nofun
      · exact nofun
      all_goals exact ofChecked_ne_overLimit _ _ _ n
    · exact nofun
    · exact nofun

theorem arrivalsOf_ne_overLimit (b : Bench) (sent : List SentFile) (n : Nat) :
    arrivalsOf b sent ≠ .error (.overLimit n) := by
  unfold arrivalsOf
  split <;> exact nofun

/-- No task is over a limit once it is carried out. -/
theorem run_ne_overLimit (b : Bench) (task : Task) (n : Nat) :
    (task.run b).1 ≠ .error (.overLimit n) := by
  cases task with
  | health => exact nofun
  | languages => exact nofun
  | file form =>
    unfold run runFile
    dsimp only
    split
    · exact nofun
    · split <;> exact nofun
  | batch form =>
    unfold run runBatch
    dsimp only
    split
    · rename_i e he
      rintro h
      obtain rfl := Except.error.inj h
      exact arrivalsOf_ne_overLimit b form.files n he
    · exact nofun
  | report form =>
    unfold run runReport
    dsimp only
    split
    · rename_i e he
      rintro h
      obtain rfl := Except.error.inj h
      exact arrivalsOf_ne_overLimit b form.files n he
    · exact nofun
  | project form =>
    unfold run runProject
    dsimp only
    split <;> exact nofun

end Task

theorem Server.answerPlan_ne_tooMany (s : Server) (q : Request) (method : String) :
    (s.answerPlan q method).1 ≠ 429 := by
  unfold answerPlan
  dsimp only
  generalize List.isEmpty _ = allowed
  cases allowed <;> exact nofun

/-- A request that does not lead to a route gets there without being counted, and so does one whose
body is refused. -/
theorem Server.dispatch_of_not_reached (s : Server) (t : Tally) (h : q.reached? = none) :
    (s.dispatch t q).1 = t ∧ ∀ n, (s.dispatch t q).2.1 ≠ .error (.overLimit n) := by
  unfold dispatch
  cases hrouting : Routing.of q.method q.path with
  | refused e =>
    exact ⟨rfl, fun n heq => Routing.ne_overLimit n hrouting (Except.error.inj heq)⟩
  | found r =>
    dsimp only
    unfold carryOut
    cases htask : Task.ofRequest r q with
    | ok task =>
      have hreached := Request.reached?_eq_some_iff.mpr ⟨hrouting, task, htask⟩
      rw [h] at hreached
      cases hreached
    | error e =>
      refine ⟨rfl, fun n heq => Task.ofRequest_ne_overLimit r q n ?_⟩
      rw [htask]
      exact congrArg Except.error (Except.error.inj heq)

/-- A request that reaches no route is not counted, and it is not refused for coming too often. -/
theorem Server.serve_of_not_reached (s : Server) (id : String) (t : Tally)
    (h : q.reached? = none) :
    (s.serve id t q).tally = t ∧ (s.serve id t q).response.status ≠ 429 := by
  cases hplan : q.plannedMethod? with
  | some method =>
    unfold serve
    rw [hplan]
    exact ⟨rfl, s.answerPlan_ne_tooMany q method⟩
  | none =>
    have hdispatch := s.dispatch_of_not_reached t h
    unfold serve
    rw [hplan]
    generalize s.dispatch t q = answer at hdispatch
    obtain ⟨htally, hresult⟩ := hdispatch
    refine ⟨htally, fun hstatus => ?_⟩
    obtain ⟨n, hn⟩ := status_respond_eq_tooMany_iff.mp hstatus
    exact hresult n hn

end SourceGrade.Service
