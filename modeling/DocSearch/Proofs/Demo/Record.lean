import DocSearch.Proofs.Demo.Steps

/-! # Demonstrations on record

A server can be asked to keep a record of what it is asked to do. A demonstration on a recorded
server is the same demonstration: it ends as it would without the record, which only grows. -/

namespace DocSearch

/-- What a server is asked to do. -/
inductive ServerCall where
  | connect (connection : Connection)
  | ping
  | aggregate (place : Namespace) (stages : List Document)
  | close

namespace ServerCall

/-- The pipelines that a server was given, each with the collection it was given for. -/
def aggregates (calls : List ServerCall) : List (Namespace × List Document) :=
  calls.filterMap fun
    | .aggregate place stages => some (place, stages)
    | .connect _ | .ping | .close => none

end ServerCall

variable {σ ρ α β : Type}

/-- The server with a record of its calls, each noted before it is served. -/
def SearchServer.recorded (server : SearchServer σ) : SearchServer (List ServerCall × σ) where
  connect connection := noted (.connect connection) (server.connect connection)
  ping := noted .ping server.ping
  aggregate place stages := noted (.aggregate place stages) (server.aggregate place stages)
  close := fun (calls, s) => (calls ++ [.close], server.close s)
where
  noted {α : Type} (call : ServerCall) (x : Action σ α) : Action (List ServerCall × σ) α := do
    Action.modify fun (calls, s) => (calls ++ [call], s)
    x.onSecond

theorem SearchServer.run_noted (call : ServerCall) (x : Action σ α) (calls : List ServerCall)
    (s : σ) : (recorded.noted call x).run (calls, s)
      = ((x.run s).1, calls ++ [call], (x.run s).2) := rfl

/-- An action during a demonstration and its twin on the recorded server end alike, and the twin
only adds to the record. -/
def Mirrors (x : Action (DemoState σ) α) (twin : Action (DemoState (List ServerCall × σ)) α) :
    Prop :=
  ∀ defaults journal s, ∃ outcome defaults' journal' s' more,
    x.run (defaults, journal, s) = (outcome, defaults', journal', s') ∧
    ∀ calls, twin.run (defaults, journal, calls, s)
      = (outcome, defaults', journal', calls ++ more, s')

namespace Mirrors

variable {x : Action (DemoState σ) α} {twin : Action (DemoState (List ServerCall × σ)) α}
  {f : α → Action (DemoState σ) β} {g : α → Action (DemoState (List ServerCall × σ)) β}
  {L : Library} {server : SearchServer σ} {stamp : σ → String}

theorem pure (a : α) : Mirrors (Pure.pure a : Action (DemoState σ) α) (Pure.pure a) := by
  intro defaults journal s
  exact ⟨.ok a, defaults, journal, s, [], rfl, fun calls => by simp⟩

theorem lift (computed : Except Fault α) :
    Mirrors (Action.lift computed : Action (DemoState σ) α) (Action.lift computed) := by
  intro defaults journal s
  exact ⟨computed, defaults, journal, s, [], rfl, fun calls => by simp⟩

theorem bind (h : Mirrors x twin) (h' : ∀ a, Mirrors (f a) (g a)) :
    Mirrors (x >>= f) (twin >>= g) := by
  intro defaults journal s
  obtain ⟨outcome, d, j, s', more, hx, htwin⟩ := h defaults journal s
  cases outcome with
  | error fault =>
    exact ⟨.error fault, d, j, s', more, Action.run_bind_of_error hx f,
      fun calls => Action.run_bind_of_error (htwin calls) g⟩
  | ok a =>
    obtain ⟨outcome, d', j', s'', rest, hf, hg⟩ := h' a d j s'
    refine ⟨outcome, d', j', s'', more ++ rest, ?_, fun calls => ?_⟩
    · rw [Action.run_bind_of_ok hx, hf]
    · rw [Action.run_bind_of_ok (htwin calls), hg, List.append_assoc]

/-- A call of the server is noted and served. -/
theorem call (entry : ServerCall) (x : Action σ α) :
    Mirrors x.onSecond.onSecond (SearchServer.recorded.noted entry x).onSecond.onSecond := by
  intro defaults journal s
  exact ⟨(x.run s).1, defaults, journal, (x.run s).2, [entry], rfl, fun calls => rfl⟩

theorem isReachable :
    Mirrors server.isReachable.onSecond.onSecond server.recorded.isReachable.onSecond.onSecond := by
  intro defaults journal s
  exact ⟨SearchServer.reachable (server.ping.run s).1, defaults, journal, (server.ping.run s).2,
    [.ping], rfl, fun calls => rfl⟩

/-- Building a pipeline does not look at the server. -/
theorem stages (p : DemoPlan) :
    Mirrors (p.stages L : Action (DemoState σ) (List Document)) (p.stages L) := by
  intro defaults journal s
  exact ⟨((p.searcher L).stages p.request defaults).1,
    ((p.searcher L).stages p.request defaults).2, journal, s, [], rfl, fun calls => by simp [DemoPlan.stages, Action.run]⟩

end Mirrors

/-! ## The program -/

namespace Mirrors

variable {L : Library} {server : SearchServer σ} {stamp : σ → String}

theorem execute (c : Searcher ρ) (setup : SearchSetup ρ) (request : SearchRequest) :
    Mirrors (c.execute (setup.executor server stamp) request)
      (c.execute (setup.executor server.recorded (stamp ∘ Prod.snd)) request) := by
  intro defaults journal s
  rcases built : c.stages request defaults with ⟨stages, after⟩
  cases stages with
  | error fault =>
    refine ⟨.error fault, after, journal, s, [], c.run_execute_of_error built _, fun calls => ?_⟩
    rw [List.append_nil]
    exact c.run_execute_of_error built _
  | ok stages =>
    rcases ha : (server.aggregate setup.place stages).run s with ⟨answer, s'⟩
    refine ⟨_, after, _, s', [.aggregate setup.place stages],
      setup.run_execute server stamp journal s built ha, fun calls => ?_⟩
    have noted : (server.recorded.aggregate setup.place stages).run (calls, s)
        = (answer, calls ++ [.aggregate setup.place stages], s') :=
      (SearchServer.run_noted _ _ calls s).trans (by rw [ha])
    exact setup.run_execute server.recorded _ journal (calls, s) built noted

theorem searchOver (p : DemoPlan) (setup : SearchSetup Record) :
    Mirrors (p.searchOver setup server stamp)
      (p.searchOver setup server.recorded (stamp ∘ Prod.snd)) := by
  refine bind isReachable fun reached => ?_
  cases reached with
  | false => exact pure none
  | true => exact bind (execute setup.searcher setup p.request) fun records => pure (some records)

theorem search (p : DemoPlan) :
    Mirrors (p.search L server stamp) (p.search L server.recorded (stamp ∘ Prod.snd)) := by
  refine bind (lift _) fun setup => bind (call _ _) fun _ => ?_
  intro defaults journal s
  have searched : Mirrors (p.searchOver setup server stamp) _ := searchOver p setup
  obtain ⟨outcome, d, j, s', more, hx, htwin⟩ := searched defaults journal s
  refine ⟨outcome, d, j, server.close s', more ++ [.close], ?_, fun calls => ?_⟩
  · rw [Action.run_ensuring, hx]
  · rw [Action.run_ensuring, htwin, ← List.append_assoc]
    rfl

theorem carryOut (env : Environment) (request : DemoRequest) :
    Mirrors (request.carryOut L server stamp env)
      (request.carryOut L server.recorded (stamp ∘ Prod.snd) env) := by
  refine bind (lift _) fun plan => ?_
  cases request.dryRun with
  | true => exact bind (stages plan) fun stages => pure (Report.ofStages stages)
  | false =>
    refine bind (search plan) fun found => ?_
    cases found with
    | none => exact pure Report.unreachable
    | some records => exact pure (Report.ofResults request.search records)

end Mirrors
end DocSearch
