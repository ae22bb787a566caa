import DocSearch.Demo.Run
import DocSearch.Proofs.Search.Sessions

/-! # A demonstration, step by step

What each function of the demonstration comes to, given what the steps in it do. All of it holds of
any server, so also of one that keeps a record. -/

namespace DocSearch

variable {σ ρ : Type}

theorem SearchServer.run_isReachable (server : SearchServer σ) (s : σ) :
    server.isReachable.run s = (reachable (server.ping.run s).1, (server.ping.run s).2) := rfl

namespace SearchSetup

variable (setup : SearchSetup ρ) (server : SearchServer σ) (stamp : σ → String)
  (stages : List Document) (type : ResultType ρ) (journal : Journal) (s : σ)

/-- The journal that a setup leaves when a pipeline is sent. -/
def journalAfter : Journal :=
  if setup.journalPath.isSome then journal.write (Journal.record (stamp s) type.key.name stages)
  else journal

/-- The executor of a setup asks the setup's own collection, once; only the journal is before it. -/
theorem run_executor : ((setup.executor server stamp).run stages type).run (journal, s)
    = ((((server.collection setup.place).executor.run stages type).run s).1,
        setup.journalAfter stamp stages type journal s,
        (((server.collection setup.place).executor.run stages type).run s).2) := by
  unfold executor journalAfter
  cases setup.journalPath <;> rfl

/-- A search whose pipeline can be built asks the collection, and decodes the answer. -/
theorem run_execute {c : Searcher ρ} {request : SearchRequest} {defaults after : Defaults} {s' : σ}
    {stages : List Document} {answer : Except Fault (List Datum)}
    (hb : c.stages request defaults = (.ok stages, after))
    (ha : (server.aggregate setup.place stages).run s = (answer, s')) :
    (c.execute (setup.executor server stamp) request).run (defaults, journal, s)
      = (answer >>= decodeAll c.type, after, setup.journalAfter stamp stages c.type journal s,
          s') := by
  have asked : ((server.collection setup.place).executor.run stages c.type).run s
      = (answer >>= decodeAll c.type, s') := by
    rw [Collection.run_executor]
    show (((server.aggregate setup.place stages).run s).1 >>= decodeAll c.type,
      ((server.aggregate setup.place stages).run s).2) = _
    rw [ha]
  rw [c.run_execute_of_ok hb, run_executor, asked]

end SearchSetup

namespace DemoPlan

variable {L : Library} {plan : DemoPlan} {setup : SearchSetup Record} {server : SearchServer σ}
  {stamp : σ → String}
  {defaults after : Defaults} {journal : Journal} {s s₁ s₂ : σ} {fault : Fault}

/-! ## Over an open connection -/

theorem run_searchOver_of_driver (h : server.ping.run s = (.error fault, s₁))
    (driver : fault.kind = .driver) : (plan.searchOver setup server stamp).run (defaults, journal, s)
      = (.ok none, defaults, journal, s₁) := by
  have silent : (server.isReachable.onSecond.onSecond).run (defaults, journal, s)
      = (.ok false, defaults, journal, s₁) := by
    simp [SearchServer.run_isReachable, SearchServer.reachable, h, driver]
  exact Action.run_bind_of_ok silent _

theorem run_searchOver_of_error (h : server.ping.run s = (.error fault, s₁))
    (driver : fault.kind ≠ .driver) : (plan.searchOver setup server stamp).run (defaults, journal, s)
      = (.error fault, defaults, journal, s₁) := by
  have failed : (server.isReachable.onSecond.onSecond).run (defaults, journal, s)
      = (.error fault, defaults, journal, s₁) := by
    simp [SearchServer.run_isReachable, SearchServer.reachable, h, driver]
  exact Action.run_bind_of_error failed _

theorem run_searchOver_of_ok (h : server.ping.run s = (.ok (), s₁)) :
    (plan.searchOver setup server stamp).run (defaults, journal, s) =
      let found := (setup.searcher.execute (setup.executor server stamp) plan.request).run
        (defaults, journal, s₁)
      (found.1.map some, found.2) := by
  have answered : (server.isReachable.onSecond.onSecond).run (defaults, journal, s)
      = (.ok true, defaults, journal, s₁) := by
    simp [SearchServer.run_isReachable, SearchServer.reachable, h]
  rw [searchOver, Action.run_bind_of_ok answered, if_pos rfl]
  rcases hf : (setup.searcher.execute (setup.executor server stamp) plan.request).run
    (defaults, journal, s₁) with ⟨found, after⟩
  cases found with
  | error fault => exact Action.run_bind_of_error hf _
  | ok records => exact Action.run_bind_of_ok hf _

theorem run_searchOver_of_unbuilt (hs : setup.searcher = plan.searcher L)
    (h : server.ping.run s = (.ok (), s₁))
    (hb : (plan.searcher L).stages plan.request defaults = (.error fault, after)) :
    (plan.searchOver setup server stamp).run (defaults, journal, s)
      = (.error fault, after, journal, s₁) := by
  rw [run_searchOver_of_ok h, hs, (plan.searcher L).run_execute_of_error hb]
  rfl

theorem run_searchOver_of_built (hs : setup.searcher = plan.searcher L)
    (h : server.ping.run s = (.ok (), s₁)) {stages : List Document}
    (hb : (plan.searcher L).stages plan.request defaults = (.ok stages, after))
    {answer : Except Fault (List Datum)}
    (ha : (server.aggregate setup.place stages).run s₁ = (answer, s₂)) :
    (plan.searchOver setup server stamp).run (defaults, journal, s)
      = ((answer >>= decodeAll (plan.kind.resultType L)).map some, after,
          setup.journalAfter stamp stages (plan.kind.resultType L) journal s₁, s₂) := by
  rw [run_searchOver_of_ok h, hs, setup.run_execute server stamp journal s₁ hb ha]
  rfl

/-! ## The connection -/

theorem run_search_of_error (h : SearchSetup.of (plan.kind.resultType L) plan.settings = .error fault)
    (state : DemoState σ) : (plan.search L server stamp).run state = (.error fault, state) := by
  rw [search, h]
  exact Action.run_bind_of_error (Action.run_lift _ _) _

theorem run_search_of_refused (h : SearchSetup.of (plan.kind.resultType L) plan.settings = .ok setup)
    (hc : (server.connect setup.connection).run s = (.error fault, s₁)) :
    (plan.search L server stamp).run (defaults, journal, s) = (.error fault, defaults, journal, s₁) := by
  have refused : ((server.connect setup.connection).onSecond.onSecond).run (defaults, journal, s)
      = (.error fault, defaults, journal, s₁) := by simp [hc]
  rw [search, h, Action.run_bind_of_ok (Action.run_lift _ _)]
  exact Action.run_bind_of_error refused _

theorem run_search_of_connected (h : SearchSetup.of (plan.kind.resultType L) plan.settings = .ok setup)
    (hc : (server.connect setup.connection).run s = (.ok (), s₁)) :
    (plan.search L server stamp).run (defaults, journal, s) =
      let found := (plan.searchOver setup server stamp).run (defaults, journal, s₁)
      (found.1, found.2.1, found.2.2.1, server.close found.2.2.2) := by
  have connected : ((server.connect setup.connection).onSecond.onSecond).run (defaults, journal, s)
      = (.ok (), defaults, journal, s₁) := by simp [hc]
  rw [search, h, Action.run_bind_of_ok (Action.run_lift _ _), Action.run_bind_of_ok connected]
  rfl

end DemoPlan

/-! ## A request -/

/-- The report of what a plan found, if its server was reached. -/
def Report.ofFound (search : DemoSearch) : Option (List Record) → Report
  | none => .unreachable
  | some records => .ofResults search records

namespace DemoRequest

variable {L : Library} {env : Environment} {limit : Value} {search : DemoSearch}
  {defaults : Defaults} {server : SearchServer σ} {stamp : σ → String}

theorem run_unplanned {fault : Fault} (h : DemoPlan.of env limit search = .error fault)
    (dryRun : Bool) (state : DemoState σ) :
    (carryOut L server stamp env ⟨search, limit, dryRun⟩).run state = (.error fault, state) := by
  unfold carryOut
  rw [h]
  exact Action.run_bind_of_error (Action.run_lift _ _) _

theorem run_planned {plan : DemoPlan} (h : DemoPlan.of env limit search = .ok plan)
    (state : DemoState σ) : (carryOut L server stamp env ⟨search, limit, false⟩).run state =
      let found := (plan.search L server stamp).run state
      (found.1.map (Report.ofFound search), found.2) := by
  unfold carryOut
  rw [h, Action.run_bind_of_ok (Action.run_lift _ _), if_neg Bool.false_ne_true]
  rcases hf : (plan.search L server stamp).run state with ⟨found, after⟩
  match found with
  | .error fault => exact Action.run_bind_of_error hf _
  | .ok none => exact Action.run_bind_of_ok hf _
  | .ok (some records) => exact Action.run_bind_of_ok hf _

theorem run_shown {plan : DemoPlan} (h : DemoPlan.of env limit search = .ok plan)
    (journal : Journal) (s : σ) :
    (carryOut L server stamp env ⟨search, limit, true⟩).run (defaults, journal, s) =
      let built := (plan.searcher L).stages plan.request defaults
      (built.1.map Report.ofStages, built.2, journal, s) := by
  unfold carryOut
  rw [h, Action.run_bind_of_ok (Action.run_lift _ _), if_pos rfl]
  rcases hb : (plan.searcher L).stages plan.request defaults with ⟨built, after⟩
  have shown : (plan.stages L).run (defaults, journal, s) = (built, after, journal, s) := by
    show (((plan.searcher L).stages plan.request defaults).1,
      ((plan.searcher L).stages plan.request defaults).2, journal, s) = _
    rw [hb]
  cases built with
  | error fault => exact Action.run_bind_of_error shown _
  | ok stages => exact Action.run_bind_of_ok shown _

end DemoRequest
end DocSearch
