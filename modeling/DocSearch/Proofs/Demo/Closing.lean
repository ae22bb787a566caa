import DocSearch.Proofs.Demo.DryRun

/-! # Connections are closed

A run of the demonstration may fail at any of its steps: the plan, the settings that only a run looks
at, the opening of the connection, the ping, the pipeline, the search and the reading of what it
found. Seen from the server there are few courses that it can take, and each that opens the
connection ends by closing it. -/

namespace DocSearch

variable {σ α : Type}

/-! ## What a server sees -/

/-- What a server was asked to do, with its answer. -/
inductive ServerEvent where
  | connect (connection : Connection) (answer : Except Fault Unit)
  | ping (answer : Except Fault Unit)
  | aggregate (place : Namespace) (stages : List Document) (answer : Except Fault (List Datum))
  | close

namespace ServerEvent

/-- The event needs an open connection, and leaves it open. -/
def isUse : ServerEvent → Bool
  | .ping _ | .aggregate .. => true
  | .connect .. | .close => false

def isSearch : ServerEvent → Bool
  | .aggregate .. => true
  | .connect .. | .ping _ | .close => false

end ServerEvent

namespace SearchServer

/-- The action with its answer noted behind other events. -/
def seen (event : Except Fault α → ServerEvent) (x : Action σ α) :
    Action (List ServerEvent × σ) α := fun (events, s) =>
  ((x.run s).1, events ++ [event (x.run s).1], (x.run s).2)

/-- The server with a list of what it was asked and what it answered. -/
def observed (server : SearchServer σ) : SearchServer (List ServerEvent × σ) where
  connect connection := seen (.connect connection) (server.connect connection)
  ping := seen .ping server.ping
  aggregate place stages := seen (.aggregate place stages) (server.aggregate place stages)
  close := fun (events, s) => (events ++ [.close], server.close s)

theorem run_seen {event : Except Fault α → ServerEvent} {x : Action σ α} {s s' : σ}
    {answer : Except Fault α} (h : x.run s = (answer, s')) (events : List ServerEvent) :
    (seen event x).run (events, s) = (answer, events ++ [event answer], s') := by
  show ((x.run s).1, events ++ [event (x.run s).1], (x.run s).2) = _
  rw [h]

end SearchServer

/-! ## Over an open connection -/

namespace DemoPlan

/-- What is asked over an open connection, and what comes of it. -/
inductive Exchange (L : Library) (plan : DemoPlan) (place : Namespace) (defaults : Defaults) :
    List ServerEvent → Except Fault (Option (List Record)) → Prop
  | silent {fault : Fault} : fault.kind = .driver →
      Exchange L plan place defaults [.ping (.error fault)] (.ok none)
  | unwell {fault : Fault} : fault.kind ≠ .driver →
      Exchange L plan place defaults [.ping (.error fault)] (.error fault)
  | unbuilt {fault : Fault} : ((plan.searcher L).stages plan.request defaults).1 = .error fault →
      Exchange L plan place defaults [.ping (.ok ())] (.error fault)
  | failed {stages : List Document} {fault : Fault} :
      ((plan.searcher L).stages plan.request defaults).1 = .ok stages →
      Exchange L plan place defaults [.ping (.ok ()), .aggregate place stages (.error fault)]
        (.error fault)
  | answered {stages : List Document} {documents : List Datum} :
      ((plan.searcher L).stages plan.request defaults).1 = .ok stages →
      Exchange L plan place defaults [.ping (.ok ()), .aggregate place stages (.ok documents)]
        ((decodeAll (plan.kind.resultType L) documents).map some)

/-- Over an open connection there is such an exchange, and it ends alike if nobody looks on. -/
theorem exists_exchange {L : Library} {plan : DemoPlan} {setup : SearchSetup Record}
    (hs : setup.searcher = plan.searcher L) (server : SearchServer σ) (stamp : σ → String)
    (defaults : Defaults) (journal : Journal) (s : σ) :
    ∃ used found defaults' journal' s', Exchange L plan setup.place defaults used found ∧
      (plan.searchOver setup server stamp).run (defaults, journal, s)
        = (found, defaults', journal', s') ∧
      ∀ events, (plan.searchOver setup server.observed (stamp ∘ Prod.snd)).run
          (defaults, journal, events, s) = (found, defaults', journal', events ++ used, s') := by
  rcases hping : server.ping.run s with ⟨answer, s₁⟩
  have pinged (events : List ServerEvent) : server.observed.ping.run (events, s)
      = (answer, events ++ [.ping answer], s₁) := SearchServer.run_seen hping events
  cases answer with
  | error fault =>
    by_cases driver : fault.kind = .driver
    · exact ⟨_, _, defaults, journal, s₁, .silent driver, run_searchOver_of_driver hping driver,
        fun events => run_searchOver_of_driver (pinged events) driver⟩
    · exact ⟨_, _, defaults, journal, s₁, .unwell driver, run_searchOver_of_error hping driver,
        fun events => run_searchOver_of_error (pinged events) driver⟩
  | ok =>
    rcases hb : (plan.searcher L).stages plan.request defaults with ⟨built, after⟩
    have stages_eq : ((plan.searcher L).stages plan.request defaults).1 = built := by rw [hb]
    cases built with
    | error fault =>
      exact ⟨_, _, after, journal, s₁, .unbuilt stages_eq, run_searchOver_of_unbuilt hs hping hb,
        fun events => run_searchOver_of_unbuilt hs (pinged events) hb⟩
    | ok stages =>
      rcases ha : (server.aggregate setup.place stages).run s₁ with ⟨answer, s₂⟩
      have plain := @run_searchOver_of_built _ _ _ _ _ stamp _ _ journal _ _ _ hs hping _ hb _ ha
      have twin (events : List ServerEvent) :
          (plan.searchOver setup server.observed (stamp ∘ Prod.snd)).run
            (defaults, journal, events, s)
          = ((answer >>= decodeAll (plan.kind.resultType L)).map some, after,
              setup.journalAfter stamp stages (plan.kind.resultType L) journal s₁,
              events ++ [.ping (.ok ()), .aggregate setup.place stages answer], s₂) := by
        have asked := @SearchServer.run_seen _ _ (.aggregate setup.place stages) _ _ _ _ ha
          (events ++ [.ping (.ok ())])
        rw [List.append_assoc] at asked
        exact run_searchOver_of_built hs (pinged events) hb asked
      cases answer with
      | error fault => exact ⟨_, _, after, _, s₂, .failed stages_eq, plain, twin⟩
      | ok documents => exact ⟨_, _, after, _, s₂, .answered stages_eq, plain, twin⟩

end DemoPlan

/-! ## Whole runs -/

namespace DemoRequest

variable {L : Library} {env : Environment} {limit : Value} {search : DemoSearch}
  {defaults : Defaults}
  {events : List ServerEvent} {outcome : Except Fault Report} {server : SearchServer σ}
  {stamp : σ → String}

/-- What the server sees of a run, and how the run ends. -/
inductive Session (L : Library) (env : Environment) (limit : Value) (search : DemoSearch)
    (defaults : Defaults) : List ServerEvent → Except Fault Report → Prop
  | unplanned {fault : Fault} : DemoPlan.of env limit search = .error fault →
      Session L env limit search defaults [] (.error fault)
  | unset {plan : DemoPlan} {fault : Fault} : DemoPlan.of env limit search = .ok plan →
      SearchSetup.of (plan.kind.resultType L) plan.settings = .error fault →
      Session L env limit search defaults [] (.error fault)
  | refused {plan : DemoPlan} {setup : SearchSetup Record} (fault : Fault) :
      DemoPlan.of env limit search = .ok plan →
      SearchSetup.of (plan.kind.resultType L) plan.settings = .ok setup →
      Session L env limit search defaults [.connect setup.connection (.error fault)] (.error fault)
  | opened {plan : DemoPlan} {setup : SearchSetup Record} {used : List ServerEvent}
      {found : Except Fault (Option (List Record))} : DemoPlan.of env limit search = .ok plan →
      SearchSetup.of (plan.kind.resultType L) plan.settings = .ok setup →
      plan.Exchange L setup.place defaults used found →
      Session L env limit search defaults (.connect setup.connection (.ok ()) :: (used ++ [.close]))
        (found.map (Report.ofFound search))

theorem exists_session (L : Library) (server : SearchServer σ) (stamp : σ → String)
    (env : Environment) (limit : Value) (search : DemoSearch) (defaults : Defaults)
    (journal : Journal) (s : σ) :
    ∃ events outcome defaults' journal' s', Session L env limit search defaults events outcome ∧
      (carryOut L server stamp env ⟨search, limit, false⟩).run (defaults, journal, s)
        = (outcome, defaults', journal', s') ∧
      (carryOut L server.observed (stamp ∘ Prod.snd) env ⟨search, limit, false⟩).run
        (defaults, journal, [], s) = (outcome, defaults', journal', events, s') := by
  cases hp : DemoPlan.of env limit search with
  | error fault =>
    exact ⟨[], _, defaults, journal, s, .unplanned hp, run_unplanned hp _ _, run_unplanned hp _ _⟩
  | ok plan =>
    rw [run_planned hp, run_planned hp]
    cases hsetup : SearchSetup.of (plan.kind.resultType L) plan.settings with
    | error fault =>
      rw [DemoPlan.run_search_of_error hsetup, DemoPlan.run_search_of_error hsetup]
      exact ⟨[], _, defaults, journal, s, .unset hp hsetup, rfl, rfl⟩
    | ok setup =>
      rcases hc : (server.connect setup.connection).run s with ⟨answer, s₁⟩
      have connected : (server.observed.connect setup.connection).run ([], s)
          = (answer, [.connect setup.connection answer], s₁) := SearchServer.run_seen hc []
      cases answer with
      | error fault =>
        rw [DemoPlan.run_search_of_refused hsetup hc,
          DemoPlan.run_search_of_refused hsetup connected]
        exact ⟨_, _, defaults, journal, s₁, .refused fault hp hsetup, rfl, rfl⟩
      | ok =>
        have hs : setup.searcher = plan.searcher L := by
          obtain ⟨connection, -, h⟩ := Outcome.bind_eq_ok hsetup
          obtain ⟨journalPath, -, h⟩ := Outcome.bind_eq_ok h
          cases h
          rfl
        obtain ⟨used, found, defaults', journal', s', exchange, plain, twin⟩ :=
          DemoPlan.exists_exchange hs server stamp defaults journal s₁
        rw [DemoPlan.run_search_of_connected hsetup hc,
          DemoPlan.run_search_of_connected hsetup connected, plain, twin]
        exact ⟨_, _, defaults', journal', _, .opened hp hsetup exchange, rfl, rfl⟩

/-- The faults that a run comes upon: of its plan, of the settings that only a run looks at, and,
given what the server saw, of the connection, of a ping that says more than that nothing answers, of
the pipeline once the ping is answered, of the search, and of reading what it found. -/
inductive Meets (L : Library) (env : Environment) (limit : Value) (search : DemoSearch)
    (defaults : Defaults) (events : List ServerEvent) : Fault → Prop
  | planning {fault : Fault} : DemoPlan.of env limit search = .error fault →
      Meets L env limit search defaults events fault
  | settings {plan : DemoPlan} {fault : Fault} : DemoPlan.of env limit search = .ok plan →
      SearchSetup.of (plan.kind.resultType L) plan.settings = .error fault →
      Meets L env limit search defaults events fault
  | connecting {connection : Connection} {fault : Fault} :
      .connect connection (.error fault) ∈ events → Meets L env limit search defaults events fault
  | pinging {fault : Fault} : .ping (.error fault) ∈ events → fault.kind ≠ .driver →
      Meets L env limit search defaults events fault
  | building {fault : Fault} : .ping (.ok ()) ∈ events →
      DemoPlan.pipeline L env limit search defaults = .error fault →
      Meets L env limit search defaults events fault
  | searching {place : Namespace} {stages : List Document} {fault : Fault} :
      .aggregate place stages (.error fault) ∈ events →
      Meets L env limit search defaults events fault
  | reading {place : Namespace} {stages : List Document} {documents : List Datum} {fault : Fault} :
      .aggregate place stages (.ok documents) ∈ events →
      decodeAll (search.kind.resultType L) documents = .error fault →
      Meets L env limit search defaults events fault

/-- How a run deals with its connection and with the faults that it meets. -/
structure Conducts (L : Library) (env : Environment) (limit : Value) (search : DemoSearch)
    (defaults : Defaults) (events : List ServerEvent) (outcome : Except Fault Report) : Prop where
  /-- A connection that is opened is closed once, after all else. There is no other one to close. -/
  closed : (∃ connection used, (∀ e ∈ used, e.isUse = true) ∧
      events = .connect connection (.ok ()) :: (used ++ [.close])) ∨
    ∀ e ∈ events, ∃ connection fault, e = .connect connection (.error fault)
  /-- No connection is tried before all that it takes is settled. -/
  unplanned : ∀ fault, DemoPlan.of env limit search = .error fault → events = []
  unset : ∀ plan fault, DemoPlan.of env limit search = .ok plan →
    SearchSetup.of (plan.kind.resultType L) plan.settings = .error fault → events = []
  /-- There is one search at most, for the pipeline of the search, and only after a ping that was
  answered. -/
  once : events.countP ServerEvent.isSearch ≤ 1
  pinged : ∀ place stages answer, .aggregate place stages answer ∈ events →
    DemoPlan.pipeline L env limit search defaults = .ok stages ∧
      List.Sublist [.ping (.ok ()), .aggregate place stages answer] events
  unreachable : ∀ fault, .ping (.error fault) ∈ events → fault.kind = .driver →
    events.countP ServerEvent.isSearch = 0 ∧ outcome = .ok .unreachable
  /-- The code is zero for what a search has found, and otherwise no server has answered. -/
  success : ∀ report, outcome = .ok report → report.exit.code = 0 →
    ∃ place stages documents records, .aggregate place stages (.ok documents) ∈ events ∧
      decodeAll (search.kind.resultType L) documents = .ok records ∧
        report = .ofResults search records
  failure : ∀ report, outcome = .ok report → report.exit.code ≠ 0 →
    ∃ fault, .ping (.error fault) ∈ events ∧ fault.kind = .driver
  /-- The run fails with the fault that it meets, and with nothing else. -/
  faults : ∀ fault, outcome = .error fault ↔ Meets L env limit search defaults events fault

theorem Session.closed (h : Session L env limit search defaults events outcome) :
    (∃ connection used, (∀ e ∈ used, e.isUse = true) ∧
      events = .connect connection (.ok ()) :: (used ++ [.close])) ∨
    ∀ e ∈ events, ∃ connection fault, e = .connect connection (.error fault) := by
  cases h with
  | unplanned | unset | refused => exact .inr (by simp)
  | opened _ _ exchange =>
    refine .inl ⟨_, _, ?_, rfl⟩
    cases exchange <;> simp [ServerEvent.isUse]

theorem Session.unsettled {fault : Fault} (h : Session L env limit search defaults events outcome)
    (hf : DemoPlan.of env limit search = .error fault ∨ ∃ plan,
      DemoPlan.of env limit search = .ok plan ∧
        SearchSetup.of (plan.kind.resultType L) plan.settings = .error fault) : events = [] := by
  cases h with
  | unplanned | unset => rfl
  | refused _ hp hs | opened hp hs => simp [hp, hs] at hf

theorem Session.once (h : Session L env limit search defaults events outcome) :
    events.countP ServerEvent.isSearch ≤ 1 := by
  cases h with
  | unplanned | unset | refused => simp [ServerEvent.isSearch]
  | opened _ _ exchange => cases exchange <;> simp [List.countP_cons, ServerEvent.isSearch]

theorem Session.pinged (h : Session L env limit search defaults events outcome) {place : Namespace}
    {stages : List Document} {answer : Except Fault (List Datum)}
    (hm : .aggregate place stages answer ∈ events) :
    DemoPlan.pipeline L env limit search defaults = .ok stages ∧
      List.Sublist [.ping (.ok ()), .aggregate place stages answer] events := by
  cases h with
  | unplanned | unset | refused => simp at hm
  | opened hp _ exchange =>
    rw [DemoPlan.pipeline_eq hp]
    cases exchange with
    | silent | unwell | unbuilt => simp at hm
    | failed built | answered built =>
      simp at hm
      simp [hm, built]

theorem Session.unreachable (h : Session L env limit search defaults events outcome) {fault : Fault}
    (hm : .ping (.error fault) ∈ events) (driver : fault.kind = .driver) :
    events.countP ServerEvent.isSearch = 0 ∧ outcome = .ok .unreachable := by
  cases h with
  | unplanned | unset | refused => simp at hm
  | opened _ _ exchange =>
    cases exchange with
    | silent => exact ⟨rfl, rfl⟩
    | unwell other =>
      simp at hm
      exact absurd (hm ▸ driver) other
    | unbuilt | failed | answered => simp at hm

theorem Session.success (h : Session L env limit search defaults events outcome) {report : Report}
    (ho : outcome = .ok report) (hs : report.exit.code = 0) :
    ∃ place stages documents records, .aggregate place stages (.ok documents) ∈ events ∧
      decodeAll (search.kind.resultType L) documents = .ok records ∧
        report = .ofResults search records := by
  cases h with
  | unplanned | unset | refused => cases ho
  | opened hp _ exchange =>
    obtain ⟨found, hf, rfl⟩ := Outcome.map_eq_ok ho
    cases exchange with
    | silent =>
      cases hf
      exact absurd hs Int.one_ne_zero
    | unwell | unbuilt | failed => cases hf
    | answered =>
      obtain ⟨records, hd, rfl⟩ := Outcome.map_eq_ok hf
      rw [(DemoPlan.of_eq_ok hp).1] at hd
      exact ⟨_, _, _, records, .tail _ (.tail _ (.head _)), hd, rfl⟩

theorem Session.failure (h : Session L env limit search defaults events outcome) {report : Report}
    (ho : outcome = .ok report) (hf : report.exit.code ≠ 0) :
    ∃ fault, .ping (.error fault) ∈ events ∧ fault.kind = .driver := by
  cases h with
  | unplanned | unset | refused => cases ho
  | opened hp _ exchange =>
    obtain ⟨found, hfound, rfl⟩ := Outcome.map_eq_ok ho
    cases exchange with
    | silent driver => exact ⟨_, .tail _ (.head _), driver⟩
    | unwell | unbuilt | failed => cases hfound
    | answered =>
      obtain ⟨records, -, rfl⟩ := Outcome.map_eq_ok hfound
      exact absurd rfl hf

/-- A run that fails has met the fault. -/
theorem Session.meets {fault : Fault} (h : Session L env limit search defaults events outcome)
    (ho : outcome = .error fault) : Meets L env limit search defaults events fault := by
  cases h with
  | unplanned hp =>
    cases ho
    exact .planning hp
  | unset hp hs =>
    cases ho
    exact .settings hp hs
  | refused =>
    cases ho
    exact .connecting (.head _)
  | opened hp _ exchange =>
    have hf := Outcome.map_eq_error ho
    cases exchange with
    | silent => cases hf
    | unwell driver =>
      cases hf
      exact .pinging (.tail _ (.head _)) driver
    | unbuilt hb =>
      cases hf
      exact .building (.tail _ (.head _)) ((DemoPlan.pipeline_eq hp _).trans hb)
    | failed =>
      cases hf
      exact .searching (.tail _ (.tail _ (.head _)))
    | answered =>
      have hd := Outcome.map_eq_error hf
      rw [(DemoPlan.of_eq_ok hp).1] at hd
      exact .reading (.tail _ (.tail _ (.head _))) hd

/-- A fault that a run meets is how it ends. -/
theorem Session.propagates (h : Session L env limit search defaults events outcome) {fault : Fault}
    (hm : Meets L env limit search defaults events fault) : outcome = .error fault := by
  cases h with
  | unplanned hp | unset hp | refused _ hp => cases hm <;> simp_all
  | opened hp hs exchange =>
    have kind := (DemoPlan.of_eq_ok hp).1
    have built := @DemoPlan.pipeline_eq L _ _ _ _ hp defaults
    -- A fault of another step would need an answer that the server did not give.
    cases exchange <;> cases hm <;> simp_all [Except.map]

theorem Session.conducts (h : Session L env limit search defaults events outcome) :
    Conducts L env limit search defaults events outcome where
  closed := h.closed
  unplanned _ hp := h.unsettled (.inl hp)
  unset plan _ hp hs := h.unsettled (.inr ⟨plan, hp, hs⟩)
  once := h.once
  pinged _ _ _ := h.pinged
  unreachable _ := h.unreachable
  success _ := h.success
  failure _ := h.failure
  faults _ := ⟨h.meets, h.propagates⟩

/-- A run closes the connection that it opens, whatever its server answers; it searches at most
once, over a connection that answers, and ends with the fault that it meets, if it is not that of a
server that does not answer. A dry run opens no connection. Seeing what the server is asked changes
nothing about the run. -/
theorem closes_what_it_opens (L : Library) (server : SearchServer σ) (stamp : σ → String)
    (env : Environment) (request : DemoRequest) (defaults : Defaults) (journal : Journal) (s : σ) :
    ∃ events outcome defaults' journal' s',
      (request.carryOut L server stamp env).run (defaults, journal, s)
        = (outcome, defaults', journal', s') ∧
      (request.carryOut L server.observed (stamp ∘ Prod.snd) env).run (defaults, journal, [], s)
        = (outcome, defaults', journal', events, s') ∧
      match request.dryRun with
      | true => events = []
      | false => Conducts L env request.limit request.search defaults events outcome := by
  obtain ⟨search, limit, dryRun⟩ := request
  cases dryRun with
  | true =>
    cases hp : DemoPlan.of env limit search with
    | error fault =>
      exact ⟨[], _, defaults, journal, s, run_unplanned hp _ _, run_unplanned hp _ _, rfl⟩
    | ok plan => exact ⟨[], _, _, journal, s, run_shown hp _ _, run_shown hp _ _, rfl⟩
  | false =>
    obtain ⟨events, outcome, defaults', journal', s', session, plain, twin⟩ :=
      exists_session L server stamp env limit search defaults journal s
    exact ⟨events, outcome, defaults', journal', s', plain, twin, session.conducts⟩

/-- A server whose ping times out. -/
def timingOut : SearchServer Unit where
  connect _ := pure ()
  ping := Action.fail (.external .driver "timed out")
  aggregate _ _ := pure []
  close := id

/-- Over a connection on which the ping times out nothing else is asked. -/
theorem closes_timed_out_connection :
    let run := ((DemoRequest.mk (.autocomplete "matr") (.int 10) false).carryOut .lenient
      timingOut.observed (fun _ => "") [(connectionVariable, "mongodb://localhost")]).run
        (DemoPlan.defaults, ⟨true, [], 0⟩, [], ())
    run.1 = .ok .unreachable ∧
      run.2.2.2.1 = [.connect ⟨.str "mongodb://localhost", .int 10000⟩ (.ok ()),
        .ping (.error (.external .driver "timed out")), .close] := by
  obtain ⟨events, outcome, _, _, _, -, observed, conducts⟩ := closes_what_it_opens .lenient
    timingOut (fun _ => "") [(connectionVariable, "mongodb://localhost")]
    ⟨.autocomplete "matr", .int 10, false⟩ DemoPlan.defaults ⟨true, [], 0⟩ ()
  have seen : [.connect ⟨.str "mongodb://localhost", .int 10000⟩ (.ok ()),
      .ping (.error (.external .driver "timed out")), .close] = events :=
    congrArg (fun run => run.2.2.2.1) observed
  have unanswered : .ping (.error (.external .driver "timed out")) ∈ events := by simp [← seen]
  have ended := (conducts.unreachable _ unanswered rfl).2
  exact ⟨(congrArg Prod.fst observed).trans ended, rfl⟩

end DemoRequest
end DocSearch
