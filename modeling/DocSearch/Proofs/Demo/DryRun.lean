import DocSearch.Proofs.CommandLine.Flag
import DocSearch.Proofs.Demo.Record
import DocSearch.Record.Lenient

/-! # What a dry run shows

The stages of a demonstration are settled by its request, the environment and the defaults. A dry
run shows them and asks nothing of a server. A run that reaches its server sends them once, or fails
as the dry run does and sends nothing; the settings that only a run looks at, the address and the
path of the journal, have no part in them. -/

namespace DocSearch

variable {σ ρ : Type}

/-- The sample collection that a search is about. -/
def DemoSearch.place : DemoSearch → Namespace
  | .autocomplete _ => ⟨"sample_mflix", "movies"⟩
  | .nearby .. => ⟨"sample_airbnb", "listingsAndReviews"⟩

/-- The kind of what a search finds. -/
def DemoSearch.kind : DemoSearch → RecordKind
  | .autocomplete _ => .movie
  | .nearby .. => .listing

/-- The values that a report prints as JSON. -/
def Report.printed (report : Report) : List Value :=
  report.output.filterMap fun
    | .json value => some value
    | .line .. | .table .. => none

/-- An environment and a server that searches reach from a state: there is an address, and over the
connection that the settings ask for the ping is answered. -/
structure Reaches (server : SearchServer σ) (env : Environment) (s : σ) : Prop where
  address : (env.nonEmpty? connectionVariable).isSome
  answered : ∀ settings connection, SearchSettings.load env {} = .ok settings →
    Connection.ofSettings settings = .ok connection →
    ((server.connect connection >>= fun _ => server.ping).run s).1 = .ok ()

theorem Reaches.exists_answer {server : SearchServer σ} {env : Environment} {s : σ}
    (h : Reaches server env s) {settings : SearchSettings} {connection : Connection}
    (hs : SearchSettings.load env {} = .ok settings)
    (hc : Connection.ofSettings settings = .ok connection) :
    ∃ s₁ s₂, (server.connect connection).run s = (.ok (), s₁) ∧
      server.ping.run s₁ = (.ok (), s₂) := by
  have answered := h.answered settings connection hs hc
  rcases hconnect : (server.connect connection).run s with ⟨connected, s₁⟩
  cases connected with
  | error fault =>
    rw [Action.run_bind_of_error hconnect] at answered
    cases answered
  | ok =>
    rw [Action.run_bind_of_ok hconnect] at answered
    exact ⟨s₁, (server.ping.run s₁).2, rfl, Prod.ext answered rfl⟩

/-! ## Settings -/

namespace SearchSettings

variable {env : Environment} {settings : SearchSettings}

/-- Only the time to wait for a server can be unreadable; all else comes from variables as text. -/
theorem load_eq_ok (h : load env {} = .ok settings) :
    ∃ timeoutMs, settings = {
      address := .str (env.getOr connectionVariable "")
      timeoutMs := timeoutMs
      database := .str (env.getOr databaseVariable "sample_mflix")
      collection := .str (env.getOr collectionVariable "movies")
      searchIndex := .ofText? (env.nonEmpty? indexVariable)
      journalPath := .ofText? ((env.nonEmpty? journalVariable).map Text.normalPath) } := by
  obtain ⟨timeoutMs, -, hs⟩ := Outcome.bind_eq_ok h
  exact ⟨timeoutMs, (Except.ok.inj hs).symm⟩

theorem address_truthy (h : load env {} = .ok settings)
    (address : (env.nonEmpty? connectionVariable).isSome) : settings.address.truthy = true := by
  obtain ⟨timeoutMs, rfl⟩ := load_eq_ok h
  obtain ⟨text, ht⟩ := Option.isSome_iff_exists.mp address
  obtain ⟨hget, hne⟩ := Option.filter_eq_some_iff.mp ht
  simpa [Value.truthy, Environment.getOr, hget] using hne

end SearchSettings

/-- With an address and a path that is a text, if there is one, nothing of a setup can fail. -/
theorem SearchSetup.of_eq (settings : SearchSettings) (path : Option String)
    (address : settings.address.truthy = true) (hp : settings.journalPath = .ofText? path)
    (type : ResultType ρ) : of type settings = .ok {
      connection := ⟨settings.address, settings.timeoutMs⟩
      place := ⟨settings.database.display, settings.collection.display⟩
      journalPath := path.map Text.normalPath
      searcher := ⟨type, settings.searchIndex⟩ } := by
  have connected : Connection.ofSettings settings
      = .ok ⟨settings.address, settings.timeoutMs⟩ := if_pos address
  unfold of
  rw [connected, hp]
  cases path <;> rfl

namespace DemoPlan

variable {L : Library} {env : Environment} {limit : Value} {search : DemoSearch} {plan : DemoPlan}

/-- A plan is made from the settings of the environment, for the search's own collection and kind of
results. -/
theorem of_eq_ok (h : of env limit search = .ok plan) :
    plan.kind = search.kind ∧
      ∃ settings, SearchSettings.load env {} = .ok settings ∧ plan.settings = { settings with
        database := .str search.place.database
        collection := .str search.place.collection } := by
  cases search with
  | autocomplete query =>
    obtain ⟨films, hf, h⟩ := Outcome.bind_eq_ok h
    obtain ⟨settings, hs, rfl⟩ := Outcome.map_eq_ok hf
    obtain ⟨clause, -, h⟩ := Outcome.bind_eq_ok h
    obtain ⟨highlight, -, h⟩ := Outcome.bind_eq_ok h
    cases h
    exact ⟨rfl, settings, hs, rfl⟩
  | nearby query latitude longitude distance =>
    obtain ⟨listings, hl, h⟩ := Outcome.bind_eq_ok h
    obtain ⟨settings, hs, rfl⟩ := Outcome.map_eq_ok hl
    obtain ⟨empty, -, h⟩ := Outcome.bind_eq_ok h
    obtain ⟨near, -, h⟩ := Outcome.bind_eq_ok h
    obtain ⟨placed, -, h⟩ := Outcome.bind_eq_ok h
    obtain ⟨phrase, -, h⟩ := Outcome.bind_eq_ok h
    obtain ⟨compound, -, h⟩ := Outcome.bind_eq_ok h
    obtain ⟨highlight, -, h⟩ := Outcome.bind_eq_ok h
    cases h
    exact ⟨rfl, settings, hs, rfl⟩

/-- Over a connection that the settings of the environment ask for, a plan's search goes to the
search's own collection, by the searcher that the plan has. -/
theorem exists_setup (L : Library) (h : of env limit search = .ok plan)
    (address : (env.nonEmpty? connectionVariable).isSome) :
    ∃ settings setup, SearchSettings.load env {} = .ok settings ∧
      Connection.ofSettings settings = .ok setup.connection ∧
      SearchSetup.of (plan.kind.resultType L) plan.settings = .ok setup ∧
      setup.place = search.place ∧ setup.searcher = plan.searcher L := by
  obtain ⟨-, settings, hs, hp⟩ := of_eq_ok h
  have truthy := SearchSettings.address_truthy hs address
  obtain ⟨timeoutMs, hload⟩ := SearchSettings.load_eq_ok hs
  have hpath : plan.settings.journalPath = .ofText?
      ((env.nonEmpty? SearchSettings.journalVariable).map Text.normalPath) := by rw [hp, hload]
  have setup := SearchSetup.of_eq plan.settings _ (by rw [hp]; exact truthy) hpath
    (plan.kind.resultType L)
  refine ⟨settings, _, hs, ?_, setup, ?_, rfl⟩
  · rw [hp]
    exact if_pos truthy
  · rw [hp]
    rfl

/-- The stages that a search comes to, from the defaults on. -/
def pipeline (L : Library) (env : Environment) (limit : Value) (search : DemoSearch)
    (defaults : Defaults) : Except Fault (List Document) := do
  let plan ← of env limit search
  ((plan.searcher L).stages plan.request defaults).1

theorem pipeline_eq (h : of env limit search = .ok plan) (defaults : Defaults) :
    pipeline L env limit search defaults
      = ((plan.searcher L).stages plan.request defaults).1 := by
  unfold pipeline
  rw [h]
  rfl

/-- A search whose server answers the ping: the executor is asked, then the connection is closed. -/
theorem run_search_reached {server : SearchServer σ} {setup : SearchSetup Record}
    {s s₁ s₂ : σ} (hsetup : SearchSetup.of (plan.kind.resultType L) plan.settings = .ok setup)
    (hc : (server.connect setup.connection).run s = (.ok (), s₁))
    (hping : server.ping.run s₁ = (.ok (), s₂)) (stamp : σ → String) (defaults : Defaults)
    (journal : Journal) : (plan.search L server stamp).run (defaults, journal, s) =
      let found := (setup.searcher.execute (setup.executor server stamp) plan.request).run
        (defaults, journal, s₂)
      (found.1.map some, found.2.1, found.2.2.1, server.close found.2.2.2) := by
  rw [run_search_of_connected hsetup hc, run_searchOver_of_ok hping]

end DemoPlan

/-- A search on record asks for the stages that can be built, and for nothing if they cannot. -/
theorem Searcher.run_execute_recorded (c : Searcher ρ) (setup : SearchSetup ρ)
    (server : SearchServer σ) (stamp : List ServerCall × σ → String) (request : SearchRequest)
    (defaults : Defaults) (journal : Journal) (calls : List ServerCall) (s : σ) :
    ∃ outcome defaults' journal' s',
      (c.execute (setup.executor server.recorded stamp) request).run
          (defaults, journal, calls, s)
        = (outcome, defaults', journal',
            calls ++ ((c.stages request defaults).1.toOption.map fun stages =>
              ServerCall.aggregate setup.place stages).toList, s') ∧
      ∀ fault, (c.stages request defaults).1 = .error fault → outcome = .error fault := by
  rcases built : c.stages request defaults with ⟨stages, after⟩
  cases stages with
  | error fault =>
    refine ⟨.error fault, after, journal, s, ?_, ?_⟩
    · rw [c.run_execute_of_error built]
      show _ = (Except.error fault, after, journal, calls ++ [], s)
      rw [List.append_nil]
    · intro other h
      exact congrArg Except.error (Except.error.inj h)
  | ok stages =>
    have sent := setup.run_execute server.recorded stamp journal (calls, s) built
      (SearchServer.run_noted _ (server.aggregate setup.place stages) calls s)
    exact ⟨_, _, _, _, sent, nofun⟩

namespace DemoRequest

variable {L : Library} {server : SearchServer σ} {stamp : σ → String} {env : Environment}
  {limit : Value} {search : DemoSearch}

/-- A dry run shows the stages and leaves the journal and the server as they are. -/
theorem run_dry (L : Library) (server : SearchServer σ) (stamp : σ → String) (env : Environment)
    (limit : Value) (search : DemoSearch) (defaults : Defaults) (journal : Journal) (s : σ) :
    ∃ defaults', (carryOut L server stamp env ⟨search, limit, true⟩).run (defaults, journal, s)
      = ((DemoPlan.pipeline L env limit search defaults).map Report.ofStages,
          defaults', journal, s) := by
  cases hp : DemoPlan.of env limit search with
  | error fault =>
    rw [run_unplanned hp, DemoPlan.pipeline, hp]
    exact ⟨defaults, rfl⟩
  | ok plan =>
    rw [run_shown hp, DemoPlan.pipeline_eq hp]
    exact ⟨_, rfl⟩

/-- A run that reaches its server: what it asks, and how it ends if the stages cannot be built. -/
theorem run_reached {s : σ} (h : Reaches server env s) (L : Library) (stamp : σ → String)
    (limit : Value) (search : DemoSearch) (defaults : Defaults) (journal : Journal) :
    ∃ outcome defaults' journal' calls s',
      (carryOut L server.recorded (stamp ∘ Prod.snd) env ⟨search, limit, false⟩).run
          (defaults, journal, [], s) = (outcome, defaults', journal', calls, s') ∧
      ServerCall.aggregates calls = ((DemoPlan.pipeline L env limit search defaults).toOption.map
        fun stages => (search.place, stages)).toList ∧
      ∀ fault, DemoPlan.pipeline L env limit search defaults = .error fault →
        outcome = .error fault := by
  cases hp : DemoPlan.of env limit search with
  | error fault =>
    rw [run_unplanned hp, DemoPlan.pipeline, hp]
    refine ⟨.error fault, defaults, journal, [], s, rfl, rfl, ?_⟩
    intro other h
    exact congrArg Except.error (Except.error.inj h)
  | ok plan =>
    obtain ⟨settings, setup, hload, hconnection, hsetup, hplace, hsearcher⟩ :=
      DemoPlan.exists_setup L hp h.address
    obtain ⟨s₁, s₂, hconnect, hping⟩ := h.exists_answer hload hconnection
    have noted : (server.recorded.connect setup.connection).run ([], s)
        = (.ok (), [.connect setup.connection], s₁) :=
      (SearchServer.run_noted _ _ [] s).trans (by rw [hconnect]; rfl)
    have pinged : server.recorded.ping.run ([.connect setup.connection], s₁)
        = (.ok (), [.connect setup.connection, .ping], s₂) :=
      (SearchServer.run_noted _ _ _ s₁).trans (by rw [hping]; rfl)
    obtain ⟨outcome, defaults', journal', s', found, failing⟩ :=
      setup.searcher.run_execute_recorded setup server (stamp ∘ Prod.snd) plan.request defaults
        journal [.connect setup.connection, .ping] s₂
    have searched := DemoPlan.run_search_reached hsetup noted pinged (stamp ∘ Prod.snd) defaults
      journal
    rw [found] at searched
    rw [hsearcher, hplace] at searched
    rw [hsearcher] at failing
    have asked : ServerCall.aggregates ([.connect setup.connection, .ping]
        ++ (((plan.searcher L).stages plan.request defaults).1.toOption.map fun stages =>
          ServerCall.aggregate search.place stages).toList ++ [.close])
        = (((plan.searcher L).stages plan.request defaults).1.toOption.map fun stages =>
          (search.place, stages)).toList := by
      cases ((plan.searcher L).stages plan.request defaults).1 <;> rfl
    rw [run_planned hp, searched, DemoPlan.pipeline_eq hp]
    refine ⟨_, _, _, _, _, rfl, asked, ?_⟩
    intro fault hf
    rw [failing fault hf]
    rfl

/-! ## Dry runs and runs -/

/-- What a run asks of the server, given the run on record. -/
def calls (recorded : Action (DemoState (List ServerCall × σ)) Report) (state : DemoState σ) :
    List ServerCall := (recorded.run (state.1, state.2.1, [], state.2.2)).2.2.2.1

/-- What a dry run shows is what a run sends: if it ends, it has printed stages, and the run gives
these to the server for one collection, once, and nothing else; if it fails, the run fails alike and
sends nothing. -/
structure Previews (place : Namespace) (dry live : Except Fault Report) (calls : List ServerCall) :
    Prop where
  shown : ∀ report, dry = .ok report → report.exit = .success ∧
    ∃ stages : List Document, report.printed = [.list (stages.map .object)] ∧
      ServerCall.aggregates calls = [(place, stages)]
  refused : ∀ fault, dry = .error fault →
    live = .error fault ∧ ServerCall.aggregates calls = []

theorem previews_carryOut {s : σ} (h : Reaches server env s) (L : Library) (stamp : σ → String)
    (limit : Value) (search : DemoSearch) (defaults : Defaults) (journal : Journal) :
    Previews search.place
      ((carryOut L server stamp env ⟨search, limit, true⟩).run (defaults, journal, s)).1
      ((carryOut L server stamp env ⟨search, limit, false⟩).run (defaults, journal, s)).1
      (calls (carryOut L server.recorded (stamp ∘ Prod.snd) env ⟨search, limit, false⟩)
        (defaults, journal, s)) := by
  obtain ⟨after, dry⟩ := run_dry L server stamp env limit search defaults journal s
  obtain ⟨outcome, d, j, asked, s', live, sent, failing⟩ :=
    run_reached h L stamp limit search defaults journal
  have mirrors : Mirrors (carryOut L server stamp env ⟨search, limit, false⟩) _ :=
    Mirrors.carryOut env ⟨search, limit, false⟩
  obtain ⟨plain, d', j', s'', more, run, twin⟩ := mirrors defaults journal s
  have same : plain = outcome := congrArg Prod.fst ((twin []).symm.trans live)
  have recorded : calls
      (carryOut L server.recorded (stamp ∘ Prod.snd) env ⟨search, limit, false⟩)
      (defaults, journal, s) = asked := congrArg (fun r => r.2.2.2.1) live
  rw [dry, run, same, recorded]
  cases hp : DemoPlan.pipeline L env limit search defaults with
  | error fault =>
    rw [hp] at sent
    constructor
    · intro report hr
      cases hr
    · intro other ho
      cases ho
      exact ⟨failing fault hp, sent⟩
  | ok stages =>
    rw [hp] at sent
    constructor
    · intro report hr
      cases hr
      exact ⟨rfl, stages, rfl, sent⟩
    · intro fault hf
      cases hf

/-! ## The command line -/

open CommandLine

theorem flag_dryRun : Flag program.options dryRunOption "--dry-run" where
  role := rfl
  kind := rfl
  word := by decide

theorem valueOf_cons (given : Given) (entry : String × Value) {option : OptionSpec}
    (h : option.key ≠ entry.1) (default : Value) :
    valueOf (entry :: given) option default = valueOf given option default := by
  have other : [entry].lookup option.key = none := by
    rw [List.lookup_eq_none_iff]
    simpa using h
  unfold valueOf Given.get?
  rw [List.reverse_cons, List.lookup_append, other, Option.or_none]

/-- The flag in front of the words of a search asks for the dry run of that search. -/
theorem ofWords_dryRun (words : List String) : ofWords ("--dry-run" :: words)
    = (ofWords words).map (Option.map fun request => { request with dryRun := true }) := by
  unfold ofWords
  rw [program.parse_flag flag_dryRun (by decide) words]
  rcases program.parse words with stop | ⟨given, command⟩
  · rfl
  have other : limitOption.key ≠ dryRunOption.key := by decide
  have limit := valueOf_cons given (dryRunOption.key, .bool true) other defaultLimit
  rcases command with _ | ⟨name, of⟩
  · rfl
  · simp only [Except.map, bind, Except.bind, pure, Except.pure, Option.bind_some, limit]
    cases searchOf name of with
    | none => rfl
    | some search => rfl

theorem runWords_eq_carryOut {words : List String} {request : DemoRequest}
    (h : ofWords words = .ok (some request)) (server : SearchServer σ) (stamp : σ → String)
    (env : Environment) :
    runWords L server stamp env words = carryOut L server stamp env request := by
  rw [runWords, h]

/-- A dry run shows what a run sends, for every search and limit and for every command line. -/
theorem dry_run_shows_what_is_sent {s : σ} (h : Reaches server env s) (L : Library)
    (stamp : σ → String) (defaults : Defaults) (journal : Journal) :
    (∀ search limit, Previews search.place
      ((carryOut L server stamp env ⟨search, limit, true⟩).run (defaults, journal, s)).1
      ((carryOut L server stamp env ⟨search, limit, false⟩).run (defaults, journal, s)).1
      (calls (carryOut L server.recorded (stamp ∘ Prod.snd) env ⟨search, limit, false⟩)
        (defaults, journal, s))) ∧
    ∀ words request, ofWords words = .ok (some request) → request.dryRun = false →
      Previews request.search.place
        ((runWords L server stamp env ("--dry-run" :: words)).run (defaults, journal, s)).1
        ((runWords L server stamp env words).run (defaults, journal, s)).1
        (calls (runWords L server.recorded (stamp ∘ Prod.snd) env words)
          (defaults, journal, s)) := by
  constructor
  · intro search limit
    exact previews_carryOut h L stamp limit search defaults journal
  · intro words request hw hr
    obtain ⟨search, limit, dryRun⟩ := request
    cases hr
    have hdry : ofWords ("--dry-run" :: words) = .ok (some ⟨search, limit, true⟩) := by
      rw [ofWords_dryRun, hw]
      rfl
    rw [runWords_eq_carryOut hdry, runWords_eq_carryOut hw, runWords_eq_carryOut hw]
    exact previews_carryOut h L stamp limit search defaults journal

/-- A server that answers and holds nothing. -/
def answering : SearchServer Unit where
  connect _ := pure ()
  ping := pure ()
  aggregate _ _ := pure []
  close := id

/-- An environment in which a server has an address, and nothing else is set. -/
def addressed : Environment := [(connectionVariable, "mongodb://localhost")]

theorem reaches_answering : Reaches answering addressed () where
  address := by decide
  answered _ _ _ _ := rfl

/-- The beginning of a title is shown and sent; with a limit of zero nothing is. -/
theorem answering_gets_what_is_shown :
    (∃ report, ∃ stages : List Document,
      ((runWords .lenient answering (fun _ => "") addressed
        ["--dry-run", "autocomplete", "matr"]).run (DemoPlan.defaults, ⟨true, [], 0⟩, ())).1
          = .ok report ∧
      report.printed = [.list (stages.map .object)] ∧
      ServerCall.aggregates (calls (runWords .lenient answering.recorded (fun _ => "") addressed
        ["autocomplete", "matr"]) (DemoPlan.defaults, ⟨true, [], 0⟩, ()))
          = [(⟨"sample_mflix", "movies"⟩, stages)]) ∧
    ServerCall.aggregates (calls (carryOut .lenient answering.recorded (fun _ => "") addressed
      ⟨.autocomplete "matr", .int 0, false⟩) (DemoPlan.defaults, ⟨true, [], 0⟩, ())) = [] := by
  obtain ⟨searches, commands⟩ := dry_run_shows_what_is_sent reaches_answering .lenient
    (fun _ => "") DemoPlan.defaults ⟨true, [], 0⟩
  obtain ⟨-, stages, printed, sent⟩ := (commands ["autocomplete", "matr"] _ rfl rfl).shown _ rfl
  have refused := (searches (.autocomplete "matr") (.int 0)).refused _ rfl
  exact ⟨⟨_, stages, rfl, printed, sent⟩, refused.2⟩

end DemoRequest
end DocSearch
