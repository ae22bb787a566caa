import DocSearch.Search.Searcher

/-! # Sessions

A session is a sequence of calls of one searcher. Which pipelines it sends is settled by the calls
and by the defaults; what an executor answers has no part in it. An executor can be made to take a
note of each pipeline before running it. Its sessions end as they would without the notes, and the
notes follow from what is sent and from the state in which it is. -/

namespace DocSearch

/-- Results that are the documents themselves. -/
def ResultType.undecoded (name : String) : ResultType Datum := ⟨⟨name, name⟩, .ok⟩

/-- The executor that takes a note of each pipeline before it runs it. -/
def Executor.noting {ν σ ρ : Type} (inner : Executor σ ρ)
    (note : ν → σ → List Document → ResultType ρ → ν) : Executor (ν × σ) ρ where
  run stages type := do
    Action.modify fun (notes, state) => (note notes state stages type, state)
    (inner.run stages type).onSecond

/-- The executor that keeps the pipelines it was given. -/
def Executor.recorded {σ ρ : Type} (inner : Executor σ ρ) :
    Executor (List (List Document) × σ) ρ :=
  inner.noting fun sent _ stages _ => sent ++ [stages]

/-- The collection that keeps the pipelines it was given. -/
def Collection.recorded {σ : Type} (collection : Collection σ) :
    Collection (List (List Document) × σ) where
  aggregate stages := do
    Action.modify fun (sent, state) => (sent ++ [stages], state)
    (collection.aggregate stages).onSecond

def SearchCall.request : SearchCall → SearchRequest
  | .build request | .search _ request => request

namespace Searcher

variable {ν σ ρ : Type}

/-- The answers of calls one after the other, and the state after them. -/
def session (c : Searcher ρ) (executor : Executor σ ρ) :
    List SearchCall → Defaults × σ → List (Except Fault (SearchAnswer ρ)) × Defaults × σ
  | [], state => ([], state)
  | call :: calls, state =>
    let (answer, state) := (c.call executor call).run state
    let (answers, state) := c.session executor calls state
    (answer :: answers, state)

/-- The pipeline that a call sends. Only a search sends one, if it can be built. -/
def sends (c : Searcher ρ) (defaults : Defaults) : SearchCall → Option (List Document)
  | .build _ => none
  | .search _ request => (c.stages request defaults).1.toOption

/-- The pipelines that calls send. -/
def pipelines (c : Searcher ρ) : List SearchCall → Defaults → List (List Document)
  | [], _ => []
  | call :: calls, defaults =>
    (c.sends defaults call).toList ++ c.pipelines calls (c.stages call.request defaults).2

/-- The pipelines that calls send, each with the state of the executor that it reaches. -/
def sendings (c : Searcher ρ) (executor : Executor σ ρ) :
    List SearchCall → Defaults × σ → List (σ × List Document)
  | [], _ => []
  | call :: calls, state =>
    ((c.sends state.1 call).map fun stages => (state.2, stages)).toList
      ++ c.sendings executor calls ((c.call executor call).run state).2

/-! ## One call -/

/-- No method does more than that for any clause. -/
theorem search_eq_execute (c : Searcher ρ) (executor : Executor σ ρ) (method : SearchMethod)
    (request : SearchRequest) : c.search executor request method = c.execute executor request := by
  cases method <;> rfl

/-- A search builds its pipeline and has it run. -/
theorem run_search (c : Searcher ρ) (executor : Executor σ ρ) (method : SearchMethod)
    (request : SearchRequest) (defaults : Defaults) (s : σ) :
    (c.search executor request method).run (defaults, s) =
      match c.stages request defaults with
      | (.error fault, after) => (.error fault, after, s)
      | (.ok stages, after) => (((executor.run stages c.type).run s).1, after,
          ((executor.run stages c.type).run s).2) := by
  rw [search_eq_execute]
  rcases hs : c.stages request defaults with ⟨built, after⟩
  cases built with
  | error fault =>
    refine Action.run_bind_of_error ?_ _
    show ((c.stages request defaults).1, (c.stages request defaults).2, s) = _
    rw [hs]
  | ok stages =>
    refine (@Action.run_bind_of_ok _ _ _ _ _ (after, s) stages ?_ _).trans rfl
    show ((c.stages request defaults).1, (c.stages request defaults).2, s) = _
    rw [hs]

theorem run_execute_of_error (c : Searcher ρ) {executor : Executor σ ρ} {request : SearchRequest}
    {defaults after : Defaults} {fault : Fault}
    (h : c.stages request defaults = (.error fault, after)) (s : σ) :
    (c.execute executor request).run (defaults, s) = (.error fault, after, s) := by
  have run := c.run_search executor .execute request defaults s
  rw [h] at run
  exact run

theorem run_execute_of_ok (c : Searcher ρ) {executor : Executor σ ρ} {request : SearchRequest}
    {defaults after : Defaults} {stages : List Document}
    (h : c.stages request defaults = (.ok stages, after)) (s : σ) :
    (c.execute executor request).run (defaults, s)
      = (((executor.run stages c.type).run s).1, after, ((executor.run stages c.type).run s).2) := by
  have run := c.run_search executor .execute request defaults s
  rw [h] at run
  exact run

theorem run_call_search (c : Searcher ρ) (executor : Executor σ ρ) (method : SearchMethod)
    (request : SearchRequest) (state : Defaults × σ) :
    (c.call executor (.search method request)).run state
      = (((c.search executor request method).run state).1.map .results,
          ((c.search executor request method).run state).2) := by
  rcases h : (c.search executor request method).run state with ⟨found, after⟩
  cases found with
  | error fault => exact Action.run_bind_of_error h _
  | ok records => exact Action.run_bind_of_ok h _

/-- A call leaves the defaults as building its pipeline does. -/
theorem defaults_call (c : Searcher ρ) (executor : Executor σ ρ) (call : SearchCall)
    (state : Defaults × σ) :
    ((c.call executor call).run state).2.1 = (c.stages call.request state.1).2 := by
  cases call with
  | build request => rfl
  | search method request =>
    rw [run_call_search, run_search]
    show _ = (c.stages request state.1).2
    rcases c.stages request state.1 with ⟨built, after⟩
    cases built <;> rfl

/-- Taking notes changes neither what a call answers nor what it leaves behind. -/
theorem run_call_noting (c : Searcher ρ) (inner : Executor σ ρ)
    (note : ν → σ → List Document → ResultType ρ → ν) (call : SearchCall) (defaults : Defaults)
    (notes : ν) (s : σ) :
    (c.call (inner.noting note) call).run (defaults, notes, s) =
      (((c.call inner call).run (defaults, s)).1, ((c.call inner call).run (defaults, s)).2.1,
        (c.sends defaults call).elim notes fun stages => note notes s stages c.type,
        ((c.call inner call).run (defaults, s)).2.2) := by
  cases call with
  | build request => rfl
  | search method request =>
    rw [run_call_search, run_call_search, run_search, run_search, sends]
    rcases c.stages request defaults with ⟨built, after⟩
    cases built <;> rfl

/-! ## Whole sessions -/

theorem session_cons (c : Searcher ρ) (executor : Executor σ ρ) (call : SearchCall)
    (calls : List SearchCall) (state : Defaults × σ) :
    c.session executor (call :: calls) state =
      (((c.call executor call).run state).1 ::
          (c.session executor calls ((c.call executor call).run state).2).1,
        (c.session executor calls ((c.call executor call).run state).2).2) := rfl

/-- What is sent does not depend on the executor. -/
theorem map_snd_sendings (c : Searcher ρ) (executor : Executor σ ρ) (calls : List SearchCall)
    (state : Defaults × σ) :
    (c.sendings executor calls state).map Prod.snd = c.pipelines calls state.1 := by
  induction calls generalizing state with
  | nil => rfl
  | cons call calls ih =>
    rw [sendings, pipelines, List.map_append, ih, defaults_call]
    cases c.sends state.1 call <;> rfl

/-- A session on an executor that takes notes is the session without them. The notes are taken of
what is sent, in order. -/
theorem session_noting (c : Searcher ρ) (inner : Executor σ ρ)
    (note : ν → σ → List Document → ResultType ρ → ν) (calls : List SearchCall) (defaults : Defaults)
    (notes : ν) (s : σ) :
    c.session (inner.noting note) calls (defaults, notes, s) =
      ((c.session inner calls (defaults, s)).1, (c.session inner calls (defaults, s)).2.1,
        (c.sendings inner calls (defaults, s)).foldl (fun notes sent => note notes sent.1 sent.2 c.type) notes,
        (c.session inner calls (defaults, s)).2.2) := by
  induction calls generalizing defaults notes s with
  | nil => rfl
  | cons call calls ih =>
    rw [session_cons, session_cons, run_call_noting, sendings, List.foldl_append]
    dsimp only
    rw [ih]
    cases c.sends defaults call <;> rfl

/-- The pipelines that an executor is given are those that the calls send, each once. -/
theorem session_recorded (c : Searcher ρ) (inner : Executor σ ρ) (calls : List SearchCall)
    (defaults : Defaults) (sent : List (List Document)) (s : σ) :
    c.session inner.recorded calls (defaults, sent, s) =
      ((c.session inner calls (defaults, s)).1, (c.session inner calls (defaults, s)).2.1,
        sent ++ c.pipelines calls defaults, (c.session inner calls (defaults, s)).2.2) := by
  have gather : ∀ (sendings : List (σ × List Document)) (sent : List (List Document)),
      sendings.foldl (fun sent sending => sent ++ [sending.2]) sent
        = sent ++ sendings.map Prod.snd := by
    intro sendings
    induction sendings with
    | nil => simp
    | cons sending sendings ih => simp [ih]
  rw [Executor.recorded, session_noting, gather, map_snd_sendings]

end Searcher

namespace Collection

variable {σ ρ : Type} {collection : Collection σ} {stages : List Document} {s after : σ}

theorem run_executor_of_ok {documents : List Datum} (type : ResultType ρ)
    (h : (collection.aggregate stages).run s = (.ok documents, after)) :
    (collection.executor.run stages type).run s = (decodeAll type documents, after) :=
  Action.run_bind_of_ok h _

theorem run_executor_of_error {fault : Fault} (type : ResultType ρ)
    (h : (collection.aggregate stages).run s = (.error fault, after)) :
    (collection.executor.run stages type).run s = (.error fault, after) :=
  Action.run_bind_of_error h _

theorem run_executor (collection : Collection σ) (stages : List Document) (type : ResultType ρ)
    (s : σ) : (collection.executor.run stages type).run s
      = (((collection.aggregate stages).run s).1 >>= decodeAll type,
          ((collection.aggregate stages).run s).2) := by
  rcases h : (collection.aggregate stages).run s with ⟨answer, after⟩
  cases answer with
  | error fault => exact run_executor_of_error type h
  | ok documents => exact run_executor_of_ok type h

theorem run_recorded (collection : Collection σ) (sent : List (List Document))
    (stages : List Document) (s : σ) : (collection.recorded.aggregate stages).run (sent, s)
      = (((collection.aggregate stages).run s).1, sent ++ [stages],
          ((collection.aggregate stages).run s).2) := rfl

/-- An executor hands on to its collection what it is given. -/
theorem executor_recorded (collection : Collection σ) :
    collection.recorded.executor (ρ := ρ) = collection.executor.recorded := by
  refine congrArg Executor.mk (funext fun stages => funext fun type => funext fun state => ?_)
  obtain ⟨sent, s⟩ := state
  have recorded := run_recorded collection sent stages s
  have noted : (collection.executor.recorded.run stages type).run (sent, s)
      = (((collection.executor.run stages type).run s).1, sent ++ [stages],
          ((collection.executor.run stages type).run s).2) := rfl
  rcases h : (collection.aggregate stages).run s with ⟨answer, after⟩
  rw [h] at recorded
  cases answer with
  | error fault =>
    rw [run_executor_of_error type h] at noted
    exact (run_executor_of_error type recorded).trans noted.symm
  | ok documents =>
    rw [run_executor_of_ok type h] at noted
    exact (run_executor_of_ok type recorded).trans noted.symm

end Collection
end DocSearch
