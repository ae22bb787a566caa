import DocSearch.Proofs.Defaults.Standing
import DocSearch.Proofs.Search.Sessions

/-! # What comes of the calls of a searcher

A call can end in five ways: it builds a pipeline and sends none; it cannot build one; the
collection fails; a document holds no result; or there are results. `Served` has a constructor for
each, with what the call answers and leaves behind and what the collection gets to see. The defaults
remember the answer for the searcher's own kind and change in no other way. -/

namespace DocSearch

variable {σ ρ : Type}

/-! ## Documents and results -/

/-- Results stand in the order of the documents they are decoded from, one for each. -/
theorem decodeAll_eq_ok {type : ResultType ρ} {documents : List Datum} {records : List ρ}
    (h : decodeAll type documents = .ok records) :
    documents.map type.decode = records.map .ok := by
  induction documents generalizing records with
  | nil =>
    cases h
    rfl
  | cons d documents ih =>
    unfold decodeAll at h
    split at h
    · cases h
    · next record hd =>
      obtain ⟨others, hothers, rfl⟩ := Outcome.map_eq_ok h
      rw [List.map_cons, List.map_cons, hd, ih hothers]

/-- A fault of decoding is that of the first document that holds no result. -/
theorem decodeAll_eq_error {type : ResultType ρ} {documents : List Datum} {fault : Fault}
    (h : decodeAll type documents = .error fault) :
    ∃ (front : List Datum) (bad : Datum) (back : List Datum) (records : List ρ),
      documents = front ++ bad :: back ∧ front.map type.decode = records.map .ok ∧
        type.decode bad = .error fault := by
  induction documents with
  | nil => cases h
  | cons d documents ih =>
    unfold decodeAll at h
    split at h
    · next first hd =>
      cases h
      exact ⟨[], d, documents, [], rfl, rfl, hd⟩
    · next record hd =>
      obtain ⟨front, bad, back, records, rfl, hfront, hbad⟩ := ih (Outcome.map_eq_error h)
      refine ⟨d :: front, bad, back, record :: records, rfl, ?_, hbad⟩
      rw [List.map_cons, List.map_cons, hd, hfront]

/-! ## One call -/

namespace Searcher

/-- How one call ends, from defaults and a state of the collection: what it answers, the defaults
and the state after it, and the pipelines that the collection was given. -/
inductive Served (c : Searcher ρ) (collection : Collection σ) (d : Defaults) (s : σ) :
    SearchCall → Except Fault (SearchAnswer ρ) → Defaults → σ → List (List Document) → Prop
  | built {request : SearchRequest} {outcome : Except Fault (List Document)} {d' : Defaults}
      (build : c.stages request d = (outcome, d')) :
      Served c collection d s (.build request) (outcome.map .stages) d' s []
  | unbuilt {method : SearchMethod} {request : SearchRequest} {fault : Fault} {d' : Defaults}
      (build : c.stages request d = (.error fault, d')) :
      Served c collection d s (.search method request) (.error fault) d' s []
  | refused {method : SearchMethod} {request : SearchRequest} {stages : List Document}
      {fault : Fault} {d' : Defaults} {s' : σ} (build : c.stages request d = (.ok stages, d'))
      (aggregate : (collection.aggregate stages).run s = (.error fault, s')) :
      Served c collection d s (.search method request) (.error fault) d' s' [stages]
  | undecodable {method : SearchMethod} {request : SearchRequest} {stages : List Document}
      {front back : List Datum} {bad : Datum} {records : List ρ} {fault : Fault} {d' : Defaults}
      {s' : σ} (build : c.stages request d = (.ok stages, d'))
      (aggregate : (collection.aggregate stages).run s = (.ok (front ++ bad :: back), s'))
      (decodable : front.map c.type.decode = records.map .ok)
      (first : c.type.decode bad = .error fault) :
      Served c collection d s (.search method request) (.error fault) d' s' [stages]
  | found {method : SearchMethod} {request : SearchRequest} {stages : List Document}
      {documents : List Datum} {records : List ρ} {d' : Defaults} {s' : σ}
      (build : c.stages request d = (.ok stages, d'))
      (aggregate : (collection.aggregate stages).run s = (.ok documents, s'))
      (decoded : documents.map c.type.decode = records.map .ok) :
      Served c collection d s (.search method request) (.ok (.results records)) d' s' [stages]

theorem served_call (c : Searcher ρ) (collection : Collection σ) (call : SearchCall) (d : Defaults)
    (s : σ) :
    Served c collection d s call ((c.call collection.executor call).run (d, s)).1
      ((c.call collection.executor call).run (d, s)).2.1
      ((c.call collection.executor call).run (d, s)).2.2 (c.sends d call).toList := by
  cases call with
  | build request => exact .built rfl
  | search method request =>
    rw [run_call_search, run_search, sends]
    rcases build : c.stages request d with ⟨outcome, d'⟩
    cases outcome with
    | error fault => exact .unbuilt build
    | ok stages =>
      dsimp only
      rcases aggregate : (collection.aggregate stages).run s with ⟨answer, s'⟩
      cases answer with
      | error fault =>
        rw [Collection.run_executor_of_error c.type aggregate]
        exact .refused build aggregate
      | ok documents =>
        rw [Collection.run_executor_of_ok c.type aggregate]
        cases decoding : decodeAll c.type documents with
        | ok records => exact .found build aggregate (decodeAll_eq_ok decoding)
        | error fault =>
          obtain ⟨front, bad, back, records, rfl, decodable, first⟩ := decodeAll_eq_error decoding
          exact .undecodable build aggregate decodable first

end Searcher

/-! ## The defaults -/

namespace Defaults

/-- What a call leaves of the defaults: the answer for one kind may be kept, which takes a call of
that kind's factory if it has one, and nothing else changes. A projection that is given leaves all
as it is. -/
structure Remembers (key : ResultKey) (projection : Argument) (before after : Defaults) :
    Prop where
  given : projection ≠ .null → after = before
  registrations : after.registrations = before.registrations ∨
    before.kept? key = none ∧ after.registrations = (before.countCall key).registrations
  resolved : after.resolved = before.resolved ∨ before.kept? key = none ∧
    ∃ spec, (before.resolve key).1 = .ok spec ∧ after.resolved = before.resolved ++ [(key, spec)]

variable {r : Defaults} {key : ResultKey}

theorem ask_snd : (r.ask key).2 = r ∨ (r.ask key).2 = r.countCall key := by
  unfold ask
  split
  · exact .inl rfl
  · exact .inl rfl
  · exact .inr rfl

theorem remembers_refl {projection : Argument} : Remembers key projection r r where
  given _ := rfl
  registrations := .inl rfl
  resolved := .inl rfl

theorem remembers_resolve : Remembers key .null r (r.resolve key).2 := by
  cases h : r.kept? key with
  | some spec =>
    rw [resolve_of_kept h]
    exact remembers_refl
  | none =>
    have registrations : (r.ask key).2.registrations = r.registrations ∨
        (r.ask key).2.registrations = (r.countCall key).registrations :=
      ask_snd.imp (congrArg _) (congrArg _)
    have resolved : (r.ask key).2.resolved = r.resolved := by
      rcases ask_snd (r := r) with ha | ha <;> rw [ha]
      rfl
    cases ha : (r.ask key).1 with
    | error f =>
      rw [resolve_of_error h ha]
      exact ⟨fun hp => absurd rfl hp, registrations.imp_right fun hr => ⟨h, hr⟩, .inl resolved⟩
    | ok spec =>
      have kept := resolve_of_ok h ha
      refine ⟨fun hp => absurd rfl hp, ?_, .inr ⟨h, spec, ?_, ?_⟩⟩
      · rw [kept]
        exact registrations.imp_right fun hr => ⟨h, hr⟩
      · rw [kept]
      · rw [kept, resolved]

theorem remembers_projectionFor (projection : Argument) :
    Remembers key projection r (r.projectionFor key projection).2 := by
  rw [projectionFor_snd]
  split
  · next h =>
    have hnull : projection = .null := by
      cases projection <;> first | rfl | cases h
    rw [hnull]
    exact remembers_resolve
  · exact remembers_refl

end Defaults

namespace Searcher

variable {c : Searcher ρ} {collection : Collection σ}

theorem stages_snd (c : Searcher ρ) (request : SearchRequest) (d : Defaults) :
    (c.stages request d).2 = (d.projectionFor c.type.key request.projection).2 := by
  unfold stages
  rcases d.projectionFor c.type.key request.projection with ⟨document, d'⟩
  cases document <;> rfl

theorem remembers_call (c : Searcher ρ) (executor : Executor σ ρ) (call : SearchCall) (d : Defaults)
    (s : σ) : d.Remembers c.type.key call.request.projection
      ((c.call executor call).run (d, s)).2.1 := by
  rw [defaults_call, stages_snd]
  exact Defaults.remembers_projectionFor _

/-! ## Sequences of calls -/

/-- How calls end one after the other: their answers, what they leave behind, and all the pipelines
that the collection was given. -/
inductive Serves (c : Searcher ρ) (collection : Collection σ) : Defaults → σ → List SearchCall →
    List (Except Fault (SearchAnswer ρ)) → Defaults → σ → List (List Document) → Prop
  | nil {d : Defaults} {s : σ} : Serves c collection d s [] [] d s []
  | cons {d d' d'' : Defaults} {s s' s'' : σ} {call : SearchCall} {calls : List SearchCall}
      {answer : Except Fault (SearchAnswer ρ)} {answers : List (Except Fault (SearchAnswer ρ))}
      {sent more : List (List Document)} (head : Served c collection d s call answer d' s' sent)
      (remembers : d.Remembers c.type.key call.request.projection d')
      (tail : Serves c collection d' s' calls answers d'' s'' more) :
      Serves c collection d s (call :: calls) (answer :: answers) d'' s'' (sent ++ more)

theorem serves_session (c : Searcher ρ) (collection : Collection σ) (calls : List SearchCall)
    (d : Defaults) (s : σ) :
    Serves c collection d s calls (c.session collection.executor calls (d, s)).1
      (c.session collection.executor calls (d, s)).2.1
      (c.session collection.executor calls (d, s)).2.2 (c.pipelines calls d) := by
  induction calls generalizing d s with
  | nil => exact .nil
  | cons call calls ih =>
    rw [session_cons, pipelines, ← defaults_call c collection.executor call (d, s)]
    exact .cons (served_call c collection call d s) (remembers_call c _ call d s) (ih _ _)

/-- The call with the method that takes any clause. -/
def plain : SearchCall → SearchCall
  | .build request => .build request
  | .search _ request => .search .execute request

theorem call_plain (c : Searcher ρ) (executor : Executor σ ρ) (call : SearchCall) :
    c.call executor (plain call) = c.call executor call := by
  cases call with
  | build request => rfl
  | search method request =>
    show (c.search executor request .execute >>= _) = (c.search executor request method >>= _)
    rw [search_eq_execute, search_eq_execute]

theorem session_plain (c : Searcher ρ) (executor : Executor σ ρ) (calls : List SearchCall)
    (state : Defaults × σ) :
    c.session executor (calls.map plain) state = c.session executor calls state := by
  induction calls generalizing state with
  | nil => rfl
  | cons call calls ih => rw [List.map_cons, session_cons, session_cons, call_plain, ih]

/-- Every session ends as its calls do one by one, the collection is given what they send and no
more, and no method but that for any clause is needed. -/
theorem session_serves (c : Searcher ρ) (collection : Collection σ) (calls : List SearchCall)
    (d : Defaults) (s : σ) (sent : List (List Document)) :
    ∃ answers d' s' more,
      Serves c collection d s calls answers d' s' more ∧
      c.session collection.executor calls (d, s) = (answers, d', s') ∧
      c.session collection.recorded.executor calls (d, sent, s) = (answers, d', sent ++ more, s') ∧
      c.session collection.recorded.executor (calls.map plain) (d, sent, s)
        = (answers, d', sent ++ more, s') := by
  have recorded := session_recorded c collection.executor calls d sent s
  rw [← Collection.executor_recorded] at recorded
  refine ⟨_, _, _, _, serves_session c collection calls d s, rfl, recorded, ?_⟩
  rw [session_plain, recorded]

end Searcher
end DocSearch
