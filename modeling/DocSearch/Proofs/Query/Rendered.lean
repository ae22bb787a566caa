import DocSearch.Argument.Compound
import DocSearch.Proofs.Outcome
import DocSearch.Proofs.Query.Grammar

/-! # Rendered clauses lie in the grammar

Every part of a leaf is shown to render to a value that its field admits; the entries of a body then
fill the fields of the leaf's form. A compound builder keeps documents of the grammar only, whatever
is added to it, itself included and failing calls included, so what it renders to is one of them. -/

namespace DocSearch

open Grammar Outcome

/-! ## Parts of a leaf -/

theorem Terms.texts_render (t : Terms) : Texts t.render := by
  cases t with
  | single text => exact .single text
  | many first rest => exact .many first rest

theorem fills_unlessDefault (key : String) (n : Number) (default : Int) :
    Fills [optional key (Unlike default)] (unlessDefault key n default) := by
  unfold unlessDefault
  split
  · exact .absent
  · rename_i h
    exact .present ⟨n, rfl, by simpa using h⟩

theorem FuzzyOptions.holding_render (o : FuzzyOptions) : Holding fuzzyFields o.render :=
  ⟨_, rfl, ((fills_unlessDefault ..).append (fills_unlessDefault ..)).append
    (fills_unlessDefault ..)⟩

theorem BoostScore.boost_render {b : BoostScore} {v : Value} (h : b.render = .ok v) : Boost v := by
  unfold BoostScore.render at h
  split at h
  · cases h
  · obtain ⟨factor, _, rfl⟩ := map_eq_ok h
    exact .value factor
  · rename_i field _
    split at h
    · cases h
      exact .path field.terms.texts_render
    · obtain ⟨fallback, _, rfl⟩ := map_eq_ok h
      exact .pathOr fallback field.terms.texts_render

theorem Rescaling.score_render {r : Rescaling} {v : Value} (h : r.render = .ok v)
    (adjustable : Bool) : Score adjustable (.object [(r.key, v)]) := by
  cases r with
  | boost b => exact .boost (BoostScore.boost_render h)
  | constant value =>
    obtain ⟨value, _, rfl⟩ := map_eq_ok h
    exact .constant value

theorem Adjustment.score_render {a : Adjustment} {v : Value} (h : a.render = .ok v) :
    Score true (.object [(a.key, v)]) := by
  cases a with
  | rescaling r => exact Rescaling.score_render h true
  | function expression =>
    obtain ⟨d, _, rfl⟩ := map_eq_ok h
    exact .function d

theorem ScoreOf.renderWith_eq_ok {σ : Type} {key : σ → String} {render : σ → Except Fault Value}
    {o : ScoreOf σ} {v : Value} (h : o.renderWith key render = .ok v) :
    ∃ s body, o.strategy = some s ∧ render s = .ok body ∧ v = .object [(key s, body)] := by
  unfold ScoreOf.renderWith at h
  split at h
  · cases h
  · rename_i s hs
    obtain ⟨body, hb, rfl⟩ := map_eq_ok h
    exact ⟨s, body, hs, hb, rfl⟩

theorem AdjustmentOptions.score_render {o : AdjustmentOptions} {v : Value}
    (h : AdjustmentOptions.render o = .ok v) : Score true v := by
  obtain ⟨s, body, _, hb, rfl⟩ := ScoreOf.renderWith_eq_ok h
  exact s.score_render hb

theorem RescalingOptions.score_render {o : RescalingOptions} {v : Value}
    (h : RescalingOptions.render o = .ok v) : Score false v := by
  obtain ⟨s, body, _, hb, rfl⟩ := ScoreOf.renderWith_eq_ok h
  exact s.score_render hb false

theorem Point.position_render {p : Point} {v : Value} (h : p.render = .ok v) : Position v := by
  obtain ⟨coordinates, hc, rfl⟩ := map_eq_ok h
  obtain ⟨both, hb, rfl⟩ := map_eq_ok hc
  obtain ⟨longitude, _, hb⟩ := bind_eq_ok hb
  obtain ⟨others, ho, hb⟩ := bind_eq_ok hb
  obtain ⟨latitude, _, ho⟩ := bind_eq_ok ho
  cases ho
  cases hb
  exact ⟨longitude, latitude, rfl⟩

theorem coordinatesOfAll_eq_ok {α : Type} {coordinates : α → Except Fault Value} {parts : List α}
    {v : Value} (h : coordinatesOfAll coordinates parts = .ok v) : ∃ items, v = .list items := by
  obtain ⟨items, _, rfl⟩ := map_eq_ok h
  exact ⟨items, rfl⟩

/-- The way in which a shape is written. -/
def Shape.region : Shape → RegionKey
  | .circle _ => .circle
  | .box _ => .box
  | .polygon _ | .multiPolygon _ => .geometry

theorem Shape.key_region (s : Shape) : s.region.key = s.key := by cases s <;> rfl

theorem Shape.region_render {s : Shape} {v : Value} (h : s.render = .ok v) : Region s.region v := by
  cases s with
  | circle c =>
    obtain ⟨center, hc, h⟩ := bind_eq_ok h
    cases h
    exact .circle c.radius (Point.position_render hc)
  | box b =>
    obtain ⟨bottomLeft, hb, h⟩ := bind_eq_ok h
    obtain ⟨topRight, ht, h⟩ := bind_eq_ok h
    cases h
    exact .box (Point.position_render hb) (Point.position_render ht)
  | polygon p =>
    obtain ⟨coordinates, hc, rfl⟩ := map_eq_ok h
    obtain ⟨rings, rfl⟩ := coordinatesOfAll_eq_ok hc
    exact .polygon rings
  | multiPolygon m =>
    obtain ⟨coordinates, hc, rfl⟩ := map_eq_ok h
    obtain ⟨polygons, rfl⟩ := coordinatesOfAll_eq_ok hc
    exact .multiPolygon polygons

/-! ## Leaves -/

namespace LeafClause

/-- What a clause holds in its slot for fuzzy options. -/
def fuzzy? : LeafClause → Option Datum
  | .text c => c.matching.bind Matching.options?
  | .autocomplete c => c.fuzzy
  | .phrase _ | .geoWithin _ => none

/-- Whether a score is given. -/
def isScored (c : LeafClause) : Bool := c.renderScore.isSome

/-- The form that the body of a clause has. -/
def form : LeafClause → LeafForm
  | .text c =>
    .text (match c.matching with
      | none => .exact
      | some (.fuzzy _) => .fuzzy
      | some (.synonyms _) => .synonyms)
  | .phrase _ => .phrase
  | .autocomplete _ => .autocomplete
  | .geoWithin c => .geoWithin c.shape.region

theorem operator_form (c : LeafClause) : c.form.operator = c.operator := by cases c <;> rfl

theorem queryFields_form (c : LeafClause) : c.form.queryFields ≠ [] ↔ c.query?.isSome = true := by
  cases c <;> simp [form, LeafForm.queryFields, query?]

theorem fills_query (c : LeafClause) :
    Fills c.form.queryFields (c.query?.map fun query => ("query", query.render)).toList := by
  cases c with
  | text c => exact .single c.query.terms.texts_render
  | phrase c => exact .single c.query.terms.texts_render
  | autocomplete c => exact .single c.query.terms.texts_render
  | geoWithin c => exact .nil

theorem score_renderScore {c : LeafClause} {v : Value} (h : c.renderScore = some (.ok v)) :
    Score c.form.adjustable v := by
  cases c with
  | text c =>
    obtain ⟨o, _, ho⟩ := Option.map_eq_some_iff.mp h
    exact AdjustmentOptions.score_render ho
  | phrase c =>
    obtain ⟨o, _, ho⟩ := Option.map_eq_some_iff.mp h
    exact AdjustmentOptions.score_render ho
  | autocomplete c =>
    obtain ⟨o, _, ho⟩ := Option.map_eq_some_iff.mp h
    exact RescalingOptions.score_render ho
  | geoWithin c =>
    obtain ⟨o, _, ho⟩ := Option.map_eq_some_iff.mp h
    exact AdjustmentOptions.score_render ho

theorem fills_score {c : LeafClause} {d : Document} (h : entryOf "score" c.renderScore = .ok d) :
    Fills (c.form.scoreFields c.isScored) d := by
  unfold isScored
  cases hs : c.renderScore with
  | none =>
    rw [hs] at h
    cases h
    exact .nil
  | some rendered =>
    rw [hs] at h
    obtain ⟨v, rfl, rfl⟩ := map_eq_ok h
    exact .single (score_renderScore hs)

theorem fills_tokenOrder (order : TokenOrder) :
    Fills [optional "tokenOrder" fun v => v = .str "sequential"]
      (if order = .any then [] else [("tokenOrder", .str order.name)]) := by
  cases order with
  | any => exact .absent
  | sequential => exact .present rfl

theorem fills_settings {c : LeafClause} {d : Document}
    (hf : ∀ slot ∈ c.fuzzy?, ∃ options : FuzzyOptions, slot = options.datum)
    (h : c.settings = .ok d) : Fills c.form.ownFields d := by
  cases c with
  | text c =>
    obtain ⟨query, path, matching, score⟩ := c
    match matching with
    | none => cases h; exact .nil
    | some (.synonyms mapping) => cases h; exact .single ⟨mapping, rfl⟩
    | some (.fuzzy slot) =>
      obtain ⟨options, rfl⟩ := hf slot rfl
      cases h
      exact .single options.holding_render
  | phrase c =>
    cases h
    exact fills_unlessDefault "slop" c.slop 0
  | autocomplete c =>
    obtain ⟨fuzzy, hz, h⟩ := bind_eq_ok h
    cases h
    have own : Fills [optional "fuzzy" (Holding fuzzyFields)] fuzzy := by
      cases hs : c.fuzzy with
      | none =>
        rw [hs] at hz
        cases hz
        exact .absent
      | some slot =>
        obtain ⟨options, rfl⟩ := hf slot hs
        rw [hs] at hz
        cases hz
        exact .present options.holding_render
    exact (fills_tokenOrder c.tokenOrder).append own
  | geoWithin c =>
    obtain ⟨v, hv, rfl⟩ := map_eq_ok h
    rw [← Shape.key_region]
    exact .single (Shape.region_render hv)

/-- A leaf renders to its operator with the fields of its form. -/
theorem render_fills {c : LeafClause} {d : Document}
    (hf : ∀ slot ∈ c.fuzzy?, ∃ options : FuzzyOptions, slot = options.datum)
    (h : c.render = .ok d) :
    ∃ body, d = [(c.operator, .object body)] ∧ Fills (c.form.fields c.isScored) body := by
  obtain ⟨score, hs, h⟩ := bind_eq_ok h
  obtain ⟨settings, ho, h⟩ := bind_eq_ok h
  cases h
  have others := ((fills_query c).append (fills_score hs)).append (fills_settings hf ho)
  exact ⟨_, rfl, (Fills.single c.path.terms.texts_render).append others⟩

end LeafClause

/-! ## Compounds -/

namespace Compound

/-- The builder keeps documents of the grammar only. -/
def Keeps (c : Compound) : Prop := ∀ occur, ∀ d ∈ c.clauses occur, Operator d

theorem fills_heading (c : Compound) (occur : Occur) :
    Fills [optional occur.key (Listing (c.clauses occur))] (c.heading occur) := by
  unfold heading
  split
  · exact .absent
  · rename_i h
    exact .present ⟨by simpa using h, rfl⟩

theorem fills_minimumEntry (c : Compound) :
    Fills [optional "minimumShouldMatch" Positive] c.minimumEntry := by
  unfold minimumEntry
  split
  · rename_i h
    exact .present ⟨c.minimum, rfl, h⟩
  · exact .absent

theorem Keeps.operator_render {c : Compound} (h : c.Keeps) : Operator c.render := by
  refine .compound h ?_
  have headings := ((c.fills_heading .must).append (c.fills_heading .mustNot)).append
    ((c.fills_heading .should).append (c.fills_heading .filter))
  have body : Fills (compoundFields c.clauses) _ := headings.append c.fills_minimumEntry
  simpa [Occur.all, List.flatMap_cons] using body

theorem Keeps.append {c : Compound} (h : c.Keeps) (occur : Occur) {d : Document}
    (hd : Operator d) : (c.append occur d).Keeps := by
  intro p e he
  rw [clauses_append] at he
  split at he
  · rcases List.mem_append.mp he with he | he
    · exact h p e he
    · rw [List.mem_singleton.mp he]
      exact hd
  · exact h p e he

/-- Adding keeps to the grammar if each addend does, whenever it is rendered. -/
theorem Keeps.add {occur : Occur} {xs : List Addend} {c : Compound} (h : c.Keeps)
    (hx : ∀ x ∈ xs, ∀ (e : Compound) (d : Document), e.Keeps → e.renderAddend x = .ok d →
      Operator d) : (c.add occur xs).1.Keeps := by
  induction xs generalizing c with
  | nil => exact h
  | cons x rest ih =>
    unfold Compound.add
    split
    · exact h
    · rename_i d hd
      have hop := hx x List.mem_cons_self c d h hd
      exact ih (h.append occur hop) fun y hy => hx y (List.mem_cons_of_mem _ hy)

end Compound

/-! ## Every clause that can be built -/

namespace Clause

/-- The clauses that can be built. Of a leaf only what its slot for fuzzy options holds matters, since
nothing else checks it. A compound is a new builder after any calls, those that failed included; the
clauses it is given are built the same way, and it may be given itself. -/
inductive Buildable : Clause → Prop
  | leaf {c : LeafClause} :
      (∀ slot ∈ c.fuzzy?, ∃ options : FuzzyOptions, slot = options.datum) → Buildable (.leaf c)
  | new {count : Argument} {c : Compound} : Compound.new count = .ok c → Buildable (.compound c)
  | add {c : Compound} {occur : Occur} {xs : List Addend} : Buildable (.compound c) →
      (∀ a, .given a ∈ xs → ∀ k, Clause.of a = .ok k → Buildable k) →
      (∀ draw, .holding draw ∈ xs → ∀ e k, Clause.of (draw e) = .ok k → Buildable k) →
      Buildable (.compound (c.call (.add occur xs)).1)
  | setMinimum {c : Compound} {count : Argument} : Buildable (.compound c) →
      Buildable (.compound (c.call (.setMinimum count)).1)

/-- A leaf renders into the grammar, and a compound keeps to it. -/
def Sound : Clause → Prop
  | .leaf c => ∀ d, c.render = .ok d → Operator d
  | .compound c => c.Keeps

theorem Sound.operator {c : Clause} (h : c.Sound) {d : Document} (hd : c.render = .ok d) :
    Operator d := by
  cases c with
  | leaf c => exact h d hd
  | compound c =>
    cases hd
    exact Compound.Keeps.operator_render h

theorem documentOf_eq {a : Argument} {c : Clause} (h : Clause.of a = .ok c) :
    Clause.documentOf a = c.render := by
  unfold Clause.documentOf
  rw [h]
  rfl

theorem Buildable.sound {c : Clause} (h : c.Buildable) : c.Sound := by
  induction h with
  | leaf hf =>
    intro d hd
    obtain ⟨body, rfl, hb⟩ := LeafClause.render_fills hf hd
    rw [← LeafClause.operator_form]
    exact .leaf _ _ hb
  | new hn =>
    obtain ⟨minimum, _, h⟩ := bind_eq_ok hn
    cases h
    intro occur d hd
    cases occur <;> cases hd
  | add _ _ _ ih ihg ihh =>
    refine Compound.Keeps.add ih ?_
    intro x hx e d he hd
    cases x with
    | receiver =>
      cases hd
      exact he.operator_render
    | given a =>
      obtain ⟨k, hk, hr⟩ := bind_eq_ok hd
      exact (ihg a hx k hk).operator hr
    | holding draw =>
      obtain ⟨k, hk, hr⟩ := bind_eq_ok hd
      exact (ihh draw hx e k hk).operator hr
  | @setMinimum c count _ ih =>
    unfold Compound.call
    dsimp only
    cases hs : c.setMinimum count with
    | error fault => exact ih
    | ok c' =>
      obtain ⟨minimum, _, h⟩ := bind_eq_ok hs
      cases h
      intro occur d hd
      exact ih occur d (by cases occur <;> exact hd)

/-- Whatever a clause that can be built renders to is a document of the grammar under the clause's
operator. A leaf's body has the fields of the leaf's own form, so a region stands under the key for
its shape; it has a query unless the clause limits by region, and a score if and only if one was
given. -/
theorem documentOf_lies_in_grammar {a : Argument} {c : Clause} {d : Document}
    (ha : Clause.of a = .ok c) (hc : c.Buildable) (hd : Clause.documentOf a = .ok d) :
    Operator d ∧ Entries.keys d = [c.operator] ∧
      ∀ leaf, c = .leaf leaf → ∃ body, d = [(leaf.operator, .object body)] ∧
        Fills (leaf.form.fields leaf.isScored) body ∧
        ("query" ∈ Entries.keys body ↔ leaf.query?.isSome = true) ∧
        ("score" ∈ Entries.keys body ↔ leaf.isScored = true) := by
  rw [documentOf_eq ha] at hd
  refine ⟨hc.sound.operator hd, ?_, ?_⟩
  · cases c with
    | leaf leaf =>
      obtain ⟨hf⟩ := hc
      obtain ⟨body, rfl, _⟩ := LeafClause.render_fills hf hd
      rfl
    | compound c =>
      cases hd
      rfl
  · rintro leaf rfl
    obtain ⟨hf⟩ := hc
    obtain ⟨body, rfl, hb⟩ := LeafClause.render_fills hf hd
    refine ⟨body, rfl, hb, ?_, LeafForm.score_mem_iff hb⟩
    rw [← LeafClause.queryFields_form]
    exact LeafForm.query_mem_iff hb

/-- A builder that was given a fuzzy search and then itself, in a call that failed at its third
clause. -/
def nested : Compound :=
  let fuzzy : Matching := .ofFuzzy (.made (.fuzzy ⟨.whole 1, .whole 0, .whole 50⟩))
  let search : TextClause := ⟨⟨.single "matrx"⟩, ⟨.many "title" ["plot"]⟩, some fuzzy,
    some ⟨.plain, some (.rescaling (.constant (.int 3)))⟩⟩
  (Compound.call { minimum := .whole 1 }
    (.add .must [.given (.made (.clause (.leaf (.text search)))), .receiver, .given .null])).1

theorem nested_buildable : (Clause.compound nested).Buildable := by
  refine .add (@Buildable.new (.int 1) _ rfl) ?_ ?_
  · intro a ha k hk
    simp only [List.mem_cons, Addend.given.injEq, reduceCtorEq, List.not_mem_nil, false_or,
      or_false] at ha
    rcases ha with rfl | rfl
    · cases hk
      exact .leaf fun slot hs => ⟨⟨.whole 1, .whole 0, .whole 50⟩, by cases hs; rfl⟩
    · cases hk
  · intro draw hd
    simp at hd

theorem nested_lies_in_grammar :
    (Clause.compound nested).Buildable ∧
      Clause.documentOf (.made (.builder "nested" nested)) = .ok nested.render ∧
      nested.must.length = 2 ∧ Operator nested.render ∧
      Entries.keys nested.render = [Compound.operator] := by
  have h := @documentOf_lies_in_grammar (.made (.builder "nested" nested)) _ _ rfl
    nested_buildable rfl
  exact ⟨nested_buildable, rfl, rfl, h.1, h.2.1⟩

end Clause
end DocSearch
