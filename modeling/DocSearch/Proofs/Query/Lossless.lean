import DocSearch.Proofs.Query.Faithful
import DocSearch.Proofs.Query.Rendered

/-! # Leaf clauses are known by their documents

The body of a leaf has a slot for its path, its query, its score and for each of its own settings, in
this order. Bodies of one operator are compared slot by slot, and each slot is faithful to the part
it is filled from. Only the role of the score options leaves no trace. -/

namespace DocSearch

open Value

namespace LeafClause

/-- What a clause holds comes from arguments of the annotated types, and its score, if it has one,
from a factory. -/
def Annotated (c : LeafClause) : Prop :=
  (∀ slot ∈ c.fuzzy?, ∃ o : FuzzyOptions, slot = o.datum) ∧
    match c with
    | .text ⟨_, _, _, score⟩ | .phrase ⟨_, _, score, _⟩ =>
      ∀ o ∈ score, ScoreOf.Made Adjustment.Factory o
    | .autocomplete c => ∀ o ∈ c.score, ScoreOf.Made Rescaling.Factory o
    | .geoWithin c => c.shape.Annotated ∧ ∀ o ∈ c.score, ScoreOf.Made Adjustment.Factory o

/-- Both have no score, or both have one and the strategies are equal. The roles may differ. -/
def SameScore {σ : Type} (datum : σ → Datum) (o p : Option (ScoreOf σ)) : Prop :=
  sameGiven (ScoreOf.strategyDatum datum) o p = true

/-- Clauses of one kind with equal terms, path, settings and score strategies. -/
def Agrees : LeafClause → LeafClause → Prop
  | .text a, .text b =>
    a.query = b.query ∧ a.path = b.path ∧ SameScore Adjustment.datum a.score b.score
      ∧ sameGiven Matching.datum a.matching b.matching = true
  | .phrase a, .phrase b =>
    a.query = b.query ∧ a.path = b.path ∧ SameScore Adjustment.datum a.score b.score
      ∧ a.slop.same b.slop = true
  | .autocomplete a, .autocomplete b =>
    a.query = b.query ∧ a.path = b.path ∧ SameScore Rescaling.datum a.score b.score
      ∧ a.tokenOrder = b.tokenOrder ∧ sameGiven id a.fuzzy b.fuzzy = true
  | .geoWithin a, .geoWithin b =>
    a.path = b.path ∧ SameScore Adjustment.datum a.score b.score
      ∧ a.shape.datum.same b.shape.datum = true
  | _, _ => False

/-! ## Slots -/

theorem entryOf_map_ok (key : String) (v : Option Value) :
    entryOf key (v.map .ok) = .ok (slots [(key, v)]) := by cases v <;> rfl

/-- The slots of a body before those for the operator's own settings. -/
def opening (c : LeafClause) (score : Option Value) : List (String × Option Value) :=
  [("path", some c.path.render), ("query", c.query?.map QueryTerm.render), ("score", score)]

theorem render_eq_slots {c : LeafClause} {score : Option Value}
    {own : List (String × Option Value)} (hs : c.renderScore = score.map .ok)
    (ho : c.settings = .ok (slots own)) :
    c.render = .ok [(c.operator, .object (slots (c.opening score ++ own)))] := by
  rw [render, hs, ho, entryOf_map_ok, slots_append, opening]
  cases c.query? <;> cases score <;> rfl

/-- Bodies are equal if they are slot by slot. -/
theorem render_same {a b : LeafClause} {s t : Option Value} {own own' : List (String × Option Value)}
    (hop : a.operator = b.operator)
    (hs : a.renderScore = s.map .ok) (ht : b.renderScore = t.map .ok)
    (ha : a.settings = .ok (slots own)) (hb : b.settings = .ok (slots own'))
    (hn : (["path", "query", "score"] ++ own.map (·.1)).Nodup)
    (hn' : (["path", "query", "score"] ++ own'.map (·.1)).Nodup) :
    ∃ c d, a.render = .ok c ∧ b.render = .ok d ∧ ((object c).same (.object d) = true ↔
      a.query? = b.query? ∧ a.path = b.path ∧ sameSlot s t = true ∧
        (object (slots own)).same (.object (slots own')) = true) := by
  refine ⟨_, _, render_eq_slots hs ha, render_eq_slots ht hb, ?_⟩
  have hpath : a.path.render.same b.path.render = decide (a.path = b.path) := by
    rw [FieldPath.render, FieldPath.render, Terms.same_render]
    cases a.path
    cases b.path
    simp
  have hquery : sameSlot (a.query?.map QueryTerm.render) (b.query?.map QueryTerm.render)
      = decide (a.query? = b.query?) := by
    cases a.query? with
    | none => cases b.query? <;> simp [sameSlot]
    | some q =>
      cases b.query? with
      | none => simp [sameSlot]
      | some r =>
        cases q
        cases r
        simp [sameSlot, QueryTerm.render, Terms.same_render]
  -- The keys of the operator's own settings need not be the same in both, as regions of different
  -- shapes stand under different keys, so only the opening is compared slot by slot.
  simp only [List.cons_append, List.nil_append, List.nodup_cons] at hn hn'
  rw [same_object_single, hop, beq_self_eq_true, Bool.true_and, opening, opening]
  simp only [List.cons_append, List.nil_append]
  rw [same_slots_cons (by simpa using hn.1) (by simpa using hn'.1)
      (by simpa [List.nodup_cons] using hn.2),
    same_slots_cons (by simpa using hn.2.1) (by simpa using hn'.2.1)
      (by simpa [List.nodup_cons] using hn.2.2),
    same_slots_cons (by simpa using hn.2.2.1) (by simpa using hn'.2.2.1) hn.2.2.2, hquery,
    sameSlot_some, hpath]
  simp only [Bool.and_eq_true, decide_eq_true_eq]
  exact and_left_comm

/-! ## Settings of each operator -/

theorem settings_text (c : TextClause) :
    settings (.text c) = (entryOf "fuzzy" ((c.matching.bind Matching.options?).map Datum.render)).map
      (· ++ slots [("synonyms", (c.matching.bind Matching.mapping?).map .str)]) := by
  obtain ⟨query, path, matching, score⟩ := c
  match matching with
  | none => rfl
  | some (.synonyms mapping) => rfl
  | some (.fuzzy options) =>
    simp only [settings, Matching.entry, Option.bind_some, Matching.options?, Option.map_some,
      entryOf, Matching.mapping?]
    cases options.render <;> rfl

theorem sameGiven_matching (m n : Option Matching) :
    sameGiven Matching.datum m n = (sameGiven id (m.bind Matching.options?) (n.bind Matching.options?)
      && sameSlot ((m.bind Matching.mapping?).map .str) ((n.bind Matching.mapping?).map .str)) := by
  match m, n with
  | none, none | none, some (.fuzzy _) | none, some (.synonyms _) | some (.fuzzy _), none
  | some (.synonyms _), none => simp [sameGiven, sameSlot, Matching.options?, Matching.mapping?]
  | some (.fuzzy _), some (.fuzzy _) | some (.fuzzy _), some (.synonyms _)
  | some (.synonyms _), some (.fuzzy _) | some (.synonyms _), some (.synonyms _) =>
    simp [sameGiven, sameSlot, Matching.options?, Matching.mapping?, Matching.datum,
      Matching.typeName, Datum.ofParts, Datum.ofDocument, same_str]

/-- The slot for the order of tokens. -/
def tokenOrderSlot (order : TokenOrder) : Option Value :=
  if order = .any then none else some (.str order.name)

theorem sameSlot_tokenOrder (m n : TokenOrder) :
    sameSlot (tokenOrderSlot m) (tokenOrderSlot n) = decide (m = n) := by
  cases m <;> cases n <;> simp [tokenOrderSlot, sameSlot, same_str]

theorem settings_autocomplete (c : AutocompleteClause) :
    settings (.autocomplete c) = (entryOf "fuzzy" (c.fuzzy.map Datum.render)).map
      (slots [("tokenOrder", tokenOrderSlot c.tokenOrder)] ++ ·) := by
  obtain ⟨query, path, order, fuzzy, score⟩ := c
  rw [settings]
  cases order <;> cases entryOf "fuzzy" (fuzzy.map Datum.render) <;> rfl

/-! ## Clauses -/

/-- Both clauses render, and their documents are equal exactly if the clauses agree. -/
def Told (a b : LeafClause) : Prop :=
  ∃ c d, a.render = .ok c ∧ b.render = .ok d ∧ ((object c).same (.object d) = true ↔ a.Agrees b)

theorem told_text {a b : TextClause} (ha : Annotated (.text a)) (hb : Annotated (.text b)) :
    Told (.text a) (.text b) := by
  obtain ⟨s, t, hs, ht, hst⟩ := (ScoreOf.faithful Adjustment.faithful).given ha.2 hb.2
  obtain ⟨v, w, hv, hw, hvw⟩ := FuzzyOptions.faithful.given ha.1 hb.1
  have settings {c : TextClause} {v : Option Value}
      (h : (c.matching.bind Matching.options?).map Datum.render = v.map .ok) :
      settings (.text c) = .ok (slots [("fuzzy", v),
        ("synonyms", (c.matching.bind Matching.mapping?).map .str)]) := by
    rw [settings_text, h, entryOf_map_ok, Except.map, ← slots_append]
    rfl
  obtain ⟨c, d, hc, hd, hcd⟩ := render_same (a := .text a) (b := .text b) rfl hs ht (settings hv)
    (settings hw) (by simp) (by simp)
  refine ⟨c, d, hc, hd, ?_⟩
  rw [hcd, same_slots (by rfl) (by simp), hst, Agrees, sameGiven_matching]
  simp [SameScore, query?, path, fuzzy?, hvw]

theorem told_phrase {a b : PhraseClause} (ha : Annotated (.phrase a)) (hb : Annotated (.phrase b)) :
    Told (.phrase a) (.phrase b) := by
  obtain ⟨s, t, hs, ht, hst⟩ := (ScoreOf.faithful Adjustment.faithful).given ha.2 hb.2
  have settings (c : PhraseClause) :
      settings (.phrase c) = .ok (slots [("slop", elided c.slop 0)]) :=
    congrArg _ (unlessDefault_eq_slots ..)
  obtain ⟨c, d, hc, hd, hcd⟩ := render_same (a := .phrase a) (b := .phrase b) rfl hs ht (settings a)
    (settings b) (by simp) (by simp)
  refine ⟨c, d, hc, hd, ?_⟩
  rw [hcd, same_slots (by rfl) (by simp), hst, Agrees]
  simp [SameScore, query?, path, sameSlot_elided]

theorem told_autocomplete {a b : AutocompleteClause} (ha : Annotated (.autocomplete a))
    (hb : Annotated (.autocomplete b)) : Told (.autocomplete a) (.autocomplete b) := by
  obtain ⟨s, t, hs, ht, hst⟩ := (ScoreOf.faithful Rescaling.faithful).given ha.2 hb.2
  obtain ⟨v, w, hv, hw, hvw⟩ := FuzzyOptions.faithful.given ha.1 hb.1
  have settings {c : AutocompleteClause} {v : Option Value}
      (h : c.fuzzy.map Datum.render = v.map .ok) :
      settings (.autocomplete c)
        = .ok (slots [("tokenOrder", tokenOrderSlot c.tokenOrder), ("fuzzy", v)]) := by
    rw [settings_autocomplete, h, entryOf_map_ok, Except.map, ← slots_append]
    rfl
  obtain ⟨c, d, hc, hd, hcd⟩ := render_same (a := .autocomplete a) (b := .autocomplete b) rfl hs ht
    (settings hv) (settings hw) (by simp) (by simp)
  refine ⟨c, d, hc, hd, ?_⟩
  rw [hcd, same_slots (by rfl) (by simp), hst, Agrees]
  simp [SameScore, query?, path, fuzzy?, sameSlot_tokenOrder, hvw]

theorem told_geoWithin {a b : GeoWithinClause} (ha : Annotated (.geoWithin a))
    (hb : Annotated (.geoWithin b)) : Told (.geoWithin a) (.geoWithin b) := by
  obtain ⟨s, t, hs, ht, hst⟩ := (ScoreOf.faithful Adjustment.faithful).given ha.2.2 hb.2.2
  obtain ⟨v, w, hv, hw, hvw⟩ := Shape.faithful a.shape b.shape ha.2.1 hb.2.1
  obtain ⟨x, hx, rfl⟩ := Outcome.map_eq_ok hv
  obtain ⟨y, hy, rfl⟩ := Outcome.map_eq_ok hw
  have settings {c : GeoWithinClause} {v : Value} (h : c.shape.render = .ok v) :
      settings (.geoWithin c) = .ok (slots [(c.shape.key, some v)]) := by
    rw [LeafClause.settings, h]
    rfl
  have keys (c : GeoWithinClause) : (["path", "query", "score"] ++ [c.shape.key]).Nodup := by
    cases c.shape <;> simp [Shape.key]
  obtain ⟨c, d, hc, hd, hcd⟩ := render_same (a := .geoWithin a) (b := .geoWithin b) rfl hs ht
    (settings hx) (settings hy) (keys a) (keys b)
  refine ⟨c, d, hc, hd, ?_⟩
  rw [hcd, hst, Agrees, ← hvw]
  simp [SameScore, query?, path, slots]

theorem render_eq_single {c : LeafClause} {d : Document} (h : c.render = .ok d) :
    ∃ body, d = [(c.operator, .object body)] := by
  obtain ⟨_, _, h⟩ := Outcome.bind_eq_ok h
  obtain ⟨_, _, h⟩ := Outcome.bind_eq_ok h
  cases h
  exact ⟨_, rfl⟩

theorem exists_render {c : LeafClause} (h : c.Annotated) :
    ∃ body, c.render = .ok [(c.operator, .object body)] := by
  have rendered : ∃ d, c.render = .ok d := by
    cases c with
    | text c => obtain ⟨d, _, hd, _⟩ := told_text h h; exact ⟨d, hd⟩
    | phrase c => obtain ⟨d, _, hd, _⟩ := told_phrase h h; exact ⟨d, hd⟩
    | autocomplete c => obtain ⟨d, _, hd, _⟩ := told_autocomplete h h; exact ⟨d, hd⟩
    | geoWithin c => obtain ⟨d, _, hd, _⟩ := told_geoWithin h h; exact ⟨d, hd⟩
  obtain ⟨d, hd⟩ := rendered
  obtain ⟨body, rfl⟩ := render_eq_single hd
  exact ⟨body, hd⟩

/-- Clauses of different kinds are told apart by their operators. -/
theorem told_operators {a b : LeafClause} (ha : a.Annotated) (hb : b.Annotated)
    (hop : a.operator ≠ b.operator) (hab : ¬ a.Agrees b) : Told a b := by
  obtain ⟨v, hv⟩ := exists_render ha
  obtain ⟨w, hw⟩ := exists_render hb
  refine ⟨_, _, hv, hw, ?_⟩
  rw [same_object_single, beq_eq_false_iff_ne.mpr hop, Bool.false_and]
  exact iff_of_false Bool.false_ne_true hab

/-- Leaf clauses from arguments of the annotated types render, and to equal documents if and only if
they are of one kind and have equal terms, path, settings, region and score strategies. The roles of
their score options are all that they may differ in. -/
theorem render_same_iff_agrees {a b : LeafClause} (ha : a.Annotated) (hb : b.Annotated) :
    ∃ c d, (Clause.leaf a).render = .ok c ∧ (Clause.leaf b).render = .ok d ∧
      ((object c).same (.object d) = true ↔ a.Agrees b) := by
  match a, b with
  | .text _, .text _ => exact told_text ha hb
  | .phrase _, .phrase _ => exact told_phrase ha hb
  | .autocomplete _, .autocomplete _ => exact told_autocomplete ha hb
  | .geoWithin _, .geoWithin _ => exact told_geoWithin ha hb
  | .text _, .phrase _ | .text _, .autocomplete _ | .text _, .geoWithin _
  | .phrase _, .text _ | .phrase _, .autocomplete _ | .phrase _, .geoWithin _
  | .autocomplete _, .text _ | .autocomplete _, .phrase _ | .autocomplete _, .geoWithin _
  | .geoWithin _, .text _ | .geoWithin _, .phrase _ | .geoWithin _, .autocomplete _ =>
    exact told_operators ha hb (by simp [operator]) id

/-- A completion with a constant score. -/
def completion (fuzzy : Option FuzzyOptions) (role : ScoreRole) : LeafClause :=
  .autocomplete ⟨⟨.single "ma"⟩, ⟨.many "title" []⟩, .any, fuzzy.map FuzzyOptions.datum,
    some ⟨role, some (.constant (.ofNumber (.whole 3)))⟩⟩

theorem completion_annotated (fuzzy : Option FuzzyOptions) (role : ScoreRole) :
    (completion fuzzy role).Annotated := by
  constructor
  · intro slot hs
    obtain ⟨o, _, rfl⟩ := Option.map_eq_some_iff.mp hs
    exact ⟨o, rfl⟩
  · intro o ho
    cases ho
    exact ⟨_, rfl, .constant (.whole 3)⟩

/-- Standard fuzzy options are told from none, and the role of the score options is not told. -/
theorem completions_told :
    (∃ c d, (Clause.leaf (completion none .autocomplete)).render = .ok c ∧
      (Clause.leaf (completion (some .standard) .autocomplete)).render = .ok d ∧
      (object c).same (.object d) = false) ∧
    ∃ c d, (Clause.leaf (completion none .autocomplete)).render = .ok c ∧
      (Clause.leaf (completion none .plain)).render = .ok d ∧ (object c).same (.object d) = true := by
  constructor
  · obtain ⟨c, d, hc, hd, h⟩ := render_same_iff_agrees (completion_annotated none .autocomplete)
      (completion_annotated (some .standard) .autocomplete)
    refine ⟨c, d, hc, hd, Bool.eq_false_iff.mpr fun hs => ?_⟩
    exact absurd (h.mp hs).2.2.2.2 (by simp [sameGiven])
  · obtain ⟨c, d, hc, hd, h⟩ := render_same_iff_agrees (completion_annotated none .autocomplete)
      (completion_annotated none .plain)
    refine ⟨c, d, hc, hd, h.mpr ⟨rfl, rfl, ?_, rfl, rfl⟩⟩
    simp [SameScore, sameGiven, ScoreOf.strategyDatum, Datum.ofOption, Rescaling.datum,
      Datum.ofDocument, Number.same_iff, Number.magnitude]

end LeafClause
end DocSearch
