import DocSearch.Proofs.Query.Bounds
import DocSearch.Proofs.Search.Assembly

/-! # Bounds of the numbers that are sent

The settings have their places in the documents of clauses and highlights, and the headings of a
compound hold documents with places of their own. Wherever a number stands in such a place, it got
there by being taken for its setting. -/

namespace DocSearch

/-! ## Places -/

/-- What stands at the end of a path of keys. -/
def Value.at? : List String → Value → Option Value
  | [], v => some v
  | key :: path, .object d => (Entries.get? key d).bind (at? path)
  | _ :: _, _ => none

namespace Setting

/-- The key of a setting in documents. -/
def key : Setting → String
  | .radius => "radius"
  | .maxEdits => "maxEdits"
  | .prefixLength => "prefixLength"
  | .maxExpansions => "maxExpansions"
  | .maxCharacters => "maxCharactersToExamine"
  | .maxPassages => "maxNumPassages"
  | .slop => "slop"
  | .minimumShouldMatch => "minimumShouldMatch"

/-- The paths to the objects that hold a setting. -/
def homes : Setting → List (List String)
  | .radius => [["geoWithin", "circle"]]
  | .maxEdits | .prefixLength | .maxExpansions => [["text", "fuzzy"], ["autocomplete", "fuzzy"]]
  | .maxCharacters | .maxPassages => [["highlight"]]
  | .slop => [["phrase"]]
  | .minimumShouldMatch => [["compound"]]

theorem homes_cases {s : Setting} {home : List String} (h : home ∈ s.homes) :
    (∃ operator, home = [operator]) ∨
      ∃ operator inner, home = [operator, inner] ∧ (inner = "fuzzy" ∨ inner = "circle") := by
  cases s <;> simp only [homes, List.mem_cons, List.not_mem_nil, or_false] at h
  case radius => exact .inr ⟨_, _, h, .inr rfl⟩
  case maxEdits | prefixLength | maxExpansions =>
    rcases h with rfl | rfl <;> exact .inr ⟨_, _, rfl, .inl rfl⟩
  case maxCharacters | maxPassages | slop | minimumShouldMatch => exact .inl ⟨_, h⟩

/-- A setting is in an operator's document or in the highlight options, which have no documents in
them. -/
theorem homes_head {s : Setting} {first : String} {rest : List String}
    (h : first :: rest ∈ s.homes) : first ≠ "index" ∧ (first = "highlight" → rest = []) := by
  cases s <;> simp only [homes, List.mem_cons, List.not_mem_nil, or_false, List.cons.injEq] at h
  case maxEdits | prefixLength | maxExpansions =>
    rcases h with ⟨rfl, rfl⟩ | ⟨rfl, rfl⟩ <;> simp
  case radius | maxCharacters | maxPassages | slop | minimumShouldMatch =>
    obtain ⟨rfl, rfl⟩ := h
    simp

end Setting

/-- A document carries a number for a setting, itself or in a clause under one of its headings. -/
inductive Carries (s : Setting) (n : Number) : Document → Prop
  | here {d : Document} {home : List String} : home ∈ s.homes →
      (Value.object d).at? (home ++ [s.key]) = some (.ofNumber n) → Carries s n d
  | within {d e : Document} {occur : Occur} {clauses : List Document} :
      (Value.object d).at? [Compound.operator, occur.key] = some (.list (clauses.map .object)) →
      e ∈ clauses → Carries s n e → Carries s n d

/-- All numbers that the document carries were taken. -/
def Bounded (d : Document) : Prop := ∀ s n, Carries s n d → s.Takes n

/-! ## Objects that hold settings -/

section Objects

variable {s : Setting} {n : Number} {key : String}

theorem Value.ofNumber_injective {m n : Number} (h : Value.ofNumber m = .ofNumber n) : m = n := by
  cases m <;> cases n <;> cases h <;> rfl

theorem Value.at?_single (d : Document) : (Value.object d).at? [key] = d.get? key :=
  Option.bind_fun_some _

theorem get?_unlessDefault (k : String) (n : Number) (default : Int) :
    Entries.get? key (unlessDefault k n default)
      = if key = k ∧ n.same (.whole default) = false then some (.ofNumber n) else none := by
  unfold unlessDefault
  by_cases h : n.same (.whole default) = true <;> simp [h, Entries.get?_cons, Entries.get?_nil]

theorem FuzzyOptions.Taken.takes {o : FuzzyOptions} (h : o.Taken)
    (hn : o.render.at? [s.key] = some (.ofNumber n)) : s.Takes n := by
  rw [FuzzyOptions.render, Value.at?_single, Entries.get?_append, Entries.get?_append,
    get?_unlessDefault, get?_unlessDefault, get?_unlessDefault] at hn
  cases s <;> simp [Setting.key] at hn
  · rw [← Value.ofNumber_injective hn.2]
    exact h.maxEdits
  · rw [← Value.ofNumber_injective hn.2]
    exact h.prefixLength
  · rw [← Value.ofNumber_injective hn.2]
    exact h.maxExpansions

theorem HighlightOptions.Taken.takes {o : HighlightOptions} (h : o.Taken)
    (hn : o.render.at? [s.key] = some (.ofNumber n)) : s.Takes n := by
  rw [HighlightOptions.render, Value.at?_single, Entries.get?_cons, Entries.get?_append,
    get?_unlessDefault, get?_unlessDefault] at hn
  cases s <;> simp [Setting.key] at hn
  · rw [← Value.ofNumber_injective hn.2]
    exact h.maxCharacters
  · rw [← Value.ofNumber_injective hn.2]
    exact h.maxPassages

theorem Circle.takes {c : Circle} {v : Value} (h : Setting.radius.Takes c.radius)
    (hv : c.render = .ok v) (hn : v.at? [s.key] = some (.ofNumber n)) : s.Takes n := by
  obtain ⟨center, -, hv⟩ := Outcome.bind_eq_ok hv
  cases hv
  rw [Value.at?_single, Entries.get?_cons, Entries.get?_cons, Entries.get?_nil] at hn
  cases s <;> simp [Setting.key] at hn
  rw [← Value.ofNumber_injective hn]
  exact h

end Objects

/-! ## Leaves -/

namespace LeafClause

variable {c : LeafClause} {d settings : Document} {s : Setting} {n : Number} {key : String}
  {v : Value}

/-- What may stand under a key beside path, query and score. -/
inductive Own (c : LeafClause) : String → Value → Prop
  | fuzzy {slot : Datum} {v : Value} : slot ∈ c.fuzzy? → slot.render = .ok v → Own c "fuzzy" v
  | synonyms (v : Value) : Own c "synonyms" v
  | slop {p : PhraseClause} : c = .phrase p → Own c "slop" (.ofNumber p.slop)
  | tokenOrder (v : Value) : Own c "tokenOrder" v
  | shape {g : GeoWithinClause} {v : Value} : c = .geoWithin g → g.shape.render = .ok v →
      Own c g.shape.key v

theorem get?_entryOf {k : String} {rendered : Option (Except Fault Value)}
    (h : entryOf k rendered = .ok d) (hv : d.get? key = some v) :
    key = k ∧ rendered = some (.ok v) := by
  cases rendered with
  | none =>
    cases h
    cases hv
  | some x =>
    obtain ⟨w, rfl, rfl⟩ := Outcome.map_eq_ok h
    obtain ⟨hkey, rfl⟩ := Entries.get?_single hv
    exact ⟨hkey, rfl⟩

theorem own_of_settings (h : c.settings = .ok settings) (hv : settings.get? key = some v) :
    c.Own key v := by
  cases c with
  | text c =>
    obtain ⟨query, path, matching, score⟩ := c
    cases matching with
    | none =>
      cases h
      cases hv
    | some m =>
      obtain ⟨entry, hentry, rfl⟩ := Outcome.map_eq_ok h
      cases m with
      | synonyms mapping =>
        cases hentry
        obtain ⟨rfl, rfl⟩ := Entries.get?_single hv
        exact .synonyms _
      | fuzzy slot =>
        obtain ⟨w, hw, rfl⟩ := Outcome.map_eq_ok hentry
        obtain ⟨rfl, rfl⟩ := Entries.get?_single hv
        exact .fuzzy (c := .text ⟨query, path, some (.fuzzy slot), score⟩) rfl hw
  | phrase c =>
    cases h
    rw [get?_unlessDefault] at hv
    split at hv
    · rename_i hkey
      cases hv
      rw [hkey.1]
      exact .slop rfl
    · cases hv
  | autocomplete c =>
    obtain ⟨fuzzy, hfuzzy, h⟩ := Outcome.bind_eq_ok h
    cases h
    rw [Entries.get?_append] at hv
    rcases Option.or_eq_some_iff.mp hv with horder | ⟨-, hv⟩
    · split at horder
      · cases horder
      · obtain ⟨rfl, rfl⟩ := Entries.get?_single horder
        exact .tokenOrder _
    · obtain ⟨rfl, hrendered⟩ := get?_entryOf hfuzzy hv
      obtain ⟨slot, hslot, hrender⟩ := Option.map_eq_some_iff.mp hrendered
      exact .fuzzy (c := .autocomplete c) hslot hrender
  | geoWithin c =>
    have hentry : entryOf c.shape.key (some c.shape.render) = .ok settings := h
    obtain ⟨rfl, hrender⟩ := get?_entryOf hentry hv
    exact .shape rfl (Option.some.inj hrender)

/-- What stands on a path through a rendered leaf, stands on the path through its own settings. -/
theorem at?_settings (h : c.render = .ok d) : ∃ settings, c.settings = .ok settings ∧
    ∀ operator key path v, key ∉ ["path", "query", "score"] →
      (Value.object d).at? (operator :: key :: path) = some v →
      (Value.object settings).at? (key :: path) = some v := by
  obtain ⟨score, hscore, h⟩ := Outcome.bind_eq_ok h
  obtain ⟨settings, hsettings, h⟩ := Outcome.bind_eq_ok h
  cases h
  refine ⟨settings, hsettings, fun operator key path v hkey hv => ?_⟩
  obtain ⟨hpath, hquery, hscored⟩ : key ≠ "path" ∧ key ≠ "query" ∧ key ≠ "score" := by
    simpa using hkey
  obtain ⟨body, hbody, hv⟩ := Option.bind_eq_some_iff.mp hv
  obtain ⟨-, rfl⟩ := Entries.get?_single hbody
  have hnoquery : Entries.get? key (c.query?.map fun query => ("query", query.render)).toList
      = none := by
    cases c.query? with
    | none => rfl
    | some query => simp [Entries.get?_cons, Entries.get?_nil, hquery]
  have hnoscore : Entries.get? key score = none := by
    refine Option.eq_none_iff_forall_ne_some.mpr fun w hw => hscored (get?_entryOf hscore hw).1
  change (Entries.get? key _).bind _ = _ at hv
  rw [Entries.get?_cons, if_neg hpath, Entries.get?_append, Entries.get?_append, hnoquery, hnoscore]
    at hv
  exact hv

theorem Taken.fuzzy {slot : Datum} (hc : c.Taken) (hslot : slot ∈ c.fuzzy?) :
    ∃ o : FuzzyOptions, o.Taken ∧ slot = o.datum := by
  cases c with
  | text c =>
    obtain ⟨m, hm, hoptions⟩ := Option.bind_eq_some_iff.mp hslot
    exact hc m hm slot hoptions
  | autocomplete c => exact hc slot hslot
  | phrase c | geoWithin c => cases hslot

theorem Own.fuzzyOptions (h : c.Own key v) (hkey : key = "fuzzy") (hc : c.Taken) :
    ∃ o : FuzzyOptions, o.Taken ∧ v = o.render := by
  cases h with
  | fuzzy hslot hv =>
    obtain ⟨o, ho, rfl⟩ := hc.fuzzy hslot
    exact ⟨o, ho, (Except.ok.inj hv).symm⟩
  | synonyms | slop | tokenOrder => simp at hkey
  | @shape g v hg hv => cases hs : g.shape <;> simp [hs, Shape.key] at hkey

theorem Own.circle (h : c.Own key v) (hkey : key = "circle") (hc : c.Taken) :
    ∃ circle : Circle, Setting.radius.Takes circle.radius ∧ circle.render = .ok v := by
  cases h with
  | fuzzy | synonyms | slop | tokenOrder => simp at hkey
  | @shape g v hg hv =>
    subst hg
    cases hs : g.shape with
    | circle circle =>
      rw [hs] at hv
      exact ⟨circle, hc circle hs, hv⟩
    | box | polygon | multiPolygon => simp [hs, Shape.key] at hkey

theorem Own.number (h : c.Own key v) (hkey : key = s.key) (hv : v = .ofNumber n) (hc : c.Taken) :
    s.Takes n := by
  cases h with
  | fuzzy | synonyms | tokenOrder => cases s <;> simp [Setting.key] at hkey
  | @shape g v hg hv => cases hs : g.shape <;> cases s <;> simp [hs, Shape.key, Setting.key] at hkey
  | slop hp =>
    subst hp
    rw [← Value.ofNumber_injective hv]
    cases s <;> simp [Setting.key] at hkey
    exact hc

theorem Own.ne_occur (h : c.Own key v) (occur : Occur) : key ≠ occur.key := by
  cases h with
  | fuzzy | synonyms | tokenOrder | slop => cases occur <;> simp [Occur.key]
  | @shape g v hg hv => cases hs : g.shape <;> cases occur <;> simp [Shape.key, Occur.key]

/-- A leaf carries no number but those it holds. -/
theorem bounded_render (hc : c.Taken) (h : c.render = .ok d) : Bounded d := by
  obtain ⟨settings, hsettings, hat⟩ := at?_settings h
  intro s n hn
  cases hn with
  | here hhome hn =>
    have hkey : s.key ∉ ["path", "query", "score"] := by cases s <;> decide
    rcases Setting.homes_cases hhome with ⟨operator, rfl⟩ | ⟨operator, inner, rfl, hinner⟩
    · have hv := hat operator s.key [] _ hkey hn
      rw [Value.at?_single] at hv
      exact (own_of_settings hsettings hv).number rfl rfl hc
    · have hinside : inner ∉ ["path", "query", "score"] := by
        rcases hinner with rfl | rfl <;> decide
      have hv := hat operator inner [s.key] _ hinside hn
      obtain ⟨object, hobject, hnumber⟩ := Option.bind_eq_some_iff.mp hv
      have hown := own_of_settings hsettings hobject
      rcases hinner with rfl | rfl
      · obtain ⟨o, ho, rfl⟩ := hown.fuzzyOptions rfl hc
        exact ho.takes hnumber
      · obtain ⟨circle, hradius, hrender⟩ := hown.circle rfl hc
        exact Circle.takes hradius hrender hnumber
  | @within _ e occur clauses hd he _ =>
    have hkey : occur.key ∉ ["path", "query", "score"] := by cases occur <;> decide
    have hv := hat Compound.operator occur.key [] _ hkey hd
    rw [Value.at?_single] at hv
    exact absurd rfl ((own_of_settings hsettings hv).ne_occur occur)

end LeafClause

/-! ## Compounds -/

namespace Compound

variable {c : Compound} {key : String} {v : Value}

/-- The numbers of a builder, its own and those of the clauses it holds, were taken. -/
structure Bounded (c : Compound) : Prop where
  minimum : Setting.minimumShouldMatch.Takes c.minimum
  clauses : ∀ occur, ∀ d ∈ c.clauses occur, DocSearch.Bounded d

theorem get?_heading_of_ne {occur : Occur} (h : key ≠ occur.key) :
    Entries.get? key (c.heading occur) = none := by
  unfold heading
  split
  · rfl
  · rw [Entries.get?_cons, if_neg h, Entries.get?_nil]

/-- Under a key that is no heading a compound has its minimum or nothing. -/
theorem at?_render {operator : String} {path : List String}
    (hkey : ∀ occur : Occur, key ≠ occur.key)
    (h : (Value.object c.render).at? (operator :: key :: path) = some v) :
    key = "minimumShouldMatch" ∧ (Value.ofNumber c.minimum).at? path = some v := by
  obtain ⟨body, hbody, h⟩ := Option.bind_eq_some_iff.mp h
  obtain ⟨-, rfl⟩ := Entries.get?_single hbody
  obtain ⟨object, hobject, h⟩ := Option.bind_eq_some_iff.mp h
  simp only [Occur.all, List.flatMap_cons, List.flatMap_nil, Entries.get?_append, hkey,
    get?_heading_of_ne, ne_eq, not_false_eq_true, Option.none_or, Entries.get?_nil] at hobject
  unfold minimumEntry at hobject
  split at hobject
  · obtain ⟨rfl, rfl⟩ := Entries.get?_single hobject
    exact ⟨rfl, h⟩
  · cases hobject

theorem clauses_of_at? {occur : Occur} {clauses : List Document}
    (h : (Value.object c.render).at? [operator, occur.key] = some (.list (clauses.map .object))) :
    clauses = c.clauses occur := by
  obtain ⟨body, hbody, h⟩ := Option.bind_eq_some_iff.mp h
  obtain ⟨-, rfl⟩ := Entries.get?_single hbody
  rw [Value.at?_single] at h
  have hlisted : listed c.render occur = clauses.map .object := by
    rw [listed, render, Entries.get?_cons, if_pos rfl]
    simp only [h]
  rw [listed_render] at hlisted
  exact ((List.map_inj_right fun _ _ => Value.object.inj).mp hlisted).symm

theorem Bounded.render (h : c.Bounded) : DocSearch.Bounded c.render := by
  intro s n hn
  cases hn with
  | here hhome hn =>
    have hkey (occur : Occur) : s.key ≠ occur.key := by cases s <;> cases occur <;> decide
    rcases Setting.homes_cases hhome with ⟨operator, rfl⟩ | ⟨operator, inner, rfl, hinner⟩
    · obtain ⟨hs, hv⟩ := at?_render hkey hn
      rw [← Value.ofNumber_injective (Option.some.inj hv)]
      cases s <;> simp [Setting.key] at hs
      exact h.minimum
    · have hinside (occur : Occur) : inner ≠ occur.key := by
        rcases hinner with rfl | rfl <;> cases occur <;> decide
      obtain ⟨rfl, -⟩ := at?_render hinside hn
      simp at hinner
  | @within _ e occur clauses hd he hn =>
    rw [clauses_of_at? hd] at he
    exact h.clauses occur e he s n hn

theorem Bounded.append (h : c.Bounded) (occur : Occur) {d : Document} (hd : DocSearch.Bounded d) :
    (c.append occur d).Bounded := by
  refine ⟨by rw [minimum_append]; exact h.minimum, fun p e he => ?_⟩
  rw [clauses_append] at he
  split at he
  · rcases List.mem_append.mp he with he | he
    · exact h.clauses p e he
    · rw [List.mem_singleton.mp he]
      exact hd
  · exact h.clauses p e he

/-- Adding keeps the bounds if each addend does, whenever it is rendered. -/
theorem Bounded.add {occur : Occur} {xs : List Addend} (h : c.Bounded)
    (hx : ∀ x ∈ xs, ∀ (e : Compound) (d : Document), e.Bounded → e.renderAddend x = .ok d →
      DocSearch.Bounded d) : (c.add occur xs).1.Bounded := by
  induction xs generalizing c with
  | nil => exact h
  | cons x rest ih =>
    unfold Compound.add
    split
    · exact h
    · rename_i d hd
      have hbounded := hx x List.mem_cons_self c d h hd
      exact ih (h.append occur hbounded) fun y hy => hx y (List.mem_cons_of_mem _ hy)

theorem Bounded.setMinimum (h : c.Bounded) (count : Argument) :
    (c.call (.setMinimum count)).1.Bounded := by
  refine ⟨takes_run h.minimum [.setMinimum count], fun occur d hd => ?_⟩
  rw [clauses_setMinimum] at hd
  exact h.clauses occur d hd

end Compound

/-! ## Every clause that is made of arguments of the annotated types -/

namespace Clause

/-- The clauses that arguments of the annotated types make. A compound is a new builder after any
calls, those that failed included, and may be given itself. -/
inductive Made : Clause → Prop
  | leaf {c : LeafClause} : Definition.Built (.clause (.leaf c)) → Made (.leaf c)
  | new {count : Argument} {c : Compound} : Compound.new count = .ok c → Made (.compound c)
  | add {c : Compound} {occur : Occur} {xs : List Addend} : Made (.compound c) →
      (∀ a, .given a ∈ xs → ∀ k, Clause.of a = .ok k → Made k) →
      (∀ draw, .holding draw ∈ xs → ∀ e k, Clause.of (draw e) = .ok k → Made k) →
      Made (.compound (c.call (.add occur xs)).1)
  | setMinimum {c : Compound} {count : Argument} : Made (.compound c) →
      Made (.compound (c.call (.setMinimum count)).1)

def Bounded : Clause → Prop
  | .leaf c => c.Taken
  | .compound c => c.Bounded

theorem Bounded.render {c : Clause} (h : c.Bounded) {d : Document} (hd : c.render = .ok d) :
    DocSearch.Bounded d := by
  cases c with
  | leaf c => exact LeafClause.bounded_render h hd
  | compound c =>
    cases hd
    exact Compound.Bounded.render h

theorem Made.bounded {c : Clause} (h : c.Made) : c.Bounded := by
  induction h with
  | leaf h => exact h.taken
  | new h =>
    refine ⟨(Setting.Stores.newMinimum h).takes.2, fun occur d hd => ?_⟩
    rw [Compound.clauses_new h] at hd
    cases hd
  | add _ _ _ ih ihg ihh =>
    refine Compound.Bounded.add ih fun x hx e d he hd => ?_
    cases x with
    | receiver =>
      cases hd
      exact he.render
    | given a =>
      obtain ⟨k, hk, hr⟩ := Outcome.bind_eq_ok hd
      exact (ihg a hx k hk).render hr
    | holding draw =>
      obtain ⟨k, hk, hr⟩ := Outcome.bind_eq_ok hd
      exact (ihh draw hx e k hk).render hr
  | setMinimum _ ih => exact Compound.Bounded.setMinimum ih _

end Clause

/-! ## Pipelines -/

namespace Pipeline

variable {clause : Argument} {projection : Option Document} {highlight : Option HighlightOptions}
  {index : Value} {limit : Argument} {stages : List Document}

theorem searchBody_cases {rendered : Document} {key : String} {v : Value}
    (h : (searchBody rendered (highlight.map HighlightOptions.render) index).get? key = some v) :
    rendered.get? key = some v ∨ (key = "highlight" ∧ ∃ o ∈ highlight, o.render = v) ∨
      key = "index" := by
  unfold searchBody at h
  rw [Entries.get?_append, Entries.get?_append] at h
  rcases Option.or_eq_some_iff.mp h with h | ⟨-, h⟩
  · rcases Option.or_eq_some_iff.mp h with h | ⟨-, h⟩
    · exact .inl h
    · cases highlight with
      | none => cases h
      | some o =>
        obtain ⟨rfl, rfl⟩ := Entries.get?_single h
        exact .inr (.inl ⟨rfl, o, rfl, rfl⟩)
  · split at h
    · cases h
    · exact .inr (.inr (Entries.get?_single h).1)

/-- The numbers of a search are those of its clause and of its highlight options. -/
theorem bounded_searchBody {rendered : Document} (h : Bounded rendered)
    (hhighlight : ∀ o ∈ highlight, o.Taken) :
    Bounded (searchBody rendered (highlight.map HighlightOptions.render) index) := by
  intro s n hn
  cases hn with
  | @here _ home hhome hn =>
    cases home with
    | nil => cases s <;> simp [Setting.homes] at hhome
    | cons first rest =>
      obtain ⟨hindex, hrest⟩ := Setting.homes_head hhome
      obtain ⟨object, hobject, hv⟩ := Option.bind_eq_some_iff.mp hn
      rcases searchBody_cases hobject with hobject | ⟨hfirst, o, ho, rfl⟩ | hfirst
      · exact h s n (.here hhome (Option.bind_eq_some_iff.mpr ⟨object, hobject, hv⟩))
      · rw [hrest hfirst] at hv
        exact (hhighlight o ho).takes hv
      · exact absurd hfirst hindex
  | @within _ e occur clauses hd he hn =>
    obtain ⟨object, hobject, hv⟩ := Option.bind_eq_some_iff.mp hd
    rcases searchBody_cases hobject with hobject | ⟨hoperator, -⟩ | hoperator
    · exact h s n (.within (Option.bind_eq_some_iff.mpr ⟨object, hobject, hv⟩) he hn)
    · simp [Compound.operator] at hoperator
    · simp [Compound.operator] at hoperator

theorem searchStage_unique {rendered body : Document} {n : Option Int}
    (h : [(searchKey, Value.object body)] ∈ stagesOf rendered projection highlight index n) :
    body = searchBody rendered (highlight.map HighlightOptions.render) index := by
  rcases List.mem_cons.mp h with h | h
  · simpa using h
  · cases n <;> cases projection <;> simp [searchKey, limitKey, projectKey] at h

theorem bounded_assemble {c : Clause} (hof : Clause.of clause = .ok c) (hc : c.Made)
    (hhighlight : ∀ o ∈ highlight, o.Taken)
    (h : assemble clause projection highlight index limit = .ok stages) {body : Document}
    (hbody : [(searchKey, Value.object body)] ∈ stages) : Bounded body := by
  rw [assemble_eq] at h
  obtain ⟨n, -, h⟩ := Outcome.bind_eq_ok h
  obtain ⟨rendered, hrendered, h⟩ := Outcome.bind_eq_ok h
  cases h
  have hclause : Bounded rendered := by
    rw [Clause.documentOf_eq hof] at hrendered
    exact hc.bounded.render hrendered
  rw [searchStage_unique hbody]
  exact bounded_searchBody hclause hhighlight

/-- A number is stored for a setting if it is handed over and the setting takes it. What builders
hold after any calls and what pipelines carry was taken too, and what was taken is within its bound
unless it is undefined. -/
theorem carries_taken (s : Setting) (n : Number) :
    (∀ a, s.Stores a n ↔ a.toNumber? = some n ∧ s.Takes n) ∧
    (∀ count start calls, Compound.new count = .ok start → (start.run calls).minimum = n →
      Setting.minimumShouldMatch.Takes n) ∧
    (∀ (clause : Argument) (c : Clause) projection highlight index limit stages body,
      Clause.of clause = .ok c → c.Made →
      (∀ o ∈ highlight, ∃ path maxCharacters maxPassages,
        HighlightOptions.of path maxCharacters maxPassages = .ok o) →
      assemble clause projection highlight index limit = .ok stages →
      [(searchKey, Value.object body)] ∈ stages → Carries s n body → s.Takes n) ∧
    (s.Takes n → (s.Bound n ↔ s = .maxEdits ∨ n.Defined)) := by
  refine ⟨fun a => Setting.stores_iff, ?_, ?_, Setting.Takes.bound_iff⟩
  · rintro count start calls h rfl
    exact Compound.takes_run (Setting.Stores.newMinimum h).takes.2 calls
  · intro clause c projection highlight index limit stages body hof hc hhighlight h hbody
    refine bounded_assemble hof hc (fun o ho => ?_) h hbody s n
    obtain ⟨path, maxCharacters, maxPassages, ho⟩ := hhighlight o ho
    exact HighlightOptions.taken_of ho

/-- A search for a phrase, its words at most two apart. -/
def goodNight : PhraseClause := ⟨⟨.single "good night"⟩, ⟨.single "plot"⟩, none, .whole 2⟩

/-- A builder that was given the search. -/
def lullabies : Compound :=
  (Compound.call {} (.add .must [.given (.made (.clause (.leaf (.phrase goodNight))))])).1

/-- Highlights of three passages. -/
def passages : HighlightOptions := ⟨⟨.single "plot"⟩, .whole 500000, .whole 3⟩

theorem lullabies_made : Clause.Made (.compound lullabies) := by
  have hnew : Compound.new (.int 0) = .ok {} := rfl
  have hphrase : PhraseClause.of (.str "good night") (.str "plot") .null (.int 2) = .ok goodNight :=
    rfl
  have hbuilt : Definition.Built (.clause (.leaf (.phrase goodNight))) := by
    refine .phrase ?_ hphrase
    intro d hd
    cases hd
  refine .add (.new hnew) ?_ ?_
  · intro a ha k hk
    cases List.mem_singleton.mp ha
    cases hk
    exact .leaf hbuilt
  · intro draw hd
    simp at hd

theorem lullabies_carry_taken :
    Carries .slop (.whole 2) (searchBody lullabies.render (some passages.render) .null) ∧
    Setting.slop.Takes (.whole 2) ∧
    Carries .maxPassages (.whole 3) (searchBody lullabies.render (some passages.render) .null) ∧
    Setting.maxPassages.Takes (.whole 3) := by
  have hslop : Carries .slop (.whole 2)
      (searchBody lullabies.render (some passages.render) .null) := by
    refine @Carries.within _ _ _ _ .must _ rfl (.head []) ?_
    exact @Carries.here _ _ _ ["phrase"] (.head []) rfl
  have hpassages : Carries .maxPassages (.whole 3)
      (searchBody lullabies.render (some passages.render) .null) :=
    @Carries.here _ _ _ ["highlight"] (.head []) rfl
  have htaken (s : Setting) (n : Number)
      (h : Carries s n (searchBody lullabies.render (some passages.render) .null)) : s.Takes n :=
    (carries_taken s n).2.2.1 (.made (.builder "c" lullabies)) (.compound lullabies) none
      (some passages) .null (.int 5) _ _ rfl lullabies_made
      (fun o ho => ⟨.str "plot", .int 500000, .int 3, by cases ho; rfl⟩) rfl (.head _) h
  exact ⟨hslop, htaken _ _ hslop, hpassages, htaken _ _ hpassages⟩

/-- The undefined number is taken for a radius and sent, though it is not above zero. -/
theorem undefined_radius_sent : ∃ circle stages body,
    Circle.of (.made (.point ⟨.int 40, .int (-74)⟩)) (.float .nan) = .ok circle ∧
    assemble (.made (.clause (.leaf (.geoWithin ⟨.circle circle, ⟨.single "location"⟩, none⟩))))
      none none .null (.int 5) = .ok stages ∧
    [(searchKey, Value.object body)] ∈ stages ∧ Carries .radius circle.radius body ∧
    ¬ Setting.radius.Bound circle.radius := by
  refine ⟨_, _, _, rfl, rfl, .head _, ?_, Bool.false_ne_true⟩
  exact @Carries.here _ _ _ ["geoWithin", "circle"] (.head []) rfl

end Pipeline
end DocSearch
