import DocSearch.Argument.Projection
import DocSearch.Proofs.Datum.Layers
import DocSearch.Proofs.Datum.Plain

/-! # What a projection comes to

A projection is begun once and then refined by any number of calls. What it renders is told by all
that was said, in order: of the included fields, of the expressions and of the meta fields, each of
these layers over the one before. -/

namespace DocSearch

namespace Argument

/-- If the argument is an object, it names each key once. -/
def NamesOnce (a : Argument) : Prop :=
  ∀ entries, a.datum = .object entries → (Entries.keys entries).Nodup

theorem entriesOf_eq_map (entries : Entries Argument) :
    entriesOf entries = entries.map fun entry => (entry.1, entry.2.datum) := by
  induction entries with
  | nil => rfl
  | cons entry rest ih =>
    obtain ⟨key, a⟩ := entry
    rw [entriesOf, ih]
    rfl

theorem keys_entriesOf (entries : Entries Argument) :
    Entries.keys (entriesOf entries) = Entries.keys entries := by
  rw [entriesOf_eq_map]
  exact List.map_map

theorem entriesOf_merge (d update : Entries Argument) :
    entriesOf (d.merge update) = (entriesOf d).merge (entriesOf update) := by
  simp only [entriesOf_eq_map]
  exact Entries.map_merge datum

end Argument

namespace Datum

theorem nodup_collect {items : List Datum} {index : Nat} {acc entries : Entries Datum}
    (hacc : (Entries.keys acc).Nodup) (h : collect index acc items = .ok entries) :
    (Entries.keys entries).Nodup := by
  induction items generalizing index acc with
  | nil =>
    cases h
    exact hacc
  | cons d rest ih =>
    obtain ⟨⟨first, second⟩, -, h⟩ := Outcome.bind_eq_ok h
    obtain ⟨key, -, h⟩ := Outcome.bind_eq_ok h
    exact ih (Entries.nodup_keys_set hacc) h

/-- Pairs make an object that names each key once, even if they do not. -/
theorem nodup_entries {a : Argument} {entries : Entries Datum} (ha : a.NamesOnce)
    (h : a.datum.entries = .ok entries) : (Entries.keys entries).Nodup := by
  unfold Datum.entries at h
  split at h
  · rename_i hobject
    cases h
    exact ha _ hobject
  · split at h
    · have hnil : (Entries.keys ([] : Entries Datum)).Nodup := List.nodup_nil
      exact nodup_collect hnil h
    · cases h

end Datum

namespace Projection

/-! ## Histories -/

/-- The projections that a caller begins with. -/
inductive Initial : Projection → Prop
  | made {fields searchHighlights textScore searchScore expressions : Argument} {p : Projection} :
      fields.NamesOnce → expressions.NamesOnce →
      of fields searchHighlights textScore searchScore expressions = .ok p → Initial p
  | including {fields : List Argument} {searchHighlights textScore searchScore : Argument}
      {p : Projection} : ofFields fields searchHighlights textScore searchScore = .ok p → Initial p

/-- A projection refined by one call after the other. -/
def refine (p : Projection) (calls : List Call) : Except Fault Projection := calls.foldlM call p

namespace Call

/-- Whether a call that takes a mapping is given one. -/
def Mapping : Call → Prop
  | .withFields a | .withExpressions a => ∃ entries, a = .object entries
  | .withoutId => True

/-- What a call says of the included fields. -/
def fields : Call → Entries Datum
  | .withFields (.object fields) => Argument.entriesOf fields
  | _ => []

/-- What a call says of the expressions. -/
def expressions : Call → Entries Datum
  | .withExpressions (.object expressions) => Argument.entriesOf expressions
  | .withoutId => [("_id", .bool false)]
  | _ => []

end Call

variable {p q : Projection} {calls : List Call}

theorem Initial.nodup (h : p.Initial) :
    (Entries.keys p.includedFields).Nodup ∧ (Entries.keys p.extraExpressions).Nodup := by
  cases h with
  | made hf he h =>
    obtain ⟨fields, hfields, h⟩ := Outcome.bind_eq_ok h
    obtain ⟨expressions, hexpressions, h⟩ := Outcome.bind_eq_ok h
    cases h
    exact ⟨Datum.nodup_entries hf hfields, Datum.nodup_entries he hexpressions⟩
  | including h =>
    obtain ⟨names, -, h⟩ := Outcome.bind_eq_ok h
    cases h
    exact ⟨Entries.nodup_keys_ofList, List.nodup_nil⟩

theorem call_eq_ok_iff {c : Call} : p.call c = .ok q
    ↔ c.Mapping ∧ q = (p.withFields c.fields).withExpressions c.expressions := by
  cases c with
  | withFields a =>
    cases a <;> simp [call, mappingOf, Call.Mapping, Call.fields, Call.expressions, Except.map,
      withExpressions, Entries.merge, eq_comm]
  | withExpressions a =>
    cases a <;> simp [call, mappingOf, Call.Mapping, Call.fields, Call.expressions, Except.map,
      withFields, Entries.merge, eq_comm]
  | withoutId =>
    simp [call, Call.Mapping, Call.fields, Call.expressions, withFields, withoutId, Entries.merge,
      eq_comm]

theorem withFields_withExpressions_append (fields expressions more more' : Entries Datum) :
    (((p.withFields fields).withExpressions expressions).withFields more).withExpressions more'
      = (p.withFields (fields ++ more)).withExpressions (expressions ++ more') := by
  simp [withFields, withExpressions, Entries.merge_append]

/-- Calls say one after the other what each of them says. -/
theorem refine_eq_ok_iff : p.refine calls = .ok q ↔ (∀ c ∈ calls, c.Mapping) ∧
    q = (p.withFields (calls.flatMap Call.fields)).withExpressions
      (calls.flatMap Call.expressions) := by
  induction calls generalizing p with
  | nil =>
    constructor
    · intro h
      cases h
      exact ⟨fun _ hc => (List.not_mem_nil hc).elim, rfl⟩
    · rintro ⟨-, rfl⟩
      rfl
  | cons c rest ih =>
    rw [List.flatMap_cons, List.flatMap_cons, ← withFields_withExpressions_append,
      List.forall_mem_cons]
    have hcons : p.refine (c :: rest) = p.call c >>= (·.refine rest) := List.foldlM_cons
    rw [hcons]
    constructor
    · intro h
      obtain ⟨r, hr, h⟩ := Outcome.bind_eq_ok h
      obtain ⟨hc, rfl⟩ := call_eq_ok_iff.mp hr
      obtain ⟨hrest, hq⟩ := ih.mp h
      exact ⟨⟨hc, hrest⟩, hq⟩
    · rintro ⟨⟨hc, hrest⟩, hq⟩
      rw [call_eq_ok_iff.mpr ⟨hc, rfl⟩]
      exact ih.mpr ⟨hrest, hq⟩

/-! ## What was said -/

/-- All that was said of the included fields. -/
def fieldsSaid (p : Projection) (calls : List Call) : Entries Datum :=
  p.includedFields ++ calls.flatMap Call.fields

/-- All that was said of the expressions. -/
def expressionsSaid (p : Projection) (calls : List Call) : Entries Datum :=
  p.extraExpressions ++ calls.flatMap Call.expressions

/-- The names of the flagged meta fields. -/
def flagged (p : Projection) : List String :=
  ([("searchHighlights", p.searchHighlights), ("textScore", p.textScore),
    ("searchScore", p.searchScore)].filter fun entry => entry.2.truthy).map (·.1)

/-- The keys in their order: included fields, expressions and meta fields as they came up first. -/
def order (p : Projection) (calls : List Call) : List String :=
  ((Entries.keys (p.fieldsSaid calls)).filter (· != typeTag)
    ++ Entries.keys (p.expressionsSaid calls) ++ p.flagged).eraseDups

/-- What stands under a key: a flagged meta field, or else the expression that came last, or else
the truth of what was said last of the included field. The type tag is not included. -/
def content (p : Projection) (calls : List Call) (key : String) : Option Datum :=
  if key ∈ p.flagged then some (.ofValue (metaField key))
  else (Entries.last? key (p.expressionsSaid calls)).or
    (if key = typeTag then none
      else (Entries.last? key (p.fieldsSaid calls)).map fun d => .bool d.truthy)

theorem metaEntries_eq_map :
    p.metaEntries = p.flagged.map fun name => (name, .ofValue (metaField name)) := by
  unfold metaEntries flagged
  cases hh : p.searchHighlights.truthy <;> cases ht : p.textScore.truthy <;>
    cases hs : p.searchScore.truthy <;> simp [hh, ht, hs, highlightsKey]

/-- The layers one after the other. -/
def layers (p : Projection) (calls : List Call) : Entries Datum :=
  (Entries.erase typeTag (p.fieldsSaid calls)).map (fun entry => (entry.1, .bool entry.2.truthy))
    ++ p.expressionsSaid calls ++ p.metaEntries

theorem keys_layers : (Entries.keys (p.layers calls)).eraseDups = p.order calls := by
  have herased : Entries.keys ((Entries.erase typeTag (p.fieldsSaid calls)).map
        fun entry => (entry.1, Datum.bool entry.2.truthy))
      = (Entries.keys (p.fieldsSaid calls)).filter (· != typeTag) := by
    simp [Entries.keys, Entries.erase, List.filter_map, Function.comp_def]
  have hmeta : Entries.keys p.metaEntries = p.flagged := by
    simp [metaEntries_eq_map, Entries.keys, Function.comp_def]
  unfold layers order
  rw [← herased, ← hmeta]
  simp only [Entries.keys, List.map_append]

theorem last?_layers (key : String) : Entries.last? key (p.layers calls) = p.content calls key := by
  unfold layers content
  rw [Entries.last?_append, Entries.last?_append, metaEntries_eq_map, Entries.last?_names,
    Entries.last?_map fun d : Datum => Datum.bool d.truthy, Entries.last?_erase]
  by_cases hm : key ∈ p.flagged
  · rw [if_pos hm, if_pos hm]
    rfl
  · rw [if_neg hm, if_neg hm, Option.none_or]
    by_cases ht : key = typeTag
    · rw [if_pos ht, if_pos ht]
      rfl
    · rw [if_neg ht, if_neg ht]

/-- The layers over each other come to what they say one after the other. -/
theorem entries_eq_ofList (hp : p.Initial) (h : p.refine calls = .ok q) :
    q.entries = Entries.ofList (p.layers calls) := by
  obtain ⟨hfields, hexpressions⟩ := hp.nodup
  obtain ⟨-, rfl⟩ := refine_eq_ok_iff.mp h
  have hsaid : Entries.merge p.includedFields (calls.flatMap Call.fields)
      = Entries.ofList (p.fieldsSaid calls) := by
    rw [fieldsSaid, Entries.ofList_append, Entries.ofList_of_nodup hfields]
  have hsaid' : Entries.merge p.extraExpressions (calls.flatMap Call.expressions)
      = Entries.ofList (p.expressionsSaid calls) := by
    rw [expressionsSaid, Entries.ofList_append, Entries.ofList_of_nodup hexpressions]
  change ((Entries.erase typeTag ((Entries.merge p.includedFields (calls.flatMap Call.fields)).map
      fun entry => (entry.1, Datum.bool entry.2.truthy))).merge
        (Entries.merge p.extraExpressions (calls.flatMap Call.expressions))).merge p.metaEntries = _
  rw [hsaid, hsaid', Entries.erase_map fun d : Datum => Datum.bool d.truthy, Entries.erase_ofList,
    Entries.map_ofList fun d : Datum => Datum.bool d.truthy, Entries.merge_ofList, layers,
    Entries.ofList_append, Entries.ofList_append]

/-! ## The document -/

/-- How a projection that was refined by calls renders: its entries are drawn up with whatever was
handed over for them, and its document is these entries, if they are plain data. -/
structure Renders (p : Projection) (calls : List Call) (q : Projection) : Prop where
  keys : Entries.keys q.entries = p.order calls
  content : ∀ key, Entries.get? key q.entries = p.content calls key
  rendered : ∀ d, q.render = .ok d ↔ q.entries = Datum.ofDocumentEntries d

theorem refine_renders (hp : p.Initial) (h : p.refine calls = .ok q) : p.Renders calls q := by
  have hentries := entries_eq_ofList hp h
  constructor
  · rw [hentries, Entries.keys_ofList, keys_layers]
  · intro key
    rw [hentries, Entries.get?_ofList, last?_layers]
  · exact fun d => Datum.document_eq_ok_iff

/-- How refinements of a projection follow one another. -/
structure Interplay (p : Projection) : Prop where
  fields_expressions : ∀ fields expressions q,
    p.refine [.withFields fields, .withExpressions expressions] = .ok q
      ↔ p.refine [.withExpressions expressions, .withFields fields] = .ok q
  fields_withoutId : ∀ fields q,
    p.refine [.withFields fields, .withoutId] = .ok q
      ↔ p.refine [.withoutId, .withFields fields] = .ok q
  fields_fields : ∀ fields more, (Entries.keys fields).Nodup →
    p.refine [.withFields (.object fields), .withFields (.object more)]
      = p.refine [.withFields (.object (fields.merge more))]
  expressions_expressions : ∀ expressions more, (Entries.keys expressions).Nodup →
    p.refine [.withExpressions (.object expressions), .withExpressions (.object more)]
      = p.refine [.withExpressions (.object (expressions.merge more))]
  withoutId_eq : p.refine [.withoutId]
    = p.refine [.withExpressions (.object [("_id", .bool false)])]
  withoutId_withoutId : p.refine [.withoutId, .withoutId] = p.refine [.withoutId]

/-- Two calls may change places if what they say is of different layers. -/
theorem refine_swap {c k : Call} (hfields : c.fields ++ k.fields = k.fields ++ c.fields)
    (hexpressions : c.expressions ++ k.expressions = k.expressions ++ c.expressions) :
    p.refine [c, k] = .ok q ↔ p.refine [k, c] = .ok q := by
  have hmapping : (∀ x ∈ [c, k], x.Mapping) ↔ ∀ x ∈ [k, c], x.Mapping := by simp [and_comm]
  rw [refine_eq_ok_iff, refine_eq_ok_iff, hmapping]
  simp only [List.flatMap_cons, List.flatMap_nil, List.append_nil, hfields, hexpressions]

section Merged

variable {entries more : Entries Argument}

theorem merge_merge_entriesOf {d : Entries Datum} (h : (Entries.keys entries).Nodup) :
    (d.merge (Argument.entriesOf entries)).merge (Argument.entriesOf more)
      = d.merge (Argument.entriesOf (entries.merge more)) := by
  rw [Argument.entriesOf_merge, Entries.merge_assoc]
  rwa [Argument.keys_entriesOf]

theorem withFields_withFields (h : (Entries.keys entries).Nodup) :
    (p.withFields (Argument.entriesOf entries)).withFields (Argument.entriesOf more)
      = p.withFields (Argument.entriesOf (entries.merge more)) := by
  simp only [withFields, merge_merge_entriesOf h]

theorem withExpressions_withExpressions (h : (Entries.keys entries).Nodup) :
    (p.withExpressions (Argument.entriesOf entries)).withExpressions (Argument.entriesOf more)
      = p.withExpressions (Argument.entriesOf (entries.merge more)) := by
  simp only [withExpressions, merge_merge_entriesOf h]

theorem withoutId_withoutId : p.withoutId.withoutId = p.withoutId := by
  simp only [withoutId, withExpressions, Entries.merge, List.foldl_cons, List.foldl_nil,
    Entries.set_set_self]

end Merged

theorem interplay (p : Projection) : p.Interplay where
  fields_expressions _ _ _ := refine_swap (List.append_nil _) (List.append_nil _).symm
  fields_withoutId _ _ := refine_swap (List.append_nil _) (List.append_nil _).symm
  fields_fields _ _ h := congrArg Except.ok (withFields_withFields h)
  expressions_expressions _ _ h := congrArg Except.ok (withExpressions_withExpressions h)
  withoutId_eq := rfl
  withoutId_withoutId := congrArg Except.ok withoutId_withoutId

/-- Whatever a projection was begun with and refined by, its document is told by what was said. -/
theorem refined_renders_what_was_said (hp : p.Initial) (calls : List Call) :
    ((∃ q, p.refine calls = .ok q) ↔ ∀ c ∈ calls, c.Mapping) ∧
    ∀ q, p.refine calls = .ok q → p.Renders calls q ∧ q.Interplay := by
  refine ⟨⟨?_, fun hc => ?_⟩, fun q h => ⟨refine_renders hp h, interplay q⟩⟩
  · rintro ⟨q, h⟩
    exact (refine_eq_ok_iff.mp h).1
  · exact ⟨_, refine_eq_ok_iff.mpr ⟨hc, rfl⟩⟩

/-- The name and the score of a film, without its identifier and its address, but with the place of
the address. -/
theorem refined_place_of_address : ∃ p q d,
    ofFields [.str "name", .str "address"] (.bool false) (.bool true) (.bool false) = .ok p ∧
    p.refine [.withoutId, .withFields (.object [("address", .bool false)]),
      .withExpressions (.object [("address.location", .bool true)])] = .ok q ∧
    q.render = .ok d ∧
    Entries.keys d = ["name", "address", "_id", "address.location", "textScore"] ∧
    d.get? "address" = some (.bool false) := by
  have hof : ofFields [.str "name", .str "address"] (.bool false) (.bool true) (.bool false)
      = .ok (including ["name", "address"] (.bool false) (.bool true) (.bool false)) := rfl
  obtain ⟨-, hall⟩ := refined_renders_what_was_said (.including hof)
    [.withoutId, .withFields (.object [("address", .bool false)]),
      .withExpressions (.object [("address.location", .bool true)])]
  obtain ⟨hrenders, -⟩ := hall _ rfl
  have plain := (hrenders.rendered _).mp rfl
  refine ⟨_, _, _, hof, rfl, rfl, ?_, ?_⟩
  · rw [← Datum.keys_ofDocumentEntries, ← plain]
    exact hrenders.keys
  · have drawn := (hrenders.content "address").trans (show _ = some (.bool false) from rfl)
    rw [plain, Datum.get?_ofDocumentEntries, Option.map_eq_some_iff] at drawn
    obtain ⟨v, hv, hd⟩ := drawn
    rw [hv]
    cases v <;> cases hd
    rfl

end Projection
end DocSearch
