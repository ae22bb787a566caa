import DocSearch.Proofs.Builders.Calls
import DocSearch.Proofs.Query.Built
import DocSearch.Proofs.Query.Unfinished
import DocSearch.Proofs.Search.Assembly

/-! # When a search cannot be put together

Almost everything that can be wrong with a clause is reported when it is made. What is left is a
score that is not finished, and what is no clause in the first place. A compound never fails: it
rendered its clauses when it was given them, and the calls that gave it others have failed. -/

namespace DocSearch

open Outcome

/-- A leaf, or a compound with or without a name. -/
def Argument.IsClause : Argument → Prop
  | .made (.clause _) | .made (.builder _ _) => True
  | _ => False

/-! ## Outcomes of asking for a clause -/

/-- A leaf from arguments of the annotated types fails if and only if its score is not finished. A
builder never fails, whatever calls it has been through, and what is no clause always does. -/
structure FailsUnfinished {α : Type} (outcome : Argument → Except Fault α) : Prop where
  leaf : ∀ c, Definition.Built (.clause (.leaf c)) →
    FailsIff c.Unfinished .state (outcome (.made (.clause (.leaf c))))
  compound : ∀ count start calls, Compound.new count = .ok start →
    (∃ r, outcome (.made (.clause (.compound (start.run calls)))) = .ok r) ∧
      ∀ name, ∃ r, outcome (.made (.builder name (start.run calls))) = .ok r
  other : ∀ a, ¬ a.IsClause → ∃ fault, outcome a = .error fault ∧ fault.kind = .type

theorem failsUnfinished_documentOf : FailsUnfinished Clause.documentOf where
  leaf := by
    intro c hc
    exact LeafClause.Typed.render_fails_iff hc.sound
  compound := by
    intro count start calls _
    exact ⟨⟨_, rfl⟩, fun name => ⟨_, rfl⟩⟩
  other := by
    intro a ha
    have hof : Clause.of a = .error (.notClause a.kindName) := by
      unfold Clause.of
      split
      · exact absurd trivial ha
      · exact absurd trivial ha
      · rfl
    exact ⟨.notClause a.kindName, by rw [Clause.documentOf, hof]; rfl, rfl⟩

/-- What never fails itself adds no failures. -/
theorem FailsUnfinished.bind {α β : Type} {outcome : Argument → Except Fault α}
    {f : α → Except Fault β} (h : FailsUnfinished outcome) (hf : ∀ a, ∃ b, f a = .ok b) :
    FailsUnfinished fun a => outcome a >>= f where
  leaf := by
    intro c hc
    exact (h.leaf c hc).bind hf
  compound := by
    have bound {a : Argument} (ha : ∃ r, outcome a = .ok r) : ∃ r, (outcome a >>= f) = .ok r := by
      obtain ⟨r, hr⟩ := ha
      rw [hr]
      exact hf r
    intro count start calls hn
    obtain ⟨hc, hb⟩ := h.compound count start calls hn
    exact ⟨bound hc, fun name => bound (hb name)⟩
  other := by
    intro a ha
    obtain ⟨fault, he, hk⟩ := h.other a ha
    exact ⟨fault, by rw [he]; rfl, hk⟩

theorem Pipeline.failsUnfinished_assemble (projection : Option Document)
    (highlight : Option HighlightOptions) (index : Value) {limit : Argument}
    (hlimit : Counts limit) :
    FailsUnfinished fun a => assemble a projection highlight index limit := by
  obtain ⟨n, hn⟩ := hlimit.exists_limitOf
  have heq : (fun a => assemble a projection highlight index limit)
      = fun a => Clause.documentOf a >>= fun rendered =>
        .ok (stagesOf rendered projection highlight index n) := by
    funext a
    rw [assemble_eq, hn]
    rfl
  rw [heq]
  exact failsUnfinished_documentOf.bind fun rendered => ⟨_, rfl⟩

/-! ## Calls of builders -/

/-- Whatever a builder holds was rendered by the call that was given it, and a call that was given a
clause without a document failed. -/
structure Compound.Reports (start : Compound) (calls : List Call) : Prop where
  held : ∀ occur, ∀ d ∈ (start.run calls).clauses occur,
    ∃ before k after, calls = before ++ k :: after ∧ (start.run before).Gives k occur d
  reported : ∀ before occur xs after, calls = before ++ .add occur xs :: after → ∀ x ∈ xs,
    (∀ now : Compound, ∃ fault, now.renderAddend x = .error fault) →
    ∃ documents fault, Adds renderAddend (start.run before) occur xs documents (some fault) ∧
      (start.run before).call (.add occur xs)
        = ((start.run before).extend occur documents, some fault)

theorem Compound.reports {count : Argument} {start : Compound} (hn : new count = .ok start)
    (calls : List Call) : Reports start calls where
  held := by
    intro occur d hd
    exact exists_gives hn hd
  reported := by
    intro before occur xs after _ x hx hf
    exact call_add_reports hx hf

/-! ## What can go wrong -/

/-- Rendering a clause and putting a search together fail for the same reasons, and builders are no
such reason. -/
theorem Pipeline.fails_only_unfinished :
    FailsUnfinished Clause.documentOf ∧
    (∀ projection highlight index limit, Counts limit →
      FailsUnfinished fun a => assemble a projection highlight index limit) ∧
    ∀ count start, Compound.new count = .ok start → ∀ calls, start.Reports calls := by
  refine ⟨failsUnfinished_documentOf, ?_, ?_⟩
  · intro projection highlight index limit hlimit
    exact failsUnfinished_assemble projection highlight index hlimit
  · intro count start hn calls
    exact Compound.reports hn calls

/-- A completion whose score options were made without a strategy. -/
def unfinishedCompletion : LeafClause :=
  .autocomplete ⟨⟨.single "ma"⟩, ⟨.single "title"⟩, .any, none, some ⟨.autocomplete, none⟩⟩

theorem unfinishedCompletion_built : Definition.Built (.clause (.leaf unfinishedCompletion)) := by
  have options : Definition.Built (.score ⟨.autocomplete, none⟩) := by
    refine @Definition.Built.options .autocomplete .null _ ?_ rfl
    intro d hd
    cases hd
  refine @Definition.Built.autocomplete (.str "ma") (.str "title") (.str "any")
    (.made (.score ⟨.autocomplete, none⟩)) none _ ?_ ?_ rfl
  · intro o ho
    cases ho
  · intro d hd
    cases hd
    exact options

theorem Pipeline.unfinishedCompletion_fails :
    (∃ fault, assemble (.made (.clause (.leaf unfinishedCompletion))) none none .null (.int 5)
      = .error fault ∧ fault.kind = .state) ∧
    ∀ c fault, Compound.call {} (.add .must [.given (.made (.clause (.leaf unfinishedCompletion)))])
      = (c, fault) → fault ≠ none ∧
        ∃ stages, assemble (.made (.builder "c" c)) none none .null (.int 5) = .ok stages := by
  have hlimit : Counts (.int 5) := .inr ⟨5, rfl, by decide⟩
  obtain ⟨-, hassemble, hreports⟩ := fails_only_unfinished
  have h := hassemble none none .null (.int 5) hlimit
  have hnew : Compound.new (.int 0) = .ok {} := rfl
  have hleaf := h.leaf unfinishedCompletion unfinishedCompletion_built
  constructor
  · obtain ⟨fault, hf⟩ := hleaf.iff.mpr ⟨_, rfl, .inl rfl⟩
    exact ⟨fault, hf, hleaf.kind fault hf⟩
  · intro c fault hc
    let calls : List Compound.Call :=
      [.add .must [.given (.made (.clause (.leaf unfinishedCompletion)))]]
    obtain ⟨documents, f, -, hf⟩ := (hreports _ _ hnew calls).reported [] .must _ [] rfl _ (.head _)
      fun now => ⟨_, rfl⟩
    constructor
    · rw [show ({} : Compound) = Compound.run {} [] from rfl, hf] at hc
      cases hc
      exact Option.some_ne_none f
    · obtain ⟨stages, hs⟩ := (h.compound _ _ calls hnew).2 "c"
      rw [show c = Compound.run {} calls from (congrArg Prod.fst hc).symm]
      exact ⟨stages, hs⟩

end DocSearch
